import AgentHive.Services.MediaCharges
import AgentHive.Services.MediaReservations

/-!
Every request on a media job charges for the reservation of the job, in the name of the
principal it acts for.
-/

namespace AgentHive

open Process (Action Keeping)
open MediaBudget MediaGeneration

variable {k : JobFacts} {origin : MediaGenerationJob} {userId : UUID}

theorem JobFacts.ne (k : JobFacts) {key : String} (own : key ∈ ownKeys) : k.key ≠ key := by
  intro eq
  exact k.foreign (eq ▸ own)

theorem get_retriedJob (principal : Principal) (requestId : Option String)
    (job : MediaGenerationJob) (reservation : ReservationMetadata) (retryCount : Int)
    (other : k.key ≠ "budget_reservation") :
    (retriedJob principal requestId reservation retryCount job).metadata.get k.key =
      job.metadata.get k.key := by
  change (setPresent (setPresent _ _ _) _ _).get _ = _
  rw [get_setPresent _ _ (k.ne (by decide)), get_setPresent _ _ (k.ne (by decide)),
    OrderedDict.get_merge_of_not_mem, OrderedDict.get_erase, if_neg (k.ne (by decide))]
  rw [OrderedDict.mem_keys_ofEntries]
  intro mem
  simp only [List.map_cons, List.map_nil, List.mem_cons, List.not_mem_nil, or_false] at mem
  rcases mem with first | second | third
  · exact other first
  · exact k.ne (by decide) second
  · exact k.ne (by decide) third

theorem get_calledBackJob (payload : MediaGenerationProviderCallback)
    (archived : Option (List Dict × Dict)) (job : MediaGenerationJob) :
    (calledBackJob payload archived job).metadata.get k.key = job.metadata.get k.key := by
  change (mergedWebhookMetadata _ _ _ _ _).get _ = _
  unfold mergedWebhookMetadata
  cases archived with
  | none => exact job.metadata.get_set_of_ne _ (k.ne (by decide))
  | some archived =>
    change ((job.metadata.set _ _).set _ _).get _ = _
    rw [OrderedDict.get_set_of_ne _ _ (k.ne (by decide)),
      OrderedDict.get_set_of_ne _ _ (k.ne (by decide))]

namespace Belongs

variable {job : MediaGenerationJob}

variable (belongs : Belongs k origin job)

include belongs

theorem updatedJob {payload : MediaGenerationJobStatusUpdate}
    (spared : Spared k payload.metadata) (outputs : Option (List Dict)) :
    Belongs k origin (MediaGeneration.updatedJob payload outputs job) where
  tenant := belongs.tenant
  user := belongs.user
  department := belongs.department
  kept := by
    change k.holds ((job.metadata.merge payload.metadata).get k.key)
    rw [OrderedDict.get_merge]
    exact spared _ belongs.kept

theorem canceledJob (principal : Principal)
    (requestId : Option String) :
    Belongs k origin (MediaGeneration.canceledJob principal requestId job) where
  tenant := belongs.tenant
  user := belongs.user
  department := belongs.department
  kept := by
    have same : (MediaGeneration.canceledJob principal requestId job).metadata.get k.key =
        job.metadata.get k.key := job.metadata.get_set_of_ne _ (k.ne (by decide))
    rw [same]
    exact belongs.kept

theorem retriedJob {reservation : ReservationMetadata}
    (fresh : k.key = "budget_reservation" → k.holds (some (.reservation reservation)))
    (principal : Principal) (requestId : Option String)
    (retryCount : Int) :
    Belongs k origin
      (MediaGeneration.retriedJob principal requestId reservation retryCount job) where
  tenant := belongs.tenant
  user := belongs.user
  department := belongs.department
  kept := by
    by_cases renewed : k.key = "budget_reservation"
    · rw [renewed, retriedJob_reservation]
      exact fresh renewed
    · rw [get_retriedJob _ _ _ _ _ renewed]
      exact belongs.kept

theorem calledBackJob (payload : MediaGenerationProviderCallback)
    (archived : Option (List Dict × Dict)) :
    Belongs k origin (MediaGeneration.calledBackJob payload archived job) where
  tenant := belongs.tenant
  user := belongs.user
  department := belongs.department
  kept := by
    rw [get_calledBackJob]
    exact belongs.kept

end Belongs

namespace Charges

variable {lib : MediaLibrary} {principal : Principal}

theorem assertJobAccess (job : MediaGenerationJob) :
    Charges k origin userId (MediaGeneration.assertJobAccess principal job) fun _ => True := by
  unfold MediaGeneration.assertJobAccess
  refine .ite (fun _ => .throw _) fun _ => ?_
  refine .ite (fun _ => .pure trivial) fun _ => ?_
  refine .asked trivial fun answer => ?_
  refine .bind (Q := fun _ => True) (stored fun _ _ => trivial) ?_
  intro departmentIds _
  exact (refuse _ _ _).mono fun _ _ => trivial

theorem getOwnJob (jobId : UUID) :
    Charges k origin userId (MediaGeneration.getOwnJob principal jobId) fun job =>
      Belongs k origin job ∧ principal.tenantId = origin.tenantId := by
  refine .bind (getJob jobId) ?_
  intro found belongs
  split
  · exact .throw _
  · rename_i job own
    obtain ⟨has, sameTenant⟩ := Option.filter_eq_some_iff.mp own
    have version := belongs job has
    refine .bind (assertJobAccess job) ?_
    intro _ _
    exact .pure ⟨version, (beq_iff_eq.mp sameTenant).symm.trans version.tenant⟩

theorem ensureRunnable (job : MediaGenerationJob) :
    Charges k origin userId (MediaGeneration.ensureRunnable job) fun _ => True := by
  refine .asked trivial fun runnable => ?_
  refine .computed fun _ => ?_
  refine .asked trivial fun configured => ?_
  refine .computed fun _ => ?_
  refine .asked trivial fun allowed => ?_
  exact .ofExcept fun _ _ => trivial

theorem validatedOutputs (job : MediaGenerationJob) (outputs : Option (List Dict)) :
    Charges k origin userId (MediaGeneration.validatedOutputs lib job outputs) fun _ => True := by
  cases outputs with
  | none => exact .pure trivial
  | some outputs =>
    simp only [MediaGeneration.validatedOutputs]
    split
    · exact .pure trivial
    · exact .throw _

variable {payload : MediaGenerationJobStatusUpdate}

theorem updateMediaGenerationJobStatus (spared : Spared k payload.metadata) (jobId : UUID)
    (requestId : Option String) :
    Charges k origin principal.userId
      (MediaGeneration.updateMediaGenerationJobStatus lib principal jobId payload requestId)
      (Belongs k origin) := by
  refine .bind (getOwnJob jobId) ?_
  intro job belongs
  refine .bind (refuse _ _ _) ?_
  intro _ _
  refine .bind (validatedOutputs job payload.outputs) ?_
  intro outputs _
  refine .bind (edit fun job version => version.updatedJob spared outputs) ?_
  intro _ _
  refine .ite (fun _ => ?_) fun _ => finish
  refine .bind (closeMediaGenerationBudget belongs.2 requestId payload.status) ?_
  intro _ _
  exact finish

theorem submitUpdate (spared : Spared k payload.metadata) (jobId : UUID)
    (requestId : Option String) :
    Charges k origin principal.userId
      (MediaGeneration.submitUpdate lib principal jobId payload requestId) (Belongs k origin) := by
  refine .bind (Q := fun valid => valid = payload) (.ofExcept ?_) ?_
  · intro valid isValid
    unfold MediaGenerationJobStatusUpdate.validate at isValid
    split at isValid
    · cases isValid
    · cases isValid
      rfl
  · intro valid same
    rw [same]
    exact updateMediaGenerationJobStatus spared jobId requestId

theorem cancelMediaGenerationJob (jobId : UUID) (requestId : Option String) :
    Charges k origin principal.userId
      (MediaGeneration.cancelMediaGenerationJob lib principal jobId requestId)
      (Belongs k origin) := by
  refine .bind (getOwnJob jobId) ?_
  intro job belongs
  refine .bind (refuse _ _ _) ?_
  intro _ _
  refine .bind (edit fun job version => version.canceledJob principal requestId) ?_
  intro _ _
  refine .bind (releaseMediaGenerationBudget belongs.2 requestId _) ?_
  intro _ _
  exact finish

variable {job : MediaGenerationJob}

theorem reserveMediaGenerationBudget (belongs : Belongs k origin job)
    (own : principal.tenantId = origin.tenantId) (requestId : Option String) (costUsd : ℚ) :
    Charges k origin principal.userId
      (MediaBudget.reserveMediaGenerationBudget lib principal job requestId costUsd)
      fun _ => True := by
  refine .computed fun usage => ?_
  have acts : ActsFor origin principal.userId
      (jobContext lib principal { job with requestId := none } requestId) :=
    { tenant := own
      user := rfl
      department := belongs.department
      costCenter := rfl }
  refine .bind (Q := fun _ => True) (.perform acts fun _ _ => trivial) ?_
  intro answer _
  refine .bind (Q := fun _ => True) (stored fun _ _ => trivial) ?_
  intro reservation _
  refine .bind (refuse _ _ _) ?_
  intro _ _
  exact .pure trivial

theorem retryMediaGenerationJob
    (free : ∀ raw, k.key = "budget_reservation" → k.holds (some (.reservation raw))) (jobId : UUID)
    (requestId : Option String) :
    Charges k origin principal.userId
      (MediaGeneration.retryMediaGenerationJob lib principal jobId requestId)
      (Belongs k origin) := by
  refine .bind (getOwnJob jobId) ?_
  intro job belongs
  refine .bind (ensureRunnable job) ?_
  intro _ _
  refine .bind (refuse _ _ _) ?_
  intro _ _
  refine .bind (reserveMediaGenerationBudget belongs.1 belongs.2 requestId _) ?_
  intro reservation _
  refine .computed fun retries => ?_
  refine .computed fun metadata => ?_
  refine .bind
    (edit fun job version => version.retriedJob (free metadata) principal requestId _) ?_
  intro _ _
  exact finish

theorem archiveOutputs (job : MediaGenerationJob) (outputs : List Dict) :
    Charges k origin userId (MediaGeneration.archiveOutputs job outputs) fun _ => True := by
  refine .asked trivial fun answer => ?_
  split
  · exact .pure trivial
  · exact .throw _
  · exact .throw _

theorem requireJob (jobId : UUID) (message : String) :
    Charges k origin userId (MediaGeneration.requireJob jobId message) (Belongs k origin) := by
  refine .bind (getJob jobId) ?_
  intro found belongs
  cases found with
  | none => exact .throw _
  | some job => exact .pure (belongs job rfl)

variable {result : MediaProviderSubmitResult}

theorem applyProviderResult (spared : Spared k result.metadata) (jobId : UUID)
    (requestId : Option String) :
    Charges k origin principal.userId
      (MediaGeneration.applyProviderResult lib principal jobId result requestId)
      (Belongs k origin) := by
  refine .bind (requireJob jobId _) ?_
  intro job _
  refine .bind (archiveOutputs job _) ?_
  intro archived _
  exact submitUpdate (spared.after (by simp [ownKeys])) jobId requestId

theorem archiveProviderResult (spared : Spared k result.metadata) (executor : String) (jobId : UUID)
    (requestId : Option String) :
    Charges k origin principal.userId
      (MediaGeneration.archiveProviderResult lib executor principal jobId result requestId)
      (Belongs k origin) := by
  refine .tryCatch (applyProviderResult spared jobId requestId) ?_
  intro exc
  refine .ite (fun _ => ?_) fun _ => .throw _
  exact submitUpdate (spared_ofEntries (by simp [executorEntry, ownKeys])) jobId
    requestId

variable {marks : List (String × MediaValue)}

theorem marked {executor className : String} (own : ∀ key ∈ marks.map Prod.fst, key ∈ ownKeys) :
    ∀ key ∈ ([executorEntry executor, ("error_type", .plain (.str className))] ++ marks).map
      Prod.fst, key ∈ ownKeys := by
  rw [List.map_append]
  exact List.forall_mem_append.mpr ⟨by simp [executorEntry, ownKeys], own⟩

theorem providerFailed {failure : ProviderFailure} (own : ∀ key ∈ marks.map Prod.fst, key ∈ ownKeys)
    (spared : ∀ className message metadata, failure = .provider className message metadata →
      Spared k metadata) (executor : String) (status : MediaGenerationJobStatus) (text : String)
    (jobId : UUID) (requestId : Option String) :
    Charges k origin principal.userId
      (MediaGeneration.providerFailed lib executor status text marks principal jobId requestId
        failure) (Belongs k origin) := by
  cases failure with
  | provider className message metadata =>
    refine submitUpdate ((spared className message metadata rfl).after ?_) jobId requestId
    exact marked own
  | exception className => exact submitUpdate (spared_ofEntries (marked own)) jobId requestId
  | cancelled => exact .throw _

theorem startJob (belongs : Belongs k origin job) (jobId : UUID) (requestId : Option String) :
    Charges k origin principal.userId
      (MediaGeneration.startJob lib principal jobId requestId job) (Belongs k origin) := by
  refine .ite (fun _ => ?_) fun _ => .pure belongs
  refine .bind
    (submitUpdate (spared_ofEntries (by simp [executorEntry, ownKeys])) jobId
      requestId) ?_
  intro _ _
  exact requireJob jobId _

def SparesAnswer (k : JobFacts)
    (answer : Except ProviderFailure MediaProviderSubmitResult) : Prop :=
  (∀ result, answer = .ok result → Spared k result.metadata) ∧
    ∀ className message metadata, answer = .error (.provider className message metadata) →
      Spared k metadata

theorem submit_spares (answer : MediaAnswer (.submit job))
    (told : MediaTold k origin ⟨.submit job, answer⟩) : SparesAnswer k answer := by
  constructor
  · intro result eq
    rw [eq] at told
    exact told
  · intro className message metadata eq
    rw [eq] at told
    exact told

theorem poll_spares (answer : MediaAnswer (.poll job))
    (told : MediaTold k origin ⟨.poll job, answer⟩) : SparesAnswer k answer := by
  constructor
  · intro result eq
    rw [eq] at told
    exact told
  · intro className message metadata eq
    rw [eq] at told
    exact told

theorem executeMediaGenerationJob (jobId : UUID) (requestId : Option String) :
    Charges k origin principal.userId
      (MediaGeneration.executeMediaGenerationJob lib principal jobId requestId)
      (Belongs k origin) := by
  refine .bind (getOwnJob jobId) ?_
  intro job belongs
  refine .bind (ensureRunnable job) ?_
  intro _ _
  refine .bind (refuse _ _ _) ?_
  intro _ _
  refine .bind (startJob belongs.1 jobId requestId) ?_
  intro job _
  refine .asked trivial fun adapter => ?_
  refine .computed fun _ => ?_
  refine .bind (.perform trivial submit_spares) ?_
  intro answer spared
  cases answer with
  | error failure =>
    refine providerFailed (by simp) ?_ _ _ _ jobId requestId
    intro className message metadata eq
    exact spared.2 className message metadata (congrArg Except.error eq)
  | ok result => exact archiveProviderResult (spared.1 result rfl) _ jobId requestId

theorem pollMediaGenerationJob (jobId : UUID) (requestId : Option String) :
    Charges k origin principal.userId
      (MediaGeneration.pollMediaGenerationJob lib principal jobId requestId)
      (Belongs k origin) := by
  refine .bind (getOwnJob jobId) ?_
  intro job belongs
  refine .bind (ensureRunnable job) ?_
  intro _ _
  refine .bind (refuse _ _ _) ?_
  intro _ _
  refine .bind (refuse _ _ _) ?_
  intro _ _
  refine .asked trivial fun adapter => ?_
  refine .computed fun _ => ?_
  refine .bind (.perform trivial poll_spares) ?_
  intro answer spared
  cases answer with
  | error failure =>
    refine providerFailed (by simp [ownKeys]) ?_ _ _ _ jobId requestId
    intro className message metadata eq
    exact spared.2 className message metadata (congrArg Except.error eq)
  | ok result =>
    refine archiveProviderResult ?_ _ jobId requestId
    exact (spared.1 result rfl).after (by simp [executorEntry, ownKeys])

theorem assertCallbackMatchesJob (job : MediaGenerationJob)
    (payload : MediaGenerationProviderCallback) :
    Charges k origin userId (MediaGeneration.assertCallbackMatchesJob job payload)
      fun _ => True := by
  refine .bind (refuse _ _ _) ?_
  intro _ _
  exact (refuse _ _ _).mono fun _ _ => trivial

variable (payload : MediaGenerationProviderCallback)

theorem findCallbackJob :
    Charges k origin userId (MediaGeneration.findCallbackJob payload) (Belongs k origin) := by
  refine .ite (fun _ => ?_) fun _ => .throw _
  refine .bind (Q := fun answer => ∀ found, answer = Except.ok found →
    ∀ job, found = [job] → Belongs k origin job) (.perform trivial ?_) ?_
  · intro answer told found eq
    rw [eq] at told
    exact told
  · intro answer told
    refine .bind (stored told) ?_
    intro found belongs
    split
    · exact .throw _
    · rename_i job
      refine .bind (load (belongs job rfl)) ?_
      intro _ _
      refine .bind (assertCallbackMatchesJob job payload) ?_
      intro _ _
      exact .pure (belongs job rfl)
    · exact .throw _

theorem resolveCallbackJob :
    Charges k origin userId (MediaGeneration.resolveCallbackJob payload) (Belongs k origin) := by
  unfold MediaGeneration.resolveCallbackJob
  split
  · exact findCallbackJob payload
  · rename_i jobId _
    refine .bind (getJob jobId) ?_
    intro found belongs
    cases found with
    | none => exact findCallbackJob payload
    | some job =>
      refine .bind (assertCallbackMatchesJob job payload) ?_
      intro _ _
      exact .pure (belongs job rfl)

theorem callbackFailed {α : Type} (statusCode : Nat) (detail : String) {Q : α → Prop} :
    Charges k origin userId (MediaGeneration.callbackFailed statusCode detail) Q := by
  refine .bind attached ?_
  intro _ _
  refine .bind commit ?_
  intro _ _
  exact .throw _

theorem archiveCallbackOutputs (job : MediaGenerationJob) (outputs : Option (List Dict)) :
    Charges k origin userId (MediaGeneration.archiveCallbackOutputs job outputs)
      fun _ => True := by
  cases outputs with
  | none => exact .pure trivial
  | some outputs =>
    refine .tryCatch ?_ ?_
    · rw [map_eq_pure_bind]
      refine .bind (archiveOutputs job outputs) ?_
      intro _ _
      exact .pure trivial
    · intro exc
      exact .ite (fun _ => callbackFailed _ _) fun _ => .throw _

theorem ensureCallbackTransition (job : MediaGenerationJob)
    (payload : MediaGenerationProviderCallback) :
    Charges k origin userId (MediaGeneration.ensureCallbackTransition job payload)
      fun _ => True := by
  refine .tryCatch ((refuse _ _ _).mono fun _ _ => trivial) ?_
  intro exc
  refine .bind attached ?_
  intro _ _
  refine .bind commit ?_
  intro _ _
  exact .throw _

theorem handleMediaGenerationProviderCallback (requestId : Option String) :
    Charges k origin (jobPrincipal origin).userId
      (MediaGeneration.handleMediaGenerationProviderCallback lib payload requestId)
      (Belongs k origin) := by
  refine .bind (resolveCallbackJob payload) ?_
  intro job belongs
  have same : (jobPrincipal job).userId = (jobPrincipal origin).userId := by
    rw [jobPrincipal, jobPrincipal, belongs.user]
  refine .ite (fun _ => .ite (fun _ => callbackFailed _ _) fun _ => finish)
    fun _ => ?_
  refine .bind (ensureCallbackTransition job payload) ?_
  intro _ _
  refine .bind (archiveCallbackOutputs job payload.outputs) ?_
  intro archived _
  refine .bind (edit fun job version => version.calledBackJob payload archived) ?_
  intro _ _
  refine .ite (fun _ => ?_) fun _ => finish
  rw [← same]
  have own : (jobPrincipal job).tenantId = origin.tenantId := belongs.tenant
  refine .bind (closeMediaGenerationBudget own requestId payload.status) ?_
  intro _ _
  exact finish

end Charges

namespace MediaRequest

def actor (origin : MediaGenerationJob) : MediaRequest → UUID
  | update principal _ _ _ | cancel principal _ _ | retry principal _ _ | execute principal _ _
  | poll principal _ _ => principal.userId
  | callback _ _ => (jobPrincipal origin).userId

def Spared (k : JobFacts) : MediaRequest → Prop
  | update _ _ payload _ => AgentHive.Spared k payload.metadata
  | _ => True

theorem step_charges (lib : MediaLibrary) {request : MediaRequest} (spared : request.Spared k)
    (retries : request.isRetry = true → ∀ raw,
      k.key = "budget_reservation" → k.holds (some (.reservation raw))) :
    Charges k origin (request.actor origin) (request.step lib) (Belongs k origin) := by
  cases request with
  | update principal jobId payload requestId =>
    exact Charges.updateMediaGenerationJobStatus spared jobId requestId
  | cancel principal jobId requestId => exact Charges.cancelMediaGenerationJob jobId requestId
  | retry principal jobId requestId =>
    exact Charges.retryMediaGenerationJob (retries rfl) jobId requestId
  | execute principal jobId requestId =>
    exact Charges.executeMediaGenerationJob jobId requestId
  | poll principal jobId requestId => exact Charges.pollMediaGenerationJob jobId requestId
  | callback payload requestId =>
    exact Charges.handleMediaGenerationProviderCallback payload requestId

theorem holdsJob_none : HoldsJob k origin none := by
  intro loaded mem
  cases mem

theorem program_charges (lib : MediaLibrary) {request : MediaRequest} (spared : request.Spared k)
    (retries : request.isRetry = true → ∀ raw,
      k.key = "budget_reservation" → k.holds (some (.reservation raw))) :
    (request.program lib).Meets (MediaTold k origin)
      (MediaPromise k origin (request.actor origin)) fun _ => True :=
  ((step_charges lib spared retries).run holdsJob_none).mono fun _ _ => trivial

end MediaRequest
end AgentHive
