import AgentHive.Services.MediaClosing

/-!
Every request on a media job follows the protocol of its commits, and ends
without scopes left to close.
-/

namespace AgentHive

open Process (Action)
open MediaBudget MediaGeneration

theorem spares_merge {first second : MediaMetadata} :
    spares (first.merge second) = true ↔ spares first = true ∧ spares second = true := by
  simp only [spares, decide_eq_true_eq, OrderedDict.mem_keys_merge, not_or]
  exact and_comm

theorem spares_ofEntries {entries : List (String × MediaValue)} :
    spares (.ofEntries entries) = true ↔ "budget_reservation" ∉ entries.map Prod.fst := by
  simp only [spares, decide_eq_true_eq, OrderedDict.mem_keys_ofEntries]

theorem keeps_status {previous next : MediaGenerationJobStatus}
    (allowed : ¬(previous ≠ next ∧ next ∉ previous.allowedTransitions))
    (ends : ¬(previous.isTerminal = false ∧ next.isTerminal = true)) :
    next.isTerminal = previous.isTerminal ∧ (previous.isTerminal = true → next = previous) := by
  by_cases same : previous = next
  · subst same
    exact ⟨rfl, fun _ => rfl⟩
  · have listed : next ∈ previous.allowedTransitions := by
      by_contra absent
      exact allowed ⟨same, absent⟩
    have began := MediaGenerationJobStatus.not_isTerminal_of_mem listed
    have stays : next.isTerminal = false := by
      by_contra ended
      exact ends ⟨began, eq_true_of_ne_false ended⟩
    rw [began, stays]
    exact ⟨rfl, nofun⟩

theorem updatedJob_rawReservation (payload : MediaGenerationJobStatusUpdate)
    (outputs : Option (List Dict)) (job : MediaGenerationJob)
    (sparing : spares payload.metadata = true) :
    (updatedJob payload outputs job).rawReservation = job.rawReservation :=
  MediaGenerationJob.rawReservation_congr
    (job.metadata.get_merge_of_not_mem (of_decide_eq_true sparing))

section Requests

variable {retry : Bool} {s : Option LoadedJob} {stand : MediaStand} {loaded : LoadedJob}

theorem finish_keeps (keeps : loaded.Keeps) :
    Succeeds retry MediaSession.finish (some loaded) .idle fun job s' stand' =>
      s' = some ⟨job, job⟩ ∧ stand' = .idle := by
  have may : CommitAllowed retry .idle ⟨MediaSession.dirty (some loaded), none, none⟩ := by
    cases writes : MediaSession.dirty (some loaded) with
    | none => exact .quiet rfl rfl
    | some written =>
      obtain rfl := Option.some.inj (Option.filter_eq_some_iff.mp writes).1
      exact .keep rfl rfl keeps
  refine Action.Follows.mono (finish_succeeds may) ?_
  intro r s' stand' h
  obtain ⟨job, ok, loads, stands⟩ := h
  refine ⟨job, ok, loads, stands.trans ?_⟩
  cases MediaSession.dirty (some loaded) <;> rfl

def Updated (next : MediaGenerationJobStatus) (r : Except Exc MediaGenerationJob)
    (s : Option LoadedJob) (stand : MediaStand) : Prop :=
  match r with
  | .ok job =>
    s = some ⟨job, job⟩ ∧ stand.isClosing = false ∧ (next.isTerminal = false → stand = .idle)
  | .error x => stand = .idle ∧ (isArchiveError x = true → Clean s)

variable {next : MediaGenerationJobStatus}

theorem Updated.settled {r : Except Exc MediaGenerationJob} (updated : Updated next r s stand) :
    stand.isClosing = false := by
  cases r with
  | ok job => exact updated.2.1
  | error x => exact updated.1 ▸ rfl

theorem closes_and_finishes (isEnd : next.isTerminal = true) {close : MediaStep Unit}
    (closes : Obeys retry close s .idle ClosedOr) :
    Obeys retry (close >>= fun _ => MediaSession.finish) s .idle (Updated next) := by
  refine closes.bind ?_ ?_
  · intro _ s' stand' closed
    refine Action.Follows.mono (Closed.finish closed) ?_
    intro r s'' stand'' h
    obtain ⟨job, rfl, loads, isOver⟩ := h
    refine ⟨loads, isOver, ?_⟩
    intro stays
    rw [isEnd] at stays
    cases stays
  · intro x s' stand' raised
    obtain ⟨idle, other⟩ := raised
    refine ⟨idle, ?_⟩
    intro archive
    rw [other] at archive
    cases archive

theorem keeps_and_finishes (keeps : loaded.Keeps) (next : MediaGenerationJobStatus) :
    Obeys retry MediaSession.finish (some loaded) .idle (Updated next) := by
  refine Action.Follows.mono (finish_keeps keeps) ?_
  intro r s' stand' h
  obtain ⟨job, rfl, loads, rfl⟩ := h
  exact ⟨loads, rfl, fun _ => rfl⟩

theorem edit_bind {β : Type} {f : MediaGenerationJob → MediaGenerationJob} {g : Unit → MediaStep β}
    {Q : Except Exc β → Option LoadedJob → MediaStand → Prop}
    (rest : Obeys retry (g ()) (some ⟨loaded.stored, f loaded.job⟩) stand Q) :
    Obeys retry (MediaSession.edit f >>= g) (some loaded) stand Q := rest

variable (lib : MediaLibrary)

theorem updateMediaGenerationJobStatus_obeys (clean : Clean s) (principal : Principal)
    (jobId : UUID) (payload : MediaGenerationJobStatusUpdate) (requestId : Option String)
    (sparing : spares payload.metadata = true) :
    Obeys retry (updateMediaGenerationJobStatus lib principal jobId payload requestId) s .idle
      (Updated payload.status) := by
  refine (Reads.getOwnJob clean principal jobId).bind_obeys ?_ fun _ _ clean => ⟨rfl, fun _ => clean⟩
  intro job s' loads
  subst loads
  have clean := clean_loaded job
  refine (Reads.refuse clean _ _ _).bind_obeys ?_ fun _ _ clean => ⟨rfl, fun _ => clean⟩
  intro _ s' h
  obtain ⟨rfl, allowed⟩ := h
  refine (Reads.validatedOutputs clean lib job payload.outputs).bind_obeys ?_
    fun _ _ clean => ⟨rfl, fun _ => clean⟩
  intro outputs s' same
  subst same
  apply edit_bind
  have reservation := updatedJob_rawReservation payload outputs job sparing
  split
  · rename_i ends
    have closing : LoadedJob.Ends ⟨job, updatedJob payload outputs job⟩ :=
      { reservation := reservation
        began := ends.1
        ended := ends.2 }
    exact closes_and_finishes ends.2
      (closeMediaGenerationBudget_obeys closing lib principal requestId payload.status)
  · rename_i ends
    obtain ⟨kept, stays⟩ := keeps_status allowed ends
    have keeps : LoadedJob.Keeps ⟨job, updatedJob payload outputs job⟩ :=
      { reservation := reservation
        ends := kept
        stays := stays }
    exact keeps_and_finishes keeps payload.status

theorem submitUpdate_obeys (clean : Clean s) (principal : Principal) (jobId : UUID)
    (payload : MediaGenerationJobStatusUpdate) (requestId : Option String)
    (sparing : spares payload.metadata = true) :
    Obeys retry (submitUpdate lib principal jobId payload requestId) s .idle
      (Updated payload.status) := by
  refine ofExcept_bind (fun valid isValid => ?_) fun x _ => ⟨rfl, fun _ => clean⟩
  have same : valid = payload := by
    unfold MediaGenerationJobStatusUpdate.validate at isValid
    split at isValid
    · cases isValid
    · cases isValid
      rfl
  rw [same]
  exact updateMediaGenerationJobStatus_obeys lib clean principal jobId payload requestId sparing

abbrev Over {α : Type} (_ : Except Exc α) (_ : Option LoadedJob) (stand : MediaStand) : Prop :=
  stand.isClosing = false

theorem over_of_updated {m : MediaStep MediaGenerationJob}
    (obeys : Obeys retry m s stand (Updated next)) : Obeys retry m s stand Over :=
  Action.Follows.mono obeys fun _ _ _ updated => updated.settled

theorem cancelMediaGenerationJob_obeys (clean : Clean s) (principal : Principal) (jobId : UUID)
    (requestId : Option String) :
    Obeys retry (cancelMediaGenerationJob lib principal jobId requestId) s .idle Over := by
  refine (Reads.getOwnJob clean principal jobId).bind_obeys ?_ fun _ _ _ => rfl
  intro job s' loads
  subst loads
  have clean := clean_loaded job
  refine (Reads.refuse clean _ _ _).bind_obeys ?_ fun _ _ _ => rfl
  intro _ s' h
  obtain ⟨rfl, allowed⟩ := h
  apply edit_bind
  have cancelable : job.status.isCancelable = true := eq_true_of_ne_false allowed
  have ends : LoadedJob.Ends ⟨job, canceledJob principal requestId job⟩ :=
    { reservation := MediaGenerationJob.rawReservation_congr
        (job.metadata.get_set_of_ne _ (by decide))
      began := MediaGenerationJobStatus.not_isTerminal_of_isCancelable cancelable
      ended := rfl }
  have isEnd : MediaGenerationJobStatus.canceled.isTerminal = true := rfl
  exact over_of_updated (closes_and_finishes isEnd
    (releaseMediaGenerationBudget_obeys ends lib principal requestId _))

theorem reservationMetadata_ok {reservation : BudgetReservation} {costUsd : ℚ}
    {metadata : ReservationMetadata}
    (made : reservationMetadata reservation costUsd = .ok metadata) :
    metadata.approved = reservation.approved ∧
      metadata.reservationId = reservation.reservationId ∧
      metadata.budgetScopes = reservation.budgetScopes := by
  simp only [reservationMetadata, bind, Except.bind] at made
  split at made
  · cases made
  · cases made
    exact ⟨rfl, rfl, rfl⟩

theorem get_setPresent (metadata : MediaMetadata) {key k : String} (value : Option MediaValue)
    (other : k ≠ key) : (setPresent metadata key value).get k = metadata.get k := by
  unfold setPresent
  split
  · exact metadata.get_set_of_ne _ other
  · rfl

variable (principal : Principal)

theorem retriedJob_reservation (requestId : Option String) (reservation : ReservationMetadata)
    (retryCount : Int) (job : MediaGenerationJob) :
    (retriedJob principal requestId reservation retryCount job).metadata.get "budget_reservation" =
      some (.reservation reservation) := by
  change (setPresent (setPresent _ _ _) _ _).get _ = _
  rw [get_setPresent _ _ (by decide), get_setPresent _ _ (by decide), OrderedDict.get_merge,
    OrderedDict.get_ofEntries (by simp)]
  rfl

theorem retriedJob_rawReservation (requestId : Option String) (reservation : ReservationMetadata)
    (retryCount : Int) (job : MediaGenerationJob) :
    (retriedJob principal requestId reservation retryCount job).rawReservation =
      some reservation := by
  simp only [MediaGenerationJob.rawReservation, retriedJob_reservation]

theorem reserveUsage_succeeds (usage : LLMUsageMetrics) (context : LLMRequestContext) :
    Succeeds true (Action.perform (MediaEffect.reserveUsage usage context)) s .idle
      fun answer s' stand' => ∃ reservation, answer = .ok reservation ∧ s' = s ∧
        stand' = .spare reservation.reservationId reservation.budgetScopes := by
  refine ⟨⟨rfl, rfl⟩, ?_⟩
  intro answer works
  cases answer with
  | ok reservation => exact ⟨_, rfl, reservation, rfl, rfl, rfl⟩
  | error f => cases works

theorem reserveMediaGenerationBudget_obeys (job : MediaGenerationJob) (requestId : Option String)
    (costUsd : ℚ) :
    Obeys true (reserveMediaGenerationBudget lib principal job requestId costUsd) s .idle
      fun r s' stand' => match r with
        | .ok reservation => s' = s ∧ reservation.approved = true ∧
            stand' = .spare reservation.reservationId reservation.budgetScopes
        | .error _ => stand'.isClosing = false := by
  refine ofExcept_bind (fun usage _ => ?_) fun x _ => rfl
  refine (reserveUsage_succeeds usage _).bind fun answer s' stand' h => ?_
  obtain ⟨reservation, rfl, rfl, rfl⟩ := h
  simp only [MediaSession.stored, MediaSession.refuse, pure_bind]
  split
  · exact rfl
  · rename_i allowed
    exact ⟨rfl, eq_true_of_ne_false allowed, rfl⟩

theorem requeue_finishes (retryable : loaded.stored.status.isRetryable = true)
    (queued : loaded.job.status = .queued) :
    Obeys true MediaSession.finish (some loaded)
      (.spare loaded.job.reservationId loaded.job.scopesToClose) Over := by
  have changed : loaded.job ≠ loaded.stored := by
    intro unchanged
    rw [← unchanged, queued] at retryable
    cases retryable
  have writes : MediaSession.dirty (some loaded) = some loaded := by
    simp [MediaSession.dirty, changed]
  have may : CommitAllowed true (.spare loaded.job.reservationId loaded.job.scopesToClose)
      ⟨MediaSession.dirty (some loaded), none, none⟩ :=
    .requeue rfl writes rfl retryable queued
  refine Action.Follows.mono (finish_succeeds may) ?_
  intro r s' stand' h
  obtain ⟨job, -, -, stands⟩ := h
  rw [writes] at stands
  exact stands ▸ rfl

theorem retryMediaGenerationJob_obeys (clean : Clean s) (principal : Principal) (jobId : UUID)
    (requestId : Option String) :
    Obeys true (retryMediaGenerationJob lib principal jobId requestId) s .idle Over := by
  refine (Reads.getOwnJob clean principal jobId).bind_obeys ?_ fun _ _ _ => rfl
  intro job s' loads
  subst loads
  have clean := clean_loaded job
  refine (Reads.ensureRunnable clean job).bind_obeys ?_ fun _ _ _ => rfl
  intro _ s' same
  subst same
  refine (Reads.refuse clean _ _ _).bind_obeys ?_ fun _ _ _ => rfl
  intro _ s' h
  obtain ⟨rfl, allowed⟩ := h
  refine (reserveMediaGenerationBudget_obeys lib principal job requestId _).bind ?_
    fun _ _ _ isOver => isOver
  intro reservation s' stand' h
  obtain ⟨rfl, approved, rfl⟩ := h
  refine ofExcept_bind (fun retries _ => ?_) fun x _ => rfl
  refine ofExcept_bind (fun metadata made => ?_) fun x _ => rfl
  apply edit_bind
  have kept := retriedJob_rawReservation principal requestId metadata (retries + 1) job
  obtain ⟨alsoApproved, sameId, sameScopes⟩ := reservationMetadata_ok made
  have spareId : reservation.reservationId =
      (retriedJob principal requestId metadata (retries + 1) job).reservationId := by
    simp [MediaGenerationJob.reservationId, kept, sameId]
  have spareScopes : reservation.budgetScopes =
      (retriedJob principal requestId metadata (retries + 1) job).scopesToClose := by
    simp [MediaGenerationJob.scopesToClose, kept, alsoApproved, approved, sameScopes]
  rw [spareId, spareScopes]
  exact requeue_finishes (eq_true_of_ne_false allowed) rfl

theorem applyProviderResult_obeys (clean : Clean s) (principal : Principal) (jobId : UUID)
    (result : MediaProviderSubmitResult) (requestId : Option String)
    (sparing : spares result.metadata = true) :
    Obeys retry (applyProviderResult lib principal jobId result requestId) s .idle
      (Updated result.status) := by
  refine (Reads.requireJob clean jobId _).bind_obeys ?_ fun _ _ clean => ⟨rfl, fun _ => clean⟩
  intro job s' loads
  subst loads
  have clean := clean_loaded job
  refine (Reads.archiveOutputs clean job _).bind_obeys ?_ fun _ _ clean => ⟨rfl, fun _ => clean⟩
  intro archived s' same
  subst same
  refine submitUpdate_obeys lib clean principal jobId _ requestId ?_
  exact spares_merge.mpr ⟨spares_ofEntries.mpr (by simp), sparing⟩

theorem archiveProviderResult_obeys (clean : Clean s) (executor : String) (principal : Principal)
    (jobId : UUID) (result : MediaProviderSubmitResult) (requestId : Option String)
    (sparing : spares result.metadata = true) :
    Obeys retry (archiveProviderResult lib executor principal jobId result requestId) s .idle
      Over := by
  refine (Action.follows_tryCatch _ _ _ _ _).mpr (Action.Follows.mono
    (applyProviderResult_obeys lib clean principal jobId result requestId sparing) ?_)
  intro r s' stand' updated
  cases r with
  | ok job => exact updated.2.1
  | error x =>
    obtain ⟨rfl, unchanged⟩ := updated
    change Obeys _ (if isArchiveError x then _ else _) _ _ _
    split
    · rename_i archive
      refine over_of_updated (submitUpdate_obeys lib (unchanged archive) principal jobId _
        requestId ?_)
      exact spares_ofEntries.mpr (by simp [executorEntry])
    · exact rfl

theorem providerFailed_obeys (clean : Clean s) (executor : String)
    (status : MediaGenerationJobStatus) (text : String) (marks : List (String × MediaValue))
    (principal : Principal) (jobId : UUID) (requestId : Option String) (failure : ProviderFailure)
    (unmarked : "budget_reservation" ∉ marks.map Prod.fst)
    (sparing : ∀ className message metadata,
      failure = .provider className message metadata → spares metadata = true) :
    Obeys retry (providerFailed lib executor status text marks principal jobId requestId failure)
      s .idle Over := by
  have own : ∀ className : String, spares (.ofEntries ([executorEntry executor,
      ("error_type", .plain (.str className))] ++ marks)) = true := by
    intro className
    refine spares_ofEntries.mpr ?_
    simpa [executorEntry] using unmarked
  cases failure with
  | provider className message metadata =>
    refine over_of_updated (submitUpdate_obeys lib clean principal jobId _ requestId ?_)
    exact spares_merge.mpr ⟨own className, sparing className message metadata rfl⟩
  | exception className =>
    exact over_of_updated (submitUpdate_obeys lib clean principal jobId _ requestId
      (own className))
  | cancelled => exact rfl

theorem startJob_obeys (jobId : UUID) (requestId : Option String) (job : MediaGenerationJob) :
    Obeys retry (startJob lib principal jobId requestId job) (some ⟨job, job⟩) .idle
      fun r s' stand' => stand' = .idle ∧ ∀ started, r = .ok started →
        s' = some ⟨started, started⟩ := by
  unfold startJob
  split
  · refine (submitUpdate_obeys lib (clean_loaded job) principal jobId _ requestId
      (spares_ofEntries.mpr (by decide))).bind ?_ ?_
    · intro updated s' stand' h
      obtain ⟨rfl, -, idle⟩ := h
      cases idle rfl
      refine Action.Follows.mono (Reads.requireJob (clean_loaded updated) jobId _ retry .idle) ?_
      intro r s'' stand'' h
      obtain ⟨rfl, loads⟩ := h
      refine ⟨rfl, ?_⟩
      intro started ok
      subst ok
      exact loads
    · intro x s' stand' h
      refine ⟨h.1, ?_⟩
      intro started ok
      cases ok
  · refine ⟨rfl, ?_⟩
    intro started ok
    cases ok
    rfl

theorem resolveAdapter_bind {β : Type} {f : Unit → MediaStep β} (job : MediaGenerationJob)
    (rest : Obeys retry (f ()) s .idle Over) :
    Obeys retry (Action.perform (MediaEffect.resolveAdapter job) >>= fun adapter =>
      Action.ofExcept adapter >>= f) s .idle Over := by
  refine Obeys.ask (fun _ _ => rfl) (fun _ => trivial) fun adapter _ => ?_
  exact ofExcept_bind (fun _ _ => rest) fun _ _ => rfl

theorem executeMediaGenerationJob_obeys (clean : Clean s) (principal : Principal) (jobId : UUID)
    (requestId : Option String) :
    Obeys retry (executeMediaGenerationJob lib principal jobId requestId) s .idle Over := by
  refine (Reads.getOwnJob clean principal jobId).bind_obeys ?_ fun _ _ _ => rfl
  intro job s' loads
  subst loads
  have clean := clean_loaded job
  refine (Reads.ensureRunnable clean job).bind_obeys ?_ fun _ _ _ => rfl
  intro _ s' same
  subst same
  refine (Reads.refuse clean _ _ _).bind_obeys ?_ fun _ _ _ => rfl
  intro _ s' h
  obtain ⟨rfl, -⟩ := h
  refine (startJob_obeys lib principal jobId requestId job).bind ?_ fun _ _ _ h => h.1 ▸ rfl
  intro started s' stand' h
  obtain ⟨rfl, loads⟩ := h
  cases loads started rfl
  have clean := clean_loaded started
  apply resolveAdapter_bind
  refine Obeys.ask (fun _ _ => rfl) (fun _ => trivial) fun answer works => ?_
  cases answer with
  | ok result => exact archiveProviderResult_obeys lib clean _ principal jobId result requestId works
  | error failure =>
    refine providerFailed_obeys lib clean _ _ _ [] principal jobId requestId failure (by decide) ?_
    intro className message metadata same
    subst same
    exact works

theorem pollMediaGenerationJob_obeys (clean : Clean s) (principal : Principal) (jobId : UUID)
    (requestId : Option String) :
    Obeys retry (pollMediaGenerationJob lib principal jobId requestId) s .idle Over := by
  refine (Reads.getOwnJob clean principal jobId).bind_obeys ?_ fun _ _ _ => rfl
  intro job s' loads
  subst loads
  have clean := clean_loaded job
  refine (Reads.ensureRunnable clean job).bind_obeys ?_ fun _ _ _ => rfl
  intro _ s' same
  subst same
  refine (Reads.refuse clean _ _ _).bind_obeys ?_ fun _ _ _ => rfl
  intro _ s' h
  obtain ⟨rfl, -⟩ := h
  refine (Reads.refuse clean _ _ _).bind_obeys ?_ fun _ _ _ => rfl
  intro _ s' h
  obtain ⟨rfl, -⟩ := h
  apply resolveAdapter_bind
  refine Obeys.ask (fun _ _ => rfl) (fun _ => trivial) fun answer works => ?_
  cases answer with
  | ok result =>
    refine archiveProviderResult_obeys lib clean _ principal jobId _ requestId ?_
    exact spares_merge.mpr ⟨spares_ofEntries.mpr (by simp [executorEntry]), works⟩
  | error failure =>
    refine providerFailed_obeys lib clean _ _ _ _ principal jobId requestId failure (by decide) ?_
    intro className message metadata same
    subst same
    exact works

end Requests

namespace Reads

variable {α : Type} {s : Option LoadedJob} {Q : α → Option LoadedJob → Prop}

variable (clean : Clean s)

include clean

theorem assertCallbackMatchesJob (job : MediaGenerationJob)
    (payload : MediaGenerationProviderCallback) :
    Reads (MediaGeneration.assertCallbackMatchesJob job payload) s fun _ s' => s' = s := by
  refine (refuse clean _ _ _).bind fun _ s' h => ?_
  obtain ⟨rfl, -⟩ := h
  exact (refuse clean _ _ _).mono fun _ _ h => h.1

theorem findCallbackJob (payload : MediaGenerationProviderCallback) :
    Reads (MediaGeneration.findCallbackJob payload) s fun job s' => s' = some ⟨job, job⟩ := by
  unfold MediaGeneration.findCallbackJob
  split
  · refine ask (fun _ _ => rfl) (fun _ _ => trivial) fun answer _ => ?_
    refine (stored clean answer).bind fun jobs s' h => ?_
    obtain ⟨rfl, -⟩ := h
    split
    · exact throw _ clean
    · rename_i job
      refine (load job).bind fun _ s' loads => ?_
      subst loads
      refine (assertCallbackMatchesJob (clean_loaded job) job payload).bind fun _ s' same => ?_
      exact pure job same
    · exact throw _ clean
  · exact throw _ clean

theorem resolveCallbackJob (payload : MediaGenerationProviderCallback) :
    Reads (MediaGeneration.resolveCallbackJob payload) s fun job s' => s' = some ⟨job, job⟩ := by
  unfold MediaGeneration.resolveCallbackJob
  split
  · exact findCallbackJob clean payload
  · rename_i jobId _
    refine (getJob clean jobId).bind fun found s' h => ?_
    obtain ⟨clean, loads⟩ := h
    cases found with
    | none => exact findCallbackJob clean payload
    | some job =>
      cases loads job rfl
      refine (assertCallbackMatchesJob clean job payload).bind fun _ s' same => ?_
      exact pure job same

theorem commit : Reads MediaSession.commit s fun _ s' => s' = s := by
  intro retry stand
  refine Action.Follows.mono (commit_succeeds clean) ?_
  intro r s' stand' h
  obtain ⟨done, rfl, same, stays⟩ := h
  exact ⟨stays, same⟩

theorem callbackFailed (statusCode : Nat) (detail : String) :
    Reads (MediaGeneration.callbackFailed statusCode detail) s Q := by
  refine (attached clean).bind fun _ s' h => ?_
  obtain ⟨rfl, -⟩ := h
  refine (commit clean).bind fun _ s' same => ?_
  subst same
  exact throw _ clean

theorem ensureCallbackTransition (job : MediaGenerationJob)
    (payload : MediaGenerationProviderCallback) :
    Reads (MediaGeneration.ensureCallbackTransition job payload) s fun _ s' => s' = s ∧
      ¬(job.status ≠ payload.status ∧ payload.status ∉ job.status.allowedTransitions) := by
  refine (refuse clean _ _ _).tryCatch fun x s' clean => ?_
  refine (attached clean).bind fun _ s' h => ?_
  obtain ⟨rfl, -⟩ := h
  refine (commit clean).bind fun _ s' same => ?_
  subst same
  exact throw _ clean

theorem archiveCallbackOutputs (job : MediaGenerationJob)
    (outputs : Option (List Dict)) :
    Reads (MediaGeneration.archiveCallbackOutputs job outputs) s fun _ s' => s' = s := by
  cases outputs with
  | none => exact pure none rfl
  | some outputs =>
    have archived : Reads (some <$> MediaGeneration.archiveOutputs job outputs) s
        fun _ s' => s' = s := by
      rw [map_eq_pure_bind]
      exact (archiveOutputs clean job outputs).bind fun _ _ same => pure _ same
    refine archived.tryCatch fun x s' clean => ?_
    split
    · exact callbackFailed clean _ _
    · exact throw x clean

end Reads

section Callback

variable {retry : Bool} {s : Option LoadedJob} (lib : MediaLibrary)

theorem handleTerminalCallback_obeys (job : MediaGenerationJob)
    (payload : MediaGenerationProviderCallback) :
    Obeys retry (handleTerminalCallback job payload) (some ⟨job, job⟩) .idle Over := by
  unfold handleTerminalCallback
  split
  · refine Action.Follows.mono (Reads.callbackFailed (Q := fun _ _ => True)
      (clean_loaded job) _ _ retry .idle) ?_
    intro r s' stand' h
    exact h.1 ▸ rfl
  · have keeps : LoadedJob.Keeps ⟨job, job⟩ :=
      { reservation := rfl
        ends := rfl
        stays := fun _ => rfl }
    exact over_of_updated (keeps_and_finishes keeps job.status)

theorem get_mergedWebhookMetadata (job : MediaGenerationJob)
    (payload : MediaGenerationProviderCallback) (previous : MediaGenerationJobStatus)
    (externalJobId : Option String) (archive : Option Dict) :
    (mergedWebhookMetadata job payload previous externalJobId archive).get "budget_reservation" =
      job.metadata.get "budget_reservation" := by
  cases archive with
  | none => exact job.metadata.get_set_of_ne _ (by decide)
  | some archive =>
    exact (OrderedDict.get_set_of_ne _ _ (by decide)).trans
      (job.metadata.get_set_of_ne _ (by decide))

theorem calledBackJob_rawReservation (payload : MediaGenerationProviderCallback)
    (archived : Option (List Dict × Dict)) (job : MediaGenerationJob) :
    (calledBackJob payload archived job).rawReservation = job.rawReservation :=
  MediaGenerationJob.rawReservation_congr (get_mergedWebhookMetadata job payload ..)

theorem handleMediaGenerationProviderCallback_obeys (clean : Clean s)
    (payload : MediaGenerationProviderCallback) (requestId : Option String) :
    Obeys retry (handleMediaGenerationProviderCallback lib payload requestId) s .idle Over := by
  refine (Reads.resolveCallbackJob clean payload).bind_obeys ?_ fun _ _ _ => rfl
  intro job s' loads
  subst loads
  have clean := clean_loaded job
  split
  · exact handleTerminalCallback_obeys job payload
  · rename_i notEnded
    refine (Reads.ensureCallbackTransition clean job payload).bind_obeys ?_ fun _ _ _ => rfl
    intro _ s' h
    obtain ⟨rfl, allowed⟩ := h
    refine (Reads.archiveCallbackOutputs clean job payload.outputs).bind_obeys ?_
      fun _ _ _ => rfl
    intro archived s' same
    subst same
    apply edit_bind
    have reservation := calledBackJob_rawReservation payload archived job
    have began : job.status.isTerminal = false := eq_false_of_ne_true notEnded
    split
    · rename_i isEnd
      have ends : LoadedJob.Ends ⟨job, calledBackJob payload archived job⟩ :=
        { reservation := reservation
          began := began
          ended := isEnd }
      exact over_of_updated (closes_and_finishes isEnd
        (closeMediaGenerationBudget_obeys ends lib _ requestId payload.status))
    · rename_i isNoEnd
      obtain ⟨kept, stays⟩ := keeps_status allowed fun ends => isNoEnd ends.2
      have keeps : LoadedJob.Keeps ⟨job, calledBackJob payload archived job⟩ :=
        { reservation := reservation
          ends := kept
          stays := stays }
      exact over_of_updated (keeps_and_finishes keeps payload.status)

end Callback

end AgentHive
