import AgentHive.Services.MediaRequests

/-!
For whom a request on a media job charges, and whose reservation it closes.
-/

namespace AgentHive

open Process (Action Keeping)
open MediaBudget MediaGeneration
open Process.Action (carry carry_bind carry_ite carry_perform carry_pure carry_throw)

def ownKeys : List String :=
  ["executor", "error_type", "archive_failed", "poll_failed", "poll", "output_archive",
    "provider_webhook", "last_cancel", "last_retry", "retry_count", "queue", "previous_queue",
    "previous_budget_reservation"]

structure JobFacts where
  key : String
  holds : Option MediaValue → Prop
  foreign : key ∉ ownKeys
  resolves : LLMRequestContext → Option UUID → Prop

structure Belongs (k : JobFacts) (origin job : MediaGenerationJob) : Prop where
  tenant : job.tenantId = origin.tenantId
  user : job.userId = origin.userId
  department : job.departmentId = origin.departmentId
  kept : k.holds (job.metadata.get k.key)

structure ActsFor (origin : MediaGenerationJob) (userId : UUID) (context : LLMRequestContext) :
    Prop where
  tenant : context.tenantId = origin.tenantId
  user : context.userId = some userId
  department : context.departmentId = origin.departmentId
  costCenter : context.costCenterId = none

structure ChargedTo (k : JobFacts) (origin : MediaGenerationJob) (userId : UUID)
    (entry : LedgerEntry) : Prop where
  context : ActsFor origin userId entry.context
  reservation : ∃ job raw, Belongs k origin job ∧ job.rawReservation = some raw ∧
    entry.reservationId = raw.reservationId ∧ entry.scope ∈ raw.budgetScopes ∧
    entry.estimated.costUsd = raw.estimatedCostUsd

structure UsedBy (k : JobFacts) (origin : MediaGenerationJob) (userId : UUID)
    (row : MediaUsageRow) : Prop where
  context : ActsFor origin userId row.context
  reservation : ∃ job raw, Belongs k origin job ∧ job.rawReservation = some raw ∧
    mediaGenerationUsage raw.estimatedCostUsd = .ok row.usage
  costCenter : k.resolves row.context row.costCenterId

def Spared (k : JobFacts) (metadata : MediaMetadata) : Prop :=
  ∀ value, k.holds value → k.holds ((metadata.get k.key).or value)

def MediaTold (k : JobFacts) (origin : MediaGenerationJob) :
    MediaEvent → Prop
  | ⟨.getJob _, .ok found⟩ => ∀ job ∈ found, Belongs k origin job
  | ⟨.findJobs _ _, .ok found⟩ => ∀ job, found = [job] → Belongs k origin job
  | ⟨.refreshJob _, .ok job⟩ => Belongs k origin job
  | ⟨.submit _, .ok result⟩ | ⟨.poll _, .ok result⟩ => Spared k result.metadata
  | ⟨.submit _, .error (.provider _ _ metadata)⟩
  | ⟨.poll _, .error (.provider _ _ metadata)⟩ => Spared k metadata
  | ⟨.budget (.resolveCostCenter context), .ok costCenterId⟩ => k.resolves context costCenterId
  | _ => True

def MediaPromise (k : JobFacts) (origin : MediaGenerationJob) (userId : UUID) : MediaEffect → Prop
  | .commit writes =>
    (∀ loaded ∈ writes.job, Belongs k origin loaded.stored ∧ Belongs k origin loaded.job) ∧
      (∀ entry ∈ writes.ledger, ChargedTo k origin userId entry) ∧
      ∀ row ∈ writes.usage, UsedBy k origin userId row
  | .reserveUsage _ context => ActsFor origin userId context
  | _ => True

def HoldsJob (k : JobFacts) (origin : MediaGenerationJob) (s : Option LoadedJob) : Prop :=
  ∀ loaded ∈ s, Belongs k origin loaded.stored ∧ Belongs k origin loaded.job

abbrev Charges (k : JobFacts) (origin : MediaGenerationJob)
    (userId : UUID) {α : Type} (m : MediaStep α) (Q : α → Prop) : Prop :=
  Keeping (MediaTold k origin) (MediaPromise k origin userId) (HoldsJob k origin) m Q

variable {k : JobFacts} {origin : MediaGenerationJob} {userId : UUID}

theorem get_eq_none {metadata : MediaMetadata} {key : String} (absent : key ∉ metadata.keys) :
    metadata.get key = none := by
  cases stored : metadata.get key with
  | none => rfl
  | some value =>
    refine absurd (OrderedDict.mem_keys.mpr ?_) absent
    rw [stored]
    rfl

theorem spared_of_absent {metadata : MediaMetadata} (absent : k.key ∉ metadata.keys) :
    Spared k metadata := by
  intro value held
  rw [get_eq_none absent]
  exact held

variable {entries : List (String × MediaValue)}

theorem spared_ofEntries (own : ∀ key ∈ entries.map Prod.fst, key ∈ ownKeys) :
    Spared k (OrderedDict.ofEntries entries) := by
  apply spared_of_absent
  rw [OrderedDict.mem_keys_ofEntries]
  exact fun mem => k.foreign (own k.key mem)

theorem Spared.after {second : MediaMetadata} (spared : Spared k second)
    (own : ∀ key ∈ entries.map Prod.fst, key ∈ ownKeys) :
    Spared k ((OrderedDict.ofEntries entries).merge second) := by
  intro value held
  have absent : k.key ∉ (OrderedDict.ofEntries entries).keys := by
    rw [OrderedDict.mem_keys_ofEntries]
    exact fun mem => k.foreign (own k.key mem)
  rw [OrderedDict.get_merge, get_eq_none absent, Option.or_none]
  exact spared value held

namespace Charges

theorem stored {α : Type} {answer : Except Fault α} {Q : α → Prop}
    (told : ∀ a, answer = .ok a → Q a) :
    Charges k origin userId (MediaSession.stored answer : MediaStep α) Q := by
  cases answer with
  | ok a => exact .pure (told a rfl)
  | error f => exact .throw _

theorem refuse (condition : Prop) [Decidable condition] (code : Nat) (detail : String) :
    Charges k origin userId (MediaSession.refuse condition code detail) fun _ => ¬ condition :=
  Keeping.ite (fun _ => .throw _) fun allowed => .pure allowed

theorem attached : Charges k origin userId MediaSession.attached (Belongs k origin) := by
  refine .bind Keeping.get ?_
  intro s held
  cases s with
  | none => exact .throw _
  | some loaded => exact .pure (held loaded rfl).2

theorem edit {f : MediaGenerationJob → MediaGenerationJob}
    (keeps : ∀ job, Belongs k origin job → Belongs k origin (f job)) :
    Charges k origin userId (MediaSession.edit f) fun _ => True := by
  apply Keeping.modify
  intro s held loaded mem
  obtain ⟨before, was, rfl⟩ := Option.map_eq_some_iff.mp mem
  exact ⟨(held before was).1, keeps _ (held before was).2⟩

variable {job : MediaGenerationJob}

theorem load (belongs : Belongs k origin job) :
    Charges k origin userId (MediaSession.load job) fun _ => True := by
  apply Keeping.modify
  intro s held loaded mem
  cases Option.mem_some.mp mem
  exact ⟨belongs, belongs⟩

theorem getJob (jobId : UUID) :
    Charges k origin userId (MediaSession.getJob jobId) fun found =>
      ∀ job ∈ found, Belongs k origin job := by
  refine .bind Keeping.get ?_
  intro s held
  split
  · rename_i loaded has
    apply Keeping.pure
    intro job found
    cases found
    exact (held loaded (Option.filter_eq_some_iff.mp has).1).2
  · refine .bind (Q := fun answer => ∀ found, answer = Except.ok found →
      ∀ job ∈ found, Belongs k origin job) (.perform trivial ?_) ?_
    · intro answer told found eq
      rw [eq] at told
      exact told
    · intro answer told
      refine .bind (stored told) ?_
      intro found belongs
      cases found with
      | none =>
        apply Keeping.pure
        intro job found
        cases found
      | some job =>
        refine .bind (load (belongs job rfl)) ?_
        intro _ _
        exact .pure belongs

variable {usage : Option MediaUsageRow}

theorem flush {ledger : Option LedgerEntry}
    (charged : ∀ entry ∈ ledger, ChargedTo k origin userId entry)
    (used : ∀ row ∈ usage, UsedBy k origin userId row) :
    Charges k origin userId (MediaSession.flush ledger usage) fun _ => True := by
  refine .bind Keeping.get ?_
  intro s held
  have kept : ∀ loaded ∈ MediaSession.dirty s,
      Belongs k origin loaded.stored ∧ Belongs k origin loaded.job :=
    fun loaded mem => held loaded (Option.filter_eq_some_iff.mp mem).1
  refine .bind (Q := fun _ => True) (.perform ⟨kept, charged, used⟩
    fun _ _ => trivial) ?_
  intro answer _
  cases answer with
  | error f => exact .pure trivial
  | ok done =>
    refine .bind (Q := fun _ => True) (.modify ?_) ?_
    · intro s held loaded mem
      obtain ⟨before, was, rfl⟩ := Option.map_eq_some_iff.mp mem
      exact ⟨(held before was).2, (held before was).2⟩
    · intro _ _
      exact .pure trivial

theorem forall_none {α : Type} {P : α → Prop} : ∀ a ∈ (none : Option α), P a := by
  intro a mem
  cases mem

theorem commitUsage (used : ∀ row ∈ usage, UsedBy k origin userId row) :
    Charges k origin userId (MediaSession.commitUsage usage) fun _ => True := by
  refine .bind (flush forall_none used) ?_
  intro answer _
  exact stored fun _ _ => trivial

theorem commit : Charges k origin userId MediaSession.commit fun _ => True := commitUsage forall_none

theorem refresh (job : MediaGenerationJob) :
    Charges k origin userId (MediaSession.refresh job) fun _ => True := by
  refine .bind (Q := fun answer => ∀ row, answer = Except.ok row → Belongs k origin row)
    (.perform trivial ?_) ?_
  · intro answer told row eq
    rw [eq] at told
    exact told
  · intro answer told
    refine .bind (stored told) ?_
    intro row belongs
    exact load belongs

theorem finish : Charges k origin userId MediaSession.finish (Belongs k origin) := by
  refine .bind attached ?_
  intro job _
  refine .bind commit ?_
  intro _ _
  refine .bind (refresh job) ?_
  intro _ _
  exact attached

theorem rollback : Charges k origin userId (MediaSession.budget .rollback) fun _ => True := by
  refine .asked trivial fun undone => ?_
  refine .bind (Q := fun _ => True) (.modify ?_) ?_
  · intro s held loaded mem
    cases mem
  · intro _ _
    exact .pure trivial

theorem recordBudgetEvent {entry : LedgerEntry} (charged : ChargedTo k origin userId entry) :
    Charges k origin userId (carry MediaSession.budget
      (BudgetGuard.recordBudgetEvent entry)) fun _ => True := by
  rw [BudgetGuard.recordBudgetEvent, carry_bind, carry_perform]
  refine .bind (Q := fun _ => True) (flush ?_ forall_none) ?_
  · intro row eq
    cases Option.mem_some.mp eq
    exact charged
  · intro answer _
    cases answer with
    | ok done =>
      simp only [carry_pure]
      exact .pure trivial
    | error f =>
      simp only [carry_ite, carry_bind, carry_perform, carry_throw]
      refine .ite ?_ fun _ => .throw _
      intro _
      refine .bind rollback ?_
      intro undone _
      cases undone with
      | ok done =>
        simp only [Step.stored, carry_pure]
        exact .pure trivial
      | error f =>
        simp only [Step.stored, carry_throw]
        exact .throw _

theorem ask {e : Effect} (asks : MediaSession.budget e = Action.perform (MediaEffect.budget e)) :
    Charges k origin userId (carry MediaSession.budget (Action.perform e)) fun _ => True := by
  rw [carry_perform, asks]
  exact .perform trivial fun _ _ => trivial

theorem policyById (budgetId : UUID) :
    Charges k origin userId (carry MediaSession.budget (BudgetGuard.policyById budgetId))
      fun _ => True := by
  rw [BudgetGuard.policyById, carry_bind]
  refine .bind (ask rfl) ?_
  intro answer _
  cases answer with
  | ok policy => exact .pure trivial
  | error f =>
    simp only [carry_ite]
    exact .ite (fun _ => .pure trivial) fun _ => .throw _

theorem periodWindow (policy : LLMBudget) :
    Charges k origin userId (carry MediaSession.budget (BudgetGuard.periodWindow policy))
      fun _ => True := by
  unfold BudgetGuard.periodWindow
  split
  · exact .pure trivial
  · rw [carry_bind]
    refine .bind (ask rfl) ?_
    intro now _
    exact .pure trivial

section Scopes

variable {reservation : BudgetReservation} {context : LLMRequestContext}
  {scope : BudgetReservationScope} {scopes : List BudgetReservationScope}

def Rows (k : JobFacts) (origin : MediaGenerationJob) (userId : UUID)
    (reservation : BudgetReservation) (context : LLMRequestContext)
    (scope : BudgetReservationScope) : Prop :=
  ∀ event actual reason alert, ChargedTo k origin userId
    (BudgetGuard.ledgerEntry reservation context event scope actual reason alert)

theorem recordSoftLimitAlertIfNeeded (rows : Rows k origin userId reservation context scope)
    (policy : LLMBudget) (actual : LLMUsageMetrics) :
    Charges k origin userId (carry MediaSession.budget
      (BudgetGuard.recordSoftLimitAlertIfNeeded policy reservation context scope actual))
      fun _ => True := by
  rw [BudgetGuard.recordSoftLimitAlertIfNeeded, carry_bind]
  refine .bind (periodWindow policy) ?_
  intro window _
  rw [carry_bind]
  refine .bind (ask rfl) ?_
  intro answer _
  cases answer with
  | error f => exact .throw _
  | ok spent =>
    simp only [Step.stored, pure_bind]
    split
    · exact .pure trivial
    · exact recordBudgetEvent (rows _ _ _ _)

theorem settleScope (rows : Rows k origin userId reservation context scope)
    (actual : LLMUsageMetrics) :
    Charges k origin userId (carry MediaSession.budget
      (BudgetGuard.settleScope reservation actual context scope)) fun _ => True := by
  rw [BudgetGuard.settleScope, carry_bind]
  refine .bind (recordBudgetEvent (rows _ _ _ _)) ?_
  intro _ _
  rw [carry_bind]
  refine .bind (policyById scope.budgetId) ?_
  intro found _
  cases found with
  | none => exact .pure trivial
  | some policy =>
    simp only [carry_ite]
    exact .ite (fun _ => recordSoftLimitAlertIfNeeded rows policy actual)
      fun _ => .pure trivial

theorem settleScopes (rows : ∀ scope ∈ scopes, Rows k origin userId reservation context scope)
    (actual : LLMUsageMetrics) :
    Charges k origin userId (carry MediaSession.budget
      (BudgetGuard.settleScopes reservation actual context scopes)) fun _ => True := by
  induction scopes with
  | nil => exact .pure trivial
  | cons scope rest ih =>
    obtain ⟨first, later⟩ := List.forall_mem_cons.mp rows
    rw [BudgetGuard.settleScopes, carry_bind]
    refine .bind (settleScope first actual) ?_
    intro _ _
    exact ih later

theorem releaseScopes (rows : ∀ scope ∈ scopes, Rows k origin userId reservation context scope)
    (reason : String) :
    Charges k origin userId (carry MediaSession.budget
      (BudgetGuard.releaseScopes reservation context reason scopes)) fun _ => True := by
  induction scopes with
  | nil => exact .pure trivial
  | cons scope rest ih =>
    obtain ⟨first, later⟩ := List.forall_mem_cons.mp rows
    rw [BudgetGuard.releaseScopes, carry_bind]
    refine .bind (recordBudgetEvent (first _ _ _ _)) ?_
    intro _ _
    exact ih later

end Scopes

variable {reservation : BudgetReservation}

theorem jobReservation_ok (found : jobReservation job = .ok (some reservation)) :
    ∃ raw, job.rawReservation = some raw ∧ reservation.reservationId = raw.reservationId ∧
      reservation.budgetScopes = raw.budgetScopes ∧
      reservation.estimatedCostUsd = raw.estimatedCostUsd := by
  unfold jobReservation at found
  split at found
  · cases found
  · rename_i raw has
    split at found
    · cases found
      exact ⟨raw, has, rfl, rfl, rfl⟩
    · cases found

theorem jobContext_actsFor {lib : MediaLibrary} {principal : Principal} (requestId : Option String)
    (belongs : Belongs k origin job) (own : principal.tenantId = origin.tenantId) :
    ActsFor origin principal.userId (jobContext lib principal job requestId) where
  tenant := own
  user := rfl
  department := belongs.department
  costCenter := rfl

theorem rows_of_job {lib : MediaLibrary} {principal : Principal} (requestId : Option String)
    (belongs : Belongs k origin job) (own : principal.tenantId = origin.tenantId)
    (found : jobReservation job = .ok (some reservation)) :
    ∀ scope ∈ reservation.budgetScopes, Rows k origin principal.userId reservation
      (jobContext lib principal job requestId) scope := by
  intro scope mem event actual reason alert
  obtain ⟨raw, has, sameId, sameScopes, sameCost⟩ := jobReservation_ok found
  rw [sameScopes] at mem
  exact ⟨jobContext_actsFor requestId belongs own, job, raw, belongs, has, sameId, mem, sameCost⟩

variable {lib : MediaLibrary} {principal : Principal}

theorem recordMediaUsage {context : LLMRequestContext} {usage : LLMUsageMetrics}
    (acts : ActsFor origin userId context)
    (priced : ∃ job raw, Belongs k origin job ∧ job.rawReservation = some raw ∧
      mediaGenerationUsage raw.estimatedCostUsd = .ok usage) :
    Charges k origin userId (MediaBudget.recordMediaUsage context usage) fun _ => True := by
  refine .bind (Q := fun answer => ∀ costCenterId, answer = Except.ok costCenterId →
    k.resolves context costCenterId) (.perform trivial ?_) ?_
  · intro answer told costCenterId eq
    rw [eq] at told
    exact told
  · intro answer told
    refine .bind (stored told) ?_
    intro costCenterId resolved
    refine .bind attached ?_
    intro job _
    apply commitUsage
    intro row eq
    cases Option.mem_some.mp eq
    exact ⟨acts, priced, resolved⟩

variable (own : principal.tenantId = origin.tenantId)

include own

theorem settleMediaGenerationBudget (requestId : Option String) :
    Charges k origin principal.userId
      (MediaBudget.settleMediaGenerationBudget lib principal requestId) fun _ => True := by
  refine .bind attached ?_
  intro job belongs
  refine .bind (Q := fun found => jobReservation job = .ok found)
    (.ofExcept fun _ eq => eq) ?_
  intro found isFound
  cases found with
  | none => exact .pure trivial
  | some reservation =>
    refine .bind (Q := fun usage => mediaGenerationUsage (jobEstimatedCost job) = .ok usage)
      (.ofExcept fun _ eq => eq) ?_
    intro usage priced
    refine .bind (Q := fun _ => True) ?_ ?_
    · unfold BudgetGuard.settle
      rw [carry_ite]
      exact .ite (fun _ => .pure trivial)
        fun _ => settleScopes (rows_of_job requestId belongs own isFound) usage
    · intro _ _
      obtain ⟨raw, has, -⟩ := jobReservation_ok isFound
      apply recordMediaUsage (jobContext_actsFor requestId belongs own)
      refine ⟨job, raw, belongs, has, ?_⟩
      rw [← priced, jobEstimatedCost, has]
      rfl

theorem releaseMediaGenerationBudget (requestId : Option String) (reason : String) :
    Charges k origin principal.userId
      (MediaBudget.releaseMediaGenerationBudget lib principal requestId reason) fun _ => True := by
  refine .bind attached ?_
  intro job belongs
  refine .bind (Q := fun found => jobReservation job = .ok found)
    (.ofExcept fun _ eq => eq) ?_
  intro found isFound
  cases found with
  | none => exact .pure trivial
  | some reservation =>
    unfold BudgetGuard.release
    simp only [carry_ite]
    exact .ite (fun _ => .pure trivial)
      fun _ => releaseScopes (rows_of_job requestId belongs own isFound) reason

theorem closeMediaGenerationBudget (requestId : Option String) (next : MediaGenerationJobStatus) :
    Charges k origin principal.userId
      (MediaBudget.closeMediaGenerationBudget lib principal requestId next) fun _ => True :=
  Keeping.ite (fun _ => settleMediaGenerationBudget own requestId)
    fun _ => releaseMediaGenerationBudget own requestId _

end Charges
end AgentHive
