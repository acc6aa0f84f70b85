import AgentHive.Services.MediaProtocol

/-!
The closing of a reservation. The job is stored with the first terminal row, or
with the next commit where there is none to write, and nothing is raised between
the first row and the last.
-/

namespace AgentHive

open Process (Action)
open MediaBudget
open Process.Action (Follows carry carry_bind carry_ite)
open BudgetGuard (periodWindow policyById recordBudgetEvent release releaseScopes settle
  settleScopes)

theorem LoadedJob.Ends.dirty {loaded : LoadedJob} (ends : loaded.Ends) :
    MediaSession.dirty (some loaded) = some loaded := by
  have changed : loaded.job ≠ loaded.stored := by
    intro same
    have ended := ends.ended
    rw [same, ends.began] at ended
    cases ended
  simp [MediaSession.dirty, changed]

inductive Closes (key : String) (scopes : List BudgetReservationScope) :
    Option LoadedJob → MediaStand → Prop
  | first {loaded : LoadedJob} (ends : loaded.Ends) (own : loaded.stored.reservationId = key)
      (left : loaded.stored.scopesToClose = scopes) : Closes key scopes (some loaded) .idle
  | later (job : MediaGenerationJob) : Closes key scopes (some ⟨job, job⟩) (.closing key scopes)

inductive Closed : Option LoadedJob → MediaStand → Prop
  | pending {loaded : LoadedJob} (ends : loaded.Ends) (empty : loaded.stored.scopesToClose = []) :
      Closed (some loaded) .idle
  | written {stand : MediaStand} (job : MediaGenerationJob) (isOver : stand.isClosing = false) :
      Closed (some ⟨job, job⟩) stand

theorem Closes.closed {key : String} {s : Option LoadedJob} {stand : MediaStand}
    (closes : Closes key [] s stand) : Closed s stand := by
  cases closes with
  | first ends own left => exact .pending ends left
  | later job => exact .written job rfl

section Scopes

variable {retry : Bool} {key : String} {scope : BudgetReservationScope}
  {rest : List BudgetReservationScope} {s : Option LoadedJob} {stand : MediaStand}

theorem recordBudgetEvent_succeeds {entry : LedgerEntry}
    (may : CommitAllowed retry stand ⟨MediaSession.dirty s, some entry, none⟩) :
    Succeeds retry (carry MediaSession.budget (recordBudgetEvent entry)) s stand
      fun _ s' stand' =>
        s' = saved s ∧ stand' = standAfter ⟨MediaSession.dirty s, some entry, none⟩ stand := by
  unfold recordBudgetEvent
  rw [carry_bind, Action.carry_perform]
  refine (flush_succeeds may).bind fun answer s' stand' h => ?_
  obtain ⟨rfl, saves, stands⟩ := h
  exact ⟨(), rfl, saves, stands⟩

theorem Closes.record (closes : Closes key (scope :: rest) s stand) {entry : LedgerEntry}
    (row : closingRow entry = some (key, scope)) :
    Succeeds retry (carry MediaSession.budget (recordBudgetEvent entry)) s stand
      fun _ s' stand' => (∃ job, s' = some ⟨job, job⟩) ∧ stand' = .closing key rest := by
  cases closes with
  | @first loaded ends own left =>
    have writes := ends.dirty
    have may : CommitAllowed retry .idle ⟨MediaSession.dirty (some loaded), some entry, none⟩ :=
      .closeFirst writes (row.trans (by rw [own])) ends left
    refine Follows.mono (recordBudgetEvent_succeeds may) ?_
    intro r s' stand' h
    obtain ⟨done, ok, saves, stands⟩ := h
    refine ⟨done, ok, ⟨loaded.job, saves⟩, ?_⟩
    simp [stands, writes, standAfter, PendingWrites.closingRow, row, own, left]
  | later job =>
    have nothing := dirty_of_clean (clean_loaded job)
    have may : CommitAllowed retry (.closing key (scope :: rest))
        ⟨MediaSession.dirty (some ⟨job, job⟩), some entry, none⟩ := .closeNext nothing row
    refine Follows.mono (recordBudgetEvent_succeeds may) ?_
    intro r s' stand' h
    obtain ⟨done, ok, saves, stands⟩ := h
    refine ⟨done, ok, ⟨job, saves⟩, ?_⟩
    simp [stands, nothing, standAfter, PendingWrites.closingRow, row]

variable (job : MediaGenerationJob)

theorem budget_succeeds {e : Effect}
    (asks : MediaSession.budget e = Action.perform (MediaEffect.budget e)) :
    Succeeds retry (carry MediaSession.budget (Action.perform e)) (some ⟨job, job⟩) stand
      fun r s' stand' =>
        mediaWorks ⟨.budget e, r⟩ = true ∧ s' = some ⟨job, job⟩ ∧ stand' = stand := by
  rw [Action.carry_perform, asks]
  refine ⟨trivial, ?_⟩
  intro r works
  exact ⟨r, rfl, works, rfl, rfl⟩

theorem policyById_succeeds (budgetId : UUID) :
    Succeeds retry (carry MediaSession.budget (policyById budgetId))
      (some ⟨job, job⟩) stand fun _ s' stand' => s' = some ⟨job, job⟩ ∧ stand' = stand := by
  unfold policyById
  rw [carry_bind]
  refine (budget_succeeds job rfl).bind fun answer s' stand' h => ?_
  obtain ⟨works, rfl, rfl⟩ := h
  cases answer with
  | ok policy => exact ⟨policy, rfl, rfl, rfl⟩
  | error f => cases works

theorem periodWindow_succeeds (policy : LLMBudget) :
    Succeeds retry (carry MediaSession.budget (periodWindow policy))
      (some ⟨job, job⟩) stand fun _ s' stand' => s' = some ⟨job, job⟩ ∧ stand' = stand := by
  unfold periodWindow
  split
  · exact ⟨_, rfl, rfl, rfl⟩
  · rw [carry_bind]
    refine (budget_succeeds job rfl).bind fun now s' stand' h => ?_
    obtain ⟨-, rfl, rfl⟩ := h
    exact ⟨_, rfl, rfl, rfl⟩

theorem recordSoftLimitAlertIfNeeded_succeeds (policy : LLMBudget)
    (reservation : BudgetReservation) (context : LLMRequestContext)
    (alerted : BudgetReservationScope) (actual : LLMUsageMetrics) :
    Succeeds retry (carry MediaSession.budget (BudgetGuard.recordSoftLimitAlertIfNeeded
      policy reservation context alerted actual)) (some ⟨job, job⟩) stand
      fun _ s' stand' => s' = some ⟨job, job⟩ ∧ stand' = stand := by
  unfold BudgetGuard.recordSoftLimitAlertIfNeeded
  rw [carry_bind]
  refine (periodWindow_succeeds job policy).bind fun window s' stand' h => ?_
  obtain ⟨rfl, rfl⟩ := h
  rw [carry_bind]
  refine (budget_succeeds job rfl).bind fun answer s' stand' h => ?_
  obtain ⟨works, rfl, rfl⟩ := h
  cases answer with
  | error f => cases works
  | ok spent =>
    simp only [Step.stored, pure_bind]
    split
    · exact ⟨(), rfl, rfl, rfl⟩
    · have nothing := dirty_of_clean (clean_loaded job)
      refine Follows.mono (recordBudgetEvent_succeeds (.quiet nothing rfl)) ?_
      intro r s' stand' h
      obtain ⟨done, ok, saves, stands⟩ := h
      rw [nothing] at stands
      exact ⟨done, ok, saves, stands⟩

variable {reservation : BudgetReservation}

theorem Closes.settleScope (closes : Closes reservation.reservationId (scope :: rest) s stand)
    (actual : LLMUsageMetrics) (context : LLMRequestContext) :
    Succeeds retry (carry MediaSession.budget
      (BudgetGuard.settleScope reservation actual context scope)) s stand
      fun _ s' stand' => Closes reservation.reservationId rest s' stand' := by
  unfold BudgetGuard.settleScope
  rw [carry_bind]
  refine (closes.record rfl).bind fun _ s' stand' h => ?_
  obtain ⟨⟨job, rfl⟩, rfl⟩ := h
  rw [carry_bind]
  refine (policyById_succeeds job scope.budgetId).bind fun found s' stand' h => ?_
  obtain ⟨rfl, rfl⟩ := h
  cases found with
  | none => exact ⟨(), rfl, .later job⟩
  | some policy =>
    simp only [carry_ite]
    split
    · refine Follows.mono
        (recordSoftLimitAlertIfNeeded_succeeds job policy reservation context scope actual) ?_
      intro r s' stand' h
      obtain ⟨done, ok, rfl, rfl⟩ := h
      exact ⟨done, ok, .later job⟩
    · exact ⟨(), rfl, .later job⟩

variable {scopes : List BudgetReservationScope}

theorem Closes.settleScopes (closes : Closes reservation.reservationId scopes s stand)
    (actual : LLMUsageMetrics) (context : LLMRequestContext) :
    Succeeds retry (carry MediaSession.budget
      (settleScopes reservation actual context scopes)) s stand
      fun _ s' stand' => Closes reservation.reservationId [] s' stand' := by
  induction scopes generalizing s stand with
  | nil => exact ⟨(), rfl, closes⟩
  | cons scope rest ih =>
    rw [settleScopes, carry_bind]
    exact (closes.settleScope actual context).bind fun _ _ _ later => ih later

theorem Closes.releaseScopes (closes : Closes reservation.reservationId scopes s stand)
    (context : LLMRequestContext) (reason : String) :
    Succeeds retry (carry MediaSession.budget
      (releaseScopes reservation context reason scopes)) s stand
      fun _ s' stand' => Closes reservation.reservationId [] s' stand' := by
  induction scopes generalizing s stand with
  | nil => exact ⟨(), rfl, closes⟩
  | cons scope rest ih =>
    rw [releaseScopes, carry_bind]
    refine (closes.record rfl).bind fun _ s' stand' h => ?_
    obtain ⟨⟨job, rfl⟩, rfl⟩ := h
    exact ih (.later job)

end Scopes

theorem isArchiveError_of_usage {costUsd : ℚ} {x : Exc}
    (raised : mediaGenerationUsage costUsd = .error x) :
    MediaGeneration.isArchiveError x = false := by
  simp only [mediaGenerationUsage, ModelPricingCatalog.quantize, bind, Except.bind] at raised
  split at raised
  · rename_i rounded
    split at rounded
    · cases rounded
    · cases rounded
      cases raised
      rfl
  · unfold LLMUsageMetrics.validate at raised
    split at raised
    · cases raised
    · cases raised
      rfl

variable {job : MediaGenerationJob}

theorem isArchiveError_of_reservation {x : Exc} (raised : jobReservation job = .error x) :
    MediaGeneration.isArchiveError x = false := by
  unfold jobReservation at raised
  split at raised
  · cases raised
  · split at raised
    · cases raised
    · cases raised
      rfl

theorem scopesToClose_eq_nil (found : jobReservation job = .ok none) : job.scopesToClose = [] := by
  unfold jobReservation at found
  split at found
  · rename_i missing
    simp [MediaGenerationJob.scopesToClose, missing]
  · split at found <;> cases found

theorem scopesToClose_eq {reservation : BudgetReservation}
    (found : jobReservation job = .ok (some reservation)) :
    job.reservationId = reservation.reservationId ∧
      job.scopesToClose = if reservation.approved then reservation.budgetScopes else [] := by
  unfold jobReservation at found
  split at found
  · cases found
  · rename_i raw has
    split at found
    · cases found
      exact ⟨by simp [MediaGenerationJob.reservationId, has],
        by simp [MediaGenerationJob.scopesToClose, has]⟩
    · cases found

namespace LoadedJob.Ends

variable {loaded : LoadedJob} (ends : loaded.Ends)
include ends

variable {reservation : BudgetReservation}

theorem closes (found : jobReservation loaded.job = .ok (some reservation))
    (approved : reservation.approved = true) :
    Closes reservation.reservationId reservation.budgetScopes (some loaded) .idle := by
  obtain ⟨own, scopes⟩ := AgentHive.scopesToClose_eq found
  rw [MediaGenerationJob.reservationId_congr ends.reservation] at own
  rw [MediaGenerationJob.scopesToClose_congr ends.reservation, if_pos approved] at scopes
  exact .first ends own scopes

theorem closed_of_not_approved (found : jobReservation loaded.job = .ok (some reservation))
    (denied : reservation.approved = false) : loaded.stored.scopesToClose = [] := by
  obtain ⟨-, scopes⟩ := AgentHive.scopesToClose_eq found
  rw [MediaGenerationJob.scopesToClose_congr ends.reservation, denied] at scopes
  exact scopes

end LoadedJob.Ends

section Close

variable {retry : Bool} {s : Option LoadedJob} {stand : MediaStand}

theorem ofExcept_bind {α β : Type} {r : Except Exc α} {f : α → MediaStep β}
    {Q : Except Exc β → Option LoadedJob → MediaStand → Prop}
    (next : ∀ a, r = .ok a → Obeys retry (f a) s stand Q)
    (raised : ∀ x, r = .error x → Q (.error x) s stand) :
    Obeys retry (Action.ofExcept r >>= f) s stand Q := by
  cases r with
  | ok a => exact next a rfl
  | error x => exact raised x rfl

def ClosedOr (r : Except Exc Unit) (s : Option LoadedJob) (stand : MediaStand) : Prop :=
  match r with
  | .ok _ => Closed s stand
  | .error x => stand = .idle ∧ MediaGeneration.isArchiveError x = false

theorem Closed.recordMediaUsage (closed : Closed s stand) (context : LLMRequestContext)
    (usage : LLMUsageMetrics) :
    Succeeds retry (MediaBudget.recordMediaUsage context usage) s stand
      fun _ s' stand' => Closed s' stand' := by
  refine Obeys.ask (fun _ _ => rfl) (fun _ => trivial) fun answer works => ?_
  cases answer with
  | error f => cases works
  | ok costCenterId =>
    cases closed with
    | @pending loaded ends empty =>
      apply attached_bind
      have writes := ends.dirty
      have may : CommitAllowed retry .idle ⟨MediaSession.dirty (some loaded), none,
          some ⟨context, costCenterId, loaded.job.modelKey, usage, .success⟩⟩ :=
        .closeEmpty writes rfl ends empty
      refine Follows.mono (commitUsage_succeeds may) ?_
      intro r s' stand' h
      obtain ⟨done, ok, saves, stands⟩ := h
      rw [writes] at stands
      subst saves stands
      exact ⟨done, ok, .written loaded.job rfl⟩
    | written job isOver =>
      apply attached_bind
      have nothing := dirty_of_clean (clean_loaded job)
      have may : CommitAllowed retry stand ⟨MediaSession.dirty (some ⟨job, job⟩), none,
          some ⟨context, costCenterId, job.modelKey, usage, .success⟩⟩ := .quiet nothing rfl
      refine Follows.mono (commitUsage_succeeds may) ?_
      intro r s' stand' h
      obtain ⟨done, ok, saves, stands⟩ := h
      rw [nothing] at stands
      subst saves stands
      exact ⟨done, ok, .written job isOver⟩

variable {loaded : LoadedJob}

theorem settleMediaGenerationBudget_obeys (ends : loaded.Ends) (lib : MediaLibrary)
    (principal : Principal) (requestId : Option String) :
    Obeys retry (settleMediaGenerationBudget lib principal requestId) (some loaded) .idle
      ClosedOr := by
  apply attached_bind
  refine ofExcept_bind (fun found isFound => ?_) fun x raised => ?_
  · cases found with
    | none =>
      have empty := scopesToClose_eq_nil isFound
      rw [MediaGenerationJob.scopesToClose_congr ends.reservation] at empty
      exact .pending ends empty
    | some reservation =>
      refine ofExcept_bind (fun usage _ => ?_) fun x raised => ?_
      · have settled : Succeeds retry (carry MediaSession.budget (settle {}
            reservation usage (jobContext lib principal loaded.job requestId))) (some loaded)
            .idle fun _ s' stand' => Closed s' stand' := by
          unfold settle
          rw [carry_ite]
          cases isApproved : reservation.approved with
          | false => exact ⟨(), rfl, .pending ends (ends.closed_of_not_approved isFound isApproved)⟩
          | true =>
            refine Follows.mono
              ((ends.closes isFound isApproved).settleScopes usage _) ?_
            intro r s' stand' h
            obtain ⟨done, ok, closes⟩ := h
            exact ⟨done, ok, closes.closed⟩
        refine settled.bind fun _ s' stand' closed => ?_
        refine Follows.mono (closed.recordMediaUsage _ usage) ?_
        intro r s' stand' h
        obtain ⟨done, rfl, closed⟩ := h
        exact closed
      · exact ⟨rfl, isArchiveError_of_usage raised⟩
  · exact ⟨rfl, isArchiveError_of_reservation raised⟩

theorem releaseMediaGenerationBudget_obeys (ends : loaded.Ends) (lib : MediaLibrary)
    (principal : Principal) (requestId : Option String) (reason : String) :
    Obeys retry (releaseMediaGenerationBudget lib principal requestId reason) (some loaded) .idle
      ClosedOr := by
  apply attached_bind
  refine ofExcept_bind (fun found isFound => ?_) fun x raised => ?_
  · cases found with
    | none =>
      have empty := scopesToClose_eq_nil isFound
      rw [MediaGenerationJob.scopesToClose_congr ends.reservation] at empty
      exact .pending ends empty
    | some reservation =>
      unfold release
      simp only [carry_ite]
      cases isApproved : reservation.approved with
      | false => exact .pending ends (ends.closed_of_not_approved isFound isApproved)
      | true =>
        refine Follows.mono
          ((ends.closes isFound isApproved).releaseScopes _ reason) ?_
        intro r s' stand' h
        obtain ⟨done, rfl, closes⟩ := h
        exact closes.closed
  · exact ⟨rfl, isArchiveError_of_reservation raised⟩

theorem closeMediaGenerationBudget_obeys (ends : loaded.Ends) (lib : MediaLibrary)
    (principal : Principal) (requestId : Option String) (next : MediaGenerationJobStatus) :
    Obeys retry (closeMediaGenerationBudget lib principal requestId next) (some loaded) .idle
      ClosedOr := by
  unfold closeMediaGenerationBudget
  split
  · exact settleMediaGenerationBudget_obeys ends lib principal requestId
  · exact releaseMediaGenerationBudget_obeys ends lib principal requestId _

theorem Closed.finish (closed : Closed s stand) :
    Succeeds retry MediaSession.finish s stand fun job s' stand' =>
      s' = some ⟨job, job⟩ ∧ stand'.isClosing = false := by
  cases closed with
  | @pending loaded ends empty =>
    have writes := ends.dirty
    have may : CommitAllowed retry .idle ⟨MediaSession.dirty (some loaded), none, none⟩ :=
      .closeEmpty writes rfl ends empty
    refine Follows.mono (finish_succeeds may) ?_
    intro r s' stand' h
    obtain ⟨job, ok, loads, stands⟩ := h
    rw [writes] at stands
    exact ⟨job, ok, loads, by rw [stands]; rfl⟩
  | written job isOver =>
    have nothing := dirty_of_clean (clean_loaded job)
    have may : CommitAllowed retry stand ⟨MediaSession.dirty (some ⟨job, job⟩), none, none⟩ :=
      .quiet nothing rfl
    refine Follows.mono (finish_succeeds may) ?_
    intro r s' stand' h
    obtain ⟨row, ok, loads, stands⟩ := h
    rw [nothing] at stands
    exact ⟨row, ok, loads, by rw [stands]; exact isOver⟩

end Close

end AgentHive
