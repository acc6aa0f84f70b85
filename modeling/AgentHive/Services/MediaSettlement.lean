import AgentHive.Services.MediaClosing

/-!
The settlement of a media job whose database steps may fail: the terminal status, the
terminal rows of the ledger, and the usage row of a success.
-/

namespace AgentHive

open Process (Action)
open MediaBudget MediaGeneration MediaSession
open Process.Action (carry carry_bind carry_ite carry_perform from_bind from_perform ofExcept)
open BudgetGuard (recordBudgetEvent release releaseScopes settleScopes)

def closingEvent : MediaGenerationJobStatus → LedgerEvent
  | .succeeded => .settle
  | _ => .release

def terminalRow (entry : LedgerEntry) : Option (LedgerEvent × String × BudgetReservationScope) :=
  match entry.eventType with
  | .settle | .release => some (entry.eventType, entry.reservationId, entry.scope)
  | _ => none

def MediaStorage.terminalRows (s : MediaStorage) :
    List (LedgerEvent × String × BudgetReservationScope) :=
  s.ledger.filterMap terminalRow

def MediaGenerationJob.terminalRows (job : MediaGenerationJob) :
    List (LedgerEvent × String × BudgetReservationScope) :=
  job.scopesToClose.map fun scope => (closingEvent job.status, job.reservationId, scope)

def MediaGenerationJob.isUsed (job : MediaGenerationJob) : Bool :=
  job.status == .succeeded && job.rawReservation.isSome

structure NothingOf (start s : MediaStorage) : Prop where
  isOpen : s.job.status.isTerminal = false
  rows : s.terminalRows = start.terminalRows
  usage : s.usage = start.usage

structure AllOf (start s : MediaStorage) : Prop where
  ended : s.job.status.isTerminal = true
  rows : s.terminalRows = start.terminalRows ++ s.job.terminalRows
  usage : ∃ added, s.usage = start.usage ++ added ∧
    added.length = if s.job.isUsed then 1 else 0

def AllOrNone (start s : MediaStorage) : Prop := NothingOf start s ∨ AllOf start s

def faultOf : MediaEvent → Option Fault
  | ⟨.commit _, .error f⟩ | ⟨.refreshJob _, .error f⟩ | ⟨.budget .rollback, .error f⟩
  | ⟨.budget (.resolveCostCenter _), .error f⟩ | ⟨.budget (.usageForPolicy _ _ _ _), .error f⟩ =>
    some f
  -- a policy that cannot be read is passed over
  | ⟨.budget (.policyById _), .error f⟩ => if f.isStorageError then none else some f
  | _ => none

def settles : MediaEffect → Bool
  | .commit writes => writes.ledger.isSome || writes.usage.isSome
  | .budget _ => true
  | _ => false

def storesRow : MediaEvent → Bool
  | ⟨.commit writes, .ok _⟩ => (writes.ledger.bind terminalRow).isSome || writes.usage.isSome
  | _ => false

/-- No step of the settlement fails, or, where the rows are lost, none of them is stored. What
the database raises is not the error of the archive. -/
structure JobSettles (lost : Prop) (e : MediaEvent) : Prop where
  ordinary : ∀ f ∈ faultOf e, isArchiveError f.toExc = false
  works : ¬ lost → settles e.1 = true → faultOf e = none
  loses : lost → storesRow e = false

def settling (lost : Prop) : Process.Environment MediaEffect MediaAnswer MediaStorage :=
  mediaEnvironment.restrict fun _ => JobSettles lost

abbrev JobEnds (lost : Prop) {α : Type} (m : MediaStep α) (v : Option LoadedJob) (s : MediaStorage)
    (Q : Except Exc α → Option LoadedJob → MediaStorage → Prop) : Prop :=
  m.From (settling lost) v s Q

abbrev JobReturns (lost : Prop) {α : Type} (m : MediaStep α) (v : Option LoadedJob)
    (s : MediaStorage) (P : α → Option LoadedJob → MediaStorage → Prop) : Prop :=
  JobEnds lost m v s fun r v' s' => ∃ a, r = .ok a ∧ P a v' s'

theorem JobReturns.bind {lost : Prop} {α β : Type} {m : MediaStep α} {f : α → MediaStep β}
    {v : Option LoadedJob} {s : MediaStorage} {P : α → Option LoadedJob → MediaStorage → Prop}
    {Q : Except Exc β → Option LoadedJob → MediaStorage → Prop} (first : JobReturns lost m v s P)
    (rest : ∀ a v' s', P a v' s' → JobEnds lost (f a) v' s' Q) : JobEnds lost (m >>= f) v s Q := by
  refine Action.From.seq first ?_ ?_
  · intro a v' s' post
    obtain ⟨b, same, holds⟩ := post
    cases same
    exact rest a v' s' holds
  · intro x v' s' post
    obtain ⟨b, same, -⟩ := post
    cases same

structure Ended (start : MediaStorage) (ended : MediaGenerationJob)
    (v : Option LoadedJob) (s : MediaStorage) : Prop where
  session : v = some ⟨s.job, ended⟩
  nothing : NothingOf start s
  terminal : ended.status.isTerminal = true
  columns : s.job.overwrite ⟨s.job, ended⟩ = ended

structure Stored (start : MediaStorage) (ended : MediaGenerationJob)
    (rows : List (LedgerEvent × String × BudgetReservationScope)) (used : Nat)
    (v : Option LoadedJob) (s : MediaStorage) : Prop where
  session : v = some ⟨s.job, s.job⟩
  job : s.job = ended
  terminal : ended.status.isTerminal = true
  rows : s.terminalRows = start.terminalRows ++ rows
  usage : ∃ added, s.usage = start.usage ++ added ∧ added.length = used

variable {lost : Prop} {start s : MediaStorage} {ended : MediaGenerationJob}
  {v : Option LoadedJob} {rows : List (LedgerEvent × String × BudgetReservationScope)} {used : Nat}

theorem Stored.allOf (stored : Stored start ended rows used v s) (whole : rows = ended.terminalRows)
    (once : used = if ended.isUsed then 1 else 0) : AllOf start s where
  ended := stored.job ▸ stored.terminal
  rows := by rw [stored.rows, stored.job, whole]
  usage := by
    rw [stored.job, ← once]
    exact stored.usage

theorem Ended.isDirty (ended' : Ended start ended v s) :
    MediaSession.dirty v = some ⟨s.job, ended⟩ := by
  have changed : ended ≠ s.job := by
    intro same
    have terminal := ended'.terminal
    rw [same, ended'.nothing.isOpen] at terminal
    cases terminal
  rw [ended'.session]
  simp [MediaSession.dirty, changed]

theorem Stored.isClean (stored : Stored start ended rows used v s) :
    MediaSession.dirty v = none := by
  rw [stored.session]
  simp [MediaSession.dirty]

theorem flush_ends {ledger : Option LedgerEntry} {usage : Option MediaUsageRow}
    {Q : Except Exc (Except Fault Unit) → Option LoadedJob → MediaStorage → Prop}
    (ok : JobSettles lost ⟨.commit ⟨dirty v, ledger, usage⟩, .ok ()⟩ →
      Q (.ok (.ok ())) (saved v) (s.next ⟨.commit ⟨dirty v, ledger, usage⟩, .ok ()⟩))
    (failed : ∀ f, JobSettles lost ⟨.commit ⟨dirty v, ledger, usage⟩, .error f⟩ →
      Q (.ok (.error f)) v s) :
    JobEnds lost (flush ledger usage) v s Q := by
  simp only [JobEnds, flush, from_bind, Action.from_get, from_perform]
  intro answer s' answered
  obtain ⟨admissible, -, rfl⟩ := answered
  cases answer with
  | ok done => exact ok admissible
  | error f => exact failed f admissible

theorem terminalRows_next (s : MediaStorage) (writes : PendingWrites) :
    (s.next ⟨.commit writes, .ok ()⟩).terminalRows =
      s.terminalRows ++ (writes.ledger.bind terminalRow).toList := by
  simp only [MediaStorage.terminalRows, MediaStorage.next, List.filterMap_append]
  cases writes.ledger with
  | none => simp
  | some entry => cases h : terminalRow entry <;> simp [h]

theorem Ended.saves (ended' : Ended start ended v s) (ledger : Option LedgerEntry)
    (usage : Option MediaUsageRow) :
    Stored start ended (ledger.bind terminalRow).toList usage.toList.length (saved v)
      (s.next ⟨.commit ⟨dirty v, ledger, usage⟩, .ok ()⟩) := by
  have job : (s.next ⟨.commit ⟨dirty v, ledger, usage⟩, .ok ()⟩).job = ended := by
    rw [ended'.isDirty]
    exact ended'.columns
  refine ⟨?_, job, ended'.terminal, ?_, usage.toList, ?_, rfl⟩
  · rw [job, ended'.session]
    rfl
  · rw [terminalRows_next, ended'.nothing.rows]
  · change s.usage ++ usage.toList = _
    rw [ended'.nothing.usage]

theorem Stored.saves (stored : Stored start ended rows used v s) (ledger : Option LedgerEntry)
    (usage : Option MediaUsageRow) :
    Stored start ended (rows ++ (ledger.bind terminalRow).toList) (used + usage.toList.length)
      (saved v) (s.next ⟨.commit ⟨dirty v, ledger, usage⟩, .ok ()⟩) := by
  have job : (s.next ⟨.commit ⟨dirty v, ledger, usage⟩, .ok ()⟩).job = s.job := by
    rw [stored.isClean]
    rfl
  obtain ⟨added, isUsage, length⟩ := stored.usage
  refine ⟨?_, job.trans stored.job, stored.terminal, ?_, added ++ usage.toList, ?_, ?_⟩
  · rw [job, stored.session]
    rfl
  · rw [terminalRows_next, stored.rows, List.append_assoc]
  · change s.usage ++ usage.toList = _
    rw [isUsage, List.append_assoc]
  · rw [List.length_append, length]

inductive Written (start : MediaStorage) (ended : MediaGenerationJob)
    (rows : List (LedgerEvent × String × BudgetReservationScope)) (v : Option LoadedJob)
    (s : MediaStorage) : Prop
  | first (none : rows = []) (ended : Ended start ended v s)
  | later (stored : Stored start ended rows 0 v s)

theorem Written.saves (written : Written start ended rows v s)
    (ledger : Option LedgerEntry) (usage : Option MediaUsageRow) :
    Stored start ended (rows ++ (ledger.bind terminalRow).toList) usage.toList.length (saved v)
      (s.next ⟨.commit ⟨dirty v, ledger, usage⟩, .ok ()⟩) := by
  cases written with
  | first none ended => simpa [none] using ended.saves ledger usage
  | later stored => simpa using stored.saves ledger usage

section Rows

variable (kept : ¬ lost)
include kept

theorem works_of_kept {e : MediaEvent} (admissible : JobSettles lost e)
    (isStep : settles e.1 = true) : faultOf e = none :=
  admissible.works kept isStep

theorem Written.record (written : Written start ended rows v s) (entry : LedgerEntry) :
    JobReturns lost (carry budget (recordBudgetEvent entry)) v s
      fun _ v' s' => Stored start ended (rows ++ (terminalRow entry).toList) 0 v' s' := by
  rw [recordBudgetEvent, carry_bind, carry_perform]
  have flushed : JobReturns lost (flush (some entry) none) v s fun answer v' s' =>
      answer = .ok () ∧ Stored start ended (rows ++ (terminalRow entry).toList) 0 v' s' := by
    refine flush_ends (fun _ => ⟨_, rfl, rfl, written.saves (some entry) none⟩) ?_
    intro f admissible
    cases works_of_kept kept admissible rfl
  refine flushed.bind ?_
  intro answer v' s' post
  obtain ⟨rfl, stored⟩ := post
  exact ⟨(), rfl, stored⟩

theorem ask_ends {e : Effect} (asks : MediaSession.budget e = Action.perform (MediaEffect.budget e))
    (silent : ∀ r, s.next ⟨.budget e, r⟩ = s) :
    JobReturns lost (carry budget (Action.perform e)) v s fun r v' s' =>
      faultOf ⟨.budget e, r⟩ = none ∧ v' = v ∧ s' = s := by
  rw [carry_perform, asks]
  intro r s' answered
  obtain ⟨admissible, -, rfl⟩ := answered
  exact ⟨r, rfl, works_of_kept kept admissible rfl, rfl, silent r⟩

theorem policyById_ends (budgetId : UUID) :
    JobReturns lost (carry budget (BudgetGuard.policyById budgetId)) v s fun _ v' s' =>
      v' = v ∧ s' = s := by
  rw [BudgetGuard.policyById, carry_bind]
  refine (ask_ends kept rfl fun _ => rfl).bind ?_
  intro answer v' s' post
  obtain ⟨works, rfl, rfl⟩ := post
  cases answer with
  | ok policy => exact ⟨policy, rfl, rfl, rfl⟩
  | error f =>
    have swallowed : f.isStorageError = true := by
      by_contra other
      cases (if_neg other).symm.trans works
    simp only [swallowed, if_true]
    exact ⟨none, rfl, rfl, rfl⟩

theorem periodWindow_ends (policy : LLMBudget) :
    JobReturns lost (carry budget (BudgetGuard.periodWindow policy)) v s fun _ v' s' =>
      v' = v ∧ s' = s := by
  unfold BudgetGuard.periodWindow
  split
  · exact ⟨_, rfl, rfl, rfl⟩
  · rw [carry_bind]
    refine (ask_ends kept rfl fun _ => rfl).bind ?_
    intro now v' s' post
    exact ⟨_, rfl, post.2⟩

theorem Stored.alerts (stored : Stored start ended rows 0 v s) (policy : LLMBudget)
    (reservation : BudgetReservation) (context : LLMRequestContext)
    (scope : BudgetReservationScope) (actual : LLMUsageMetrics) :
    JobReturns lost (carry budget
      (BudgetGuard.recordSoftLimitAlertIfNeeded policy reservation context scope actual)) v s
      fun _ v' s' => Stored start ended rows 0 v' s' := by
  rw [BudgetGuard.recordSoftLimitAlertIfNeeded, carry_bind]
  refine (periodWindow_ends kept policy).bind ?_
  intro window v' s' post
  obtain ⟨rfl, rfl⟩ := post
  rw [carry_bind]
  refine (ask_ends kept rfl fun _ => rfl).bind ?_
  intro answer v' s' post
  obtain ⟨works, rfl, rfl⟩ := post
  cases answer with
  | error f => cases works
  | ok spent =>
    simp only [Step.stored, pure_bind]
    split
    · exact ⟨(), rfl, stored⟩
    · refine ((Written.later stored).record kept _).mono ?_
      intro r v' s' post
      obtain ⟨done, ok, stored⟩ := post
      have alone : Stored start ended (rows ++ []) 0 v' s' := stored
      rw [List.append_nil] at alone
      exact ⟨done, ok, alone⟩

theorem Written.settleScope (written : Written start ended rows v s)
    (reservation : BudgetReservation) (actual : LLMUsageMetrics) (context : LLMRequestContext)
    (scope : BudgetReservationScope) :
    JobReturns lost (carry budget
      (BudgetGuard.settleScope reservation actual context scope)) v s fun _ v' s' =>
        Stored start ended (rows ++ [(.settle, reservation.reservationId, scope)]) 0 v' s' := by
  rw [BudgetGuard.settleScope, carry_bind]
  refine (written.record kept _).bind ?_
  intro _ v' s' stored
  rw [carry_bind]
  refine (policyById_ends kept scope.budgetId).bind ?_
  intro found v' s' post
  obtain ⟨rfl, rfl⟩ := post
  cases found with
  | none => exact ⟨(), rfl, stored⟩
  | some policy =>
    simp only [carry_ite]
    split
    · exact stored.alerts kept policy reservation context scope actual
    · exact ⟨(), rfl, stored⟩

theorem Written.settleScopes (written : Written start ended rows v s)
    (reservation : BudgetReservation) (actual : LLMUsageMetrics) (context : LLMRequestContext)
    (scopes : List BudgetReservationScope) :
    JobReturns lost (carry budget
      (settleScopes reservation actual context scopes)) v s fun _ v' s' =>
        Written start ended
          (rows ++ scopes.map fun scope => (.settle, reservation.reservationId, scope)) v' s' := by
  induction scopes generalizing rows v s with
  | nil => exact ⟨(), rfl, by simpa using written⟩
  | cons scope rest ih =>
    rw [settleScopes, carry_bind]
    refine (written.settleScope kept reservation actual context scope).bind ?_
    intro _ v' s' stored
    refine (ih (.later stored)).mono ?_
    intro r v' s' post
    simpa only [List.append_assoc, List.map_cons, List.singleton_append] using post

theorem Written.releaseScopes (written : Written start ended rows v s)
    (reservation : BudgetReservation) (context : LLMRequestContext) (reason : String)
    (scopes : List BudgetReservationScope) :
    JobReturns lost (carry budget
      (releaseScopes reservation context reason scopes)) v s fun _ v' s' =>
        Written start ended
          (rows ++ scopes.map fun scope => (.release, reservation.reservationId, scope)) v' s' := by
  induction scopes generalizing rows v s with
  | nil => exact ⟨(), rfl, by simpa using written⟩
  | cons scope rest ih =>
    rw [releaseScopes, carry_bind]
    refine (written.record kept _).bind ?_
    intro _ v' s' stored
    have released : Stored start ended
        (rows ++ [(.release, reservation.reservationId, scope)]) 0 v' s' := stored
    refine (ih (.later released)).mono ?_
    intro r v' s' post
    simpa only [List.append_assoc, List.map_cons, List.singleton_append] using post

end Rows

theorem Ended.attached (isEnded : Ended start ended v s) :
    JobReturns lost MediaSession.attached v s fun job v' s' => job = ended ∧ v' = v ∧ s' = s := by
  rw [isEnded.session]
  exact ⟨ended, rfl, rfl, rfl, rfl⟩

theorem Stored.attached (stored : Stored start ended rows used v s) :
    JobReturns lost MediaSession.attached v s fun job v' s' => job = ended ∧ v' = v ∧ s' = s := by
  rw [stored.session]
  exact ⟨s.job, rfl, stored.job, rfl, rfl⟩

theorem Written.attached (written : Written start ended rows v s) :
    JobReturns lost MediaSession.attached v s fun job v' s' => job = ended ∧ v' = v ∧ s' = s := by
  cases written with
  | first none isEnded => exact isEnded.attached
  | later stored => exact stored.attached

theorem Written.recordMediaUsage (kept : ¬ lost) (written : Written start ended rows v s)
    (context : LLMRequestContext) (usage : LLMUsageMetrics) :
    JobReturns lost (MediaBudget.recordMediaUsage context usage) v s
      fun _ v' s' => Stored start ended rows 1 v' s' := by
  rw [MediaBudget.recordMediaUsage, JobReturns, JobEnds, from_bind, from_perform]
  intro answer s' answered
  obtain ⟨admissible, -, rfl⟩ := answered
  cases answer with
  | error f => cases works_of_kept kept admissible rfl
  | ok costCenterId =>
    refine written.attached.bind ?_
    intro job v' s' post
    obtain ⟨rfl, rfl, rfl⟩ := post
    have flushed : JobReturns lost (flush none
        (some ⟨context, costCenterId, job.modelKey, usage, .success⟩)) v' s'
        fun answer v s => answer = .ok () ∧ Stored start job rows 1 v s := by
      refine flush_ends (fun _ => ⟨_, rfl, rfl, ?_⟩) ?_
      · have stored := written.saves none
          (some ⟨context, costCenterId, job.modelKey, usage, .success⟩)
        rw [Option.bind_none, Option.toList_none, List.append_nil] at stored
        exact stored
      · intro f admissible
        cases works_of_kept kept admissible rfl
    refine flushed.bind ?_
    intro answer v s post
    obtain ⟨rfl, stored⟩ := post
    exact ⟨(), rfl, stored⟩

def Harmless (start : MediaStorage) (x : Exc) (s : MediaStorage) : Prop :=
  isArchiveError x = false ∧ NothingOf start s

def Forgone (start : MediaStorage) {α : Type} (r : Except Exc α) (v : Option LoadedJob)
    (s : MediaStorage) : Prop :=
  match r with
  | .ok _ => v = none ∧ NothingOf start s
  | .error x => Harmless start x s

def Missed (start : MediaStorage) (r : Except Exc (Except Fault Unit)) (v : Option LoadedJob)
    (s : MediaStorage) : Prop :=
  match r with
  | .ok (.ok _) => v = none ∧ NothingOf start s
  | .ok (.error f) => Harmless start f.toExc s
  | .error x => Harmless start x s

theorem Forgone.bind {α β : Type} {m : MediaStep α} {f : α → MediaStep β}
    {Q : Except Exc β → Option LoadedJob → MediaStorage → Prop}
    (first : JobEnds lost m v s (Forgone start))
    (rest : ∀ a s', NothingOf start s' → JobEnds lost (f a) none s' Q)
    (raised : ∀ x v' s', Harmless start x s' → Q (.error x) v' s') :
    JobEnds lost (m >>= f) v s Q := by
  refine Action.From.seq first ?_ raised
  intro a v' s' post
  obtain ⟨rfl, nothing⟩ := post
  exact rest a s' nothing

section Lost

variable (gone : lost)
include gone

/-- A row that is lost takes the session with it; an alert finds the session lost. -/
theorem NothingOf.record (nothing : NothingOf start s) (entry : LedgerEntry)
    (row : (terminalRow entry).isSome = true ∨ v = none) :
    JobEnds lost (carry budget (recordBudgetEvent entry)) v s
      (Forgone start) := by
  rw [recordBudgetEvent, carry_bind, carry_perform]
  refine Action.From.seq (P := Missed start) (flush_ends ?_ ?_) ?_ fun x v' s' post => post
  · intro admissible
    have missed : (terminalRow entry).isSome = false := by
      simpa [storesRow] using admissible.loses gone
    cases row with
    | inl terminal =>
      rw [missed] at terminal
      cases terminal
    | inr none =>
      subst none
      refine ⟨rfl, nothing.isOpen, ?_, ?_⟩
      · have none : terminalRow entry = none := by simpa using missed
        rw [terminalRows_next]
        simpa [none] using nothing.rows
      · simpa [MediaStorage.next] using nothing.usage
  · exact fun f admissible => ⟨admissible.ordinary f rfl, nothing⟩
  · intro answer v' s' post
    cases answer with
    | ok done => exact post
    | error f =>
      simp only [carry_ite, carry_bind, carry_perform, Action.carry_throw]
      split
      · simp only [JobEnds, from_bind, from_perform]
        intro undone s'' answered
        obtain ⟨admissible, -, rfl⟩ := answered
        cases undone with
        | ok done => exact ⟨rfl, post.2⟩
        | error f' => exact ⟨admissible.ordinary f' rfl, post.2⟩
      · exact post

omit gone in
theorem NothingOf.ask (nothing : NothingOf start s) {e : Effect} {β : Type}
    {f : Answer e → MediaStep β} {Q : Except Exc β → Option LoadedJob → MediaStorage → Prop}
    (asks : MediaSession.budget e = Action.perform (MediaEffect.budget e))
    (silent : ∀ r, s.next ⟨.budget e, r⟩ = s)
    (rest : ∀ r, (∀ fault ∈ faultOf ⟨.budget e, r⟩, Harmless start fault.toExc s) →
      JobEnds lost (f r) v s Q) :
    JobEnds lost (carry budget (Action.perform e) >>= f) v s Q := by
  rw [carry_perform, asks, JobEnds, from_bind, from_perform]
  intro r s' answered
  obtain ⟨admissible, -, stays⟩ := answered
  rw [silent] at stays
  subst stays
  exact rest r fun fault raised => ⟨admissible.ordinary fault raised, nothing⟩

omit gone in
theorem NothingOf.policyById (nothing : NothingOf start s) (budgetId : UUID) :
    JobEnds lost (carry budget (BudgetGuard.policyById budgetId)) none s
      (Forgone start) := by
  rw [BudgetGuard.policyById, carry_bind]
  refine nothing.ask rfl (fun _ => rfl) ?_
  intro answer harmless
  cases answer with
  | ok policy => exact ⟨rfl, nothing⟩
  | error f =>
    simp only [carry_ite]
    split
    · exact ⟨rfl, nothing⟩
    · rename_i other
      exact harmless f (if_neg other)

omit gone in
theorem NothingOf.periodWindow (nothing : NothingOf start s) (policy : LLMBudget) :
    JobEnds lost (carry budget (BudgetGuard.periodWindow policy)) none s
      (Forgone start) := by
  unfold BudgetGuard.periodWindow
  split
  · exact ⟨rfl, nothing⟩
  · rw [carry_bind]
    refine nothing.ask rfl (fun _ => rfl) ?_
    intro now _
    exact ⟨rfl, nothing⟩

theorem NothingOf.alerts (nothing : NothingOf start s) (policy : LLMBudget)
    (reservation : BudgetReservation) (context : LLMRequestContext)
    (scope : BudgetReservationScope) (actual : LLMUsageMetrics) :
    JobEnds lost (carry budget (BudgetGuard.recordSoftLimitAlertIfNeeded policy reservation
      context scope actual)) none s (Forgone start) := by
  rw [BudgetGuard.recordSoftLimitAlertIfNeeded, carry_bind]
  refine Forgone.bind (nothing.periodWindow policy) ?_ fun x v' s' harmless => harmless
  intro window s' nothing
  rw [carry_bind]
  refine nothing.ask rfl (fun _ => rfl) ?_
  intro answer harmless
  cases answer with
  | error f => exact harmless f rfl
  | ok spent =>
    simp only [Step.stored, pure_bind]
    split
    · exact ⟨rfl, nothing⟩
    · exact nothing.record gone _ (.inr rfl)

theorem NothingOf.settleScope (nothing : NothingOf start s) (reservation : BudgetReservation)
    (actual : LLMUsageMetrics) (context : LLMRequestContext) (scope : BudgetReservationScope) :
    JobEnds lost
      (carry budget (BudgetGuard.settleScope reservation actual context scope)) v s
      (Forgone start) := by
  rw [BudgetGuard.settleScope, carry_bind]
  refine Forgone.bind (nothing.record gone _ (.inl rfl)) ?_ fun x v' s' harmless => harmless
  intro _ s' nothing
  rw [carry_bind]
  refine Forgone.bind (nothing.policyById scope.budgetId) ?_ fun x v' s' harmless => harmless
  intro found s' nothing
  cases found with
  | none => exact ⟨rfl, nothing⟩
  | some policy =>
    simp only [carry_ite]
    split
    · exact nothing.alerts gone policy reservation context scope actual
    · exact ⟨rfl, nothing⟩

theorem NothingOf.settleScopes (nothing : NothingOf start s) (reservation : BudgetReservation)
    (actual : LLMUsageMetrics) (context : LLMRequestContext)
    (scopes : List BudgetReservationScope) (begun : v = none ∨ scopes ≠ []) :
    JobEnds lost
      (carry budget (settleScopes reservation actual context scopes)) v s
      (Forgone start) := by
  induction scopes generalizing v s with
  | nil =>
    cases begun with
    | inl none => exact ⟨none, nothing⟩
    | inr some => exact absurd rfl some
  | cons scope rest ih =>
    rw [settleScopes, carry_bind]
    refine Forgone.bind (nothing.settleScope gone reservation actual context scope) ?_
      fun x v' s' harmless => harmless
    intro _ s' nothing
    exact ih nothing (.inl rfl)

theorem NothingOf.releaseScopes (nothing : NothingOf start s) (reservation : BudgetReservation)
    (context : LLMRequestContext) (reason : String) (scopes : List BudgetReservationScope)
    (begun : v = none ∨ scopes ≠ []) :
    JobEnds lost
      (carry budget (releaseScopes reservation context reason scopes)) v
      s (Forgone start) := by
  induction scopes generalizing v s with
  | nil =>
    cases begun with
    | inl none => exact ⟨none, nothing⟩
    | inr some => exact absurd rfl some
  | cons scope rest ih =>
    rw [releaseScopes, carry_bind]
    refine Forgone.bind (nothing.record gone _ (.inl rfl)) ?_ fun x v' s' harmless => harmless
    intro _ s' nothing
    exact ih nothing (.inl rfl)

theorem NothingOf.recordMediaUsage (nothing : NothingOf start s) (context : LLMRequestContext)
    (usage : LLMUsageMetrics) :
    JobEnds lost (MediaBudget.recordMediaUsage context usage) v s fun r _ s' =>
      ∃ x, r = .error x ∧ Harmless start x s' := by
  rw [MediaBudget.recordMediaUsage, JobEnds, from_bind, from_perform]
  intro answer s' answered
  obtain ⟨admissible, -, rfl⟩ := answered
  cases answer with
  | error f => exact ⟨f.toExc, rfl, admissible.ordinary f rfl, nothing⟩
  | ok costCenterId =>
    cases v with
    | none => exact ⟨_, rfl, rfl, nothing⟩
    | some loaded =>
      change JobEnds lost (MediaSession.attached >>= _) (some loaded) _ _
      refine JobReturns.bind (P := fun _ _ s' => NothingOf start s')
        ⟨loaded.job, rfl, nothing⟩ ?_
      intro job v' s' nothing
      refine Action.From.seq (P := fun (r : Except Exc (Except Fault Unit)) _ s' =>
        ∃ f : Fault, r = .ok (.error f) ∧ Harmless start f.toExc s') (flush_ends ?_ ?_) ?_ ?_
      · intro admissible
        cases admissible.loses gone
      · exact fun f admissible => ⟨f, rfl, admissible.ordinary f rfl, nothing⟩
      · intro answer v' s' post
        obtain ⟨f, same, harmless⟩ := post
        cases same
        exact ⟨_, rfl, harmless⟩
      · intro x v' s' post
        obtain ⟨f, same, -⟩ := post
        cases same

end Lost

inductive JobSettled (start : MediaStorage) (ended : MediaGenerationJob)
    (v : Option LoadedJob) (s : MediaStorage) : Prop
  | all (stored : Stored start ended ended.terminalRows (if ended.isUsed then 1 else 0) v s)
  | status (isEnded : Ended start ended v s) (empty : ended.terminalRows = [])
      (unused : ended.isUsed = false)
  | undone (session : v = none) (nothing : NothingOf start s)

def JobSettledOr (start : MediaStorage) (ended : MediaGenerationJob)
    (r : Except Exc Unit) (v : Option LoadedJob) (s : MediaStorage) : Prop :=
  match r with
  | .ok _ => JobSettled start ended v s
  | .error x => Harmless start x s

variable {job : MediaGenerationJob} {reservation : BudgetReservation}

theorem rawReservation_isSome (found : jobReservation job = .ok (some reservation)) :
    job.rawReservation.isSome = true := by
  unfold jobReservation at found
  split at found
  · cases found
  · rename_i raw has
    rw [has]
    rfl

theorem isUsed_of_none (found : jobReservation job = .ok none) : job.isUsed = false := by
  unfold jobReservation at found
  split at found
  · rename_i missing
    simp [MediaGenerationJob.isUsed, missing]
  · split at found <;> cases found

theorem terminalRows_eq {event : LedgerEvent} (found : jobReservation job = .ok (some reservation))
    (isEvent : closingEvent job.status = event) :
    job.terminalRows = (if reservation.approved then reservation.budgetScopes else []).map
      fun scope => (event, reservation.reservationId, scope) := by
  obtain ⟨own, scopes⟩ := scopesToClose_eq found
  rw [MediaGenerationJob.terminalRows, scopes, own, isEvent]

theorem Ended.reservation_bind (isEnded : Ended start ended v s) {β : Type}
    {f : Option BudgetReservation → MediaStep β}
    {Q : Except Exc β → Option LoadedJob → MediaStorage → Prop}
    (found : ∀ reservation, jobReservation ended = .ok reservation →
      JobEnds lost (f reservation) v s Q)
    (raised : ∀ x, Harmless start x s → Q (.error x) v s) :
    JobEnds lost (ofExcept (jobReservation ended) >>= f) v s Q := by
  cases read : jobReservation ended with
  | ok reservation => exact found reservation read
  | error x => exact raised x ⟨isArchiveError_of_reservation read, isEnded.nothing⟩

theorem Ended.settleRows (kept : ¬ lost) (isEnded : Ended start ended v s)
    (success : ended.status = .succeeded) (found : jobReservation ended = .ok (some reservation))
    (usage : LLMUsageMetrics) (context : LLMRequestContext) :
    JobReturns lost (carry budget (BudgetGuard.settle {} reservation usage context)) v s
      fun _ v' s' => Written start ended ended.terminalRows v' s' := by
  have isSettle : closingEvent ended.status = .settle := by
    rw [success]
    rfl
  rw [terminalRows_eq found isSettle]
  unfold BudgetGuard.settle
  rw [carry_ite]
  split
  · rename_i skipped
    have denied : reservation.approved = false := by simpa using skipped
    rw [denied]
    exact ⟨(), rfl, .first rfl isEnded⟩
  · rename_i settled
    have approved : reservation.approved = true := by simpa using settled
    rw [approved, if_pos rfl]
    exact Written.settleScopes kept (.first rfl isEnded) _ _ _ _

theorem NothingOf.settle (gone : lost) (nothing : NothingOf start s)
    (reservation : BudgetReservation) (usage : LLMUsageMetrics) (context : LLMRequestContext) :
    JobEnds lost (carry budget (BudgetGuard.settle {} reservation usage context)) v s
      fun r _ s' => match r with
        | .ok _ => NothingOf start s'
        | .error x => Harmless start x s' := by
  unfold BudgetGuard.settle
  rw [carry_ite]
  split
  · exact nothing
  · by_cases empty : reservation.budgetScopes = []
    · rw [empty]
      exact nothing
    · refine (nothing.settleScopes gone _ _ _ _ (.inr empty)).mono ?_
      intro r v' s' post
      cases r with
      | ok done => exact post.2
      | error x => exact post

theorem Ended.settle (isEnded : Ended start ended v s) (success : ended.status = .succeeded)
    (lib : MediaLibrary) (principal : Principal) (requestId : Option String) :
    JobEnds lost (settleMediaGenerationBudget lib principal requestId) v s
      (JobSettledOr start ended) := by
  refine isEnded.attached.bind ?_
  intro job v' s' post
  obtain ⟨rfl, rfl, rfl⟩ := post
  refine isEnded.reservation_bind ?_ fun x harmless => harmless
  intro reservation found
  cases reservation with
  | none =>
    refine JobSettled.status isEnded ?_ (isUsed_of_none found)
    rw [MediaGenerationJob.terminalRows, scopesToClose_eq_nil found]
    rfl
  | some reservation =>
    cases priced : mediaGenerationUsage (jobEstimatedCost job) with
    | error x => exact ⟨isArchiveError_of_usage priced, isEnded.nothing⟩
    | ok usage =>
      change JobEnds lost (carry budget _ >>= _) v' s' _
      by_cases gone : lost
      · refine Action.From.seq (isEnded.nothing.settle gone reservation usage _) ?_
          fun x v s harmless => harmless
        intro _ v s nothing
        refine (nothing.recordMediaUsage gone _ usage).mono ?_
        intro r v s post
        obtain ⟨x, rfl, harmless⟩ := post
        exact harmless
      · have isUsed : job.isUsed = true := by
          simp [MediaGenerationJob.isUsed, success, rawReservation_isSome found]
        refine (Ended.settleRows gone isEnded success found usage _).bind ?_
        intro _ v s written
        refine (written.recordMediaUsage gone _ usage).mono ?_
        intro r v s post
        obtain ⟨done, rfl, stored⟩ := post
        refine JobSettled.all ?_
        rw [isUsed]
        exact stored

theorem Ended.release (isEnded : Ended start ended v s) (failure : ended.status ≠ .succeeded)
    (lib : MediaLibrary) (principal : Principal) (requestId : Option String) (reason : String) :
    JobEnds lost (releaseMediaGenerationBudget lib principal requestId reason) v s
      (JobSettledOr start ended) := by
  have unused : ended.isUsed = false := by simp [MediaGenerationJob.isUsed, failure]
  have isRelease : closingEvent ended.status = .release := by
    cases status : ended.status with
    | succeeded => exact absurd status failure
    | _ => rfl
  refine isEnded.attached.bind ?_
  intro job v' s' post
  obtain ⟨rfl, rfl, rfl⟩ := post
  refine isEnded.reservation_bind ?_ fun x harmless => harmless
  intro reservation found
  cases reservation with
  | none =>
    refine JobSettled.status isEnded ?_ unused
    rw [MediaGenerationJob.terminalRows, scopesToClose_eq_nil found]
    rfl
  | some reservation =>
    have rows := terminalRows_eq found isRelease
    change JobEnds lost
      (carry budget (release {} reservation _ reason)) v' s' _
    unfold release
    rw [carry_ite]
    split
    · rename_i skipped
      have denied : reservation.approved = false := by simpa using skipped
      rw [denied] at rows
      exact JobSettled.status isEnded rows unused
    · rename_i settled
      have approved : reservation.approved = true := by simpa using settled
      rw [approved, if_pos rfl] at rows
      by_cases empty : reservation.budgetScopes = []
      · rw [empty] at rows ⊢
        exact JobSettled.status isEnded rows unused
      · by_cases gone : lost
        · refine (isEnded.nothing.releaseScopes gone _ _ _ _ (.inr empty)).mono ?_
          intro r v s post
          cases r with
          | ok done => exact JobSettled.undone post.1 post.2
          | error x => exact post
        · refine (Written.releaseScopes gone (.first rfl isEnded) _ _ _ _).mono ?_
          intro r v s post
          obtain ⟨done, rfl, written⟩ := post
          rw [List.nil_append, ← rows] at written
          cases written with
          | first none isEnded => exact JobSettled.status isEnded none unused
          | later stored =>
            refine JobSettled.all ?_
            rw [unused]
            exact stored

end AgentHive
