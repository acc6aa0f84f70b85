import AgentHive.Process.Closing
import AgentHive.Process.Protocol
import AgentHive.Services.MediaGeneration

/-!
What a request on a media job may commit, by how far it has closed the budget
reservation.
-/

namespace AgentHive

open Process (Action Monitor Stand)

def closingRow (entry : LedgerEntry) : Option (String × BudgetReservationScope) :=
  match entry.eventType with
  | .settle | .release => some (entry.reservationId, entry.scope)
  | _ => none

def PendingWrites.closingRow (writes : PendingWrites) : Option (String × BudgetReservationScope) :=
  writes.ledger.bind AgentHive.closingRow

namespace MediaGenerationJob

def reservationId (job : MediaGenerationJob) : String :=
  (job.rawReservation.map (·.reservationId)).getD ""

def scopesToClose (job : MediaGenerationJob) : List BudgetReservationScope :=
  match job.rawReservation with
  | some raw => if raw.approved then raw.budgetScopes else []
  | none => []

variable {other : MediaGenerationJob}

theorem reservationId_congr {job : MediaGenerationJob}
    (same : job.rawReservation = other.rawReservation) :
    job.reservationId = other.reservationId := by
  simp only [reservationId, same]

theorem scopesToClose_congr {job : MediaGenerationJob}
    (same : job.rawReservation = other.rawReservation) :
    job.scopesToClose = other.scopesToClose := by
  simp only [scopesToClose, same]

end MediaGenerationJob

abbrev MediaStand := Stand String BudgetReservationScope

def standAfter (writes : PendingWrites) (stand : MediaStand) : MediaStand :=
  match writes.closingRow, writes.job, stand with
  | some _, _, .closing key (_ :: rest) => .closing key rest
  | some _, some loaded, _ =>
    .closing loaded.stored.reservationId loaded.stored.scopesToClose.tail
  | none, some _, .spare _ _ => .idle
  | _, _, stand => stand

def mediaMonitor : Monitor MediaEffect MediaAnswer MediaStand where
  next
    | _, ⟨.reserveUsage _ _, .ok reservation⟩ =>
      .spare reservation.reservationId reservation.budgetScopes
    | stand, ⟨.commit writes, .ok ()⟩ => standAfter writes stand
    | stand, _ => stand

structure LoadedJob.Keeps (loaded : LoadedJob) : Prop where
  reservation : loaded.job.rawReservation = loaded.stored.rawReservation
  ends : loaded.job.status.isTerminal = loaded.stored.status.isTerminal
  stays : loaded.stored.status.isTerminal = true → loaded.job.status = loaded.stored.status

structure LoadedJob.Ends (loaded : LoadedJob) : Prop where
  reservation : loaded.job.rawReservation = loaded.stored.rawReservation
  began : loaded.stored.status.isTerminal = false
  ended : loaded.job.status.isTerminal = true

inductive CommitAllowed (retry : Bool) : MediaStand → PendingWrites → Prop
  | quiet {stand : MediaStand} {writes : PendingWrites} (job : writes.job = none)
      (row : writes.closingRow = none) : CommitAllowed retry stand writes
  | keep {writes : PendingWrites} {loaded : LoadedJob} (job : writes.job = some loaded)
      (row : writes.closingRow = none) (keeps : loaded.Keeps) : CommitAllowed retry .idle writes
  | closeEmpty {writes : PendingWrites} {loaded : LoadedJob} (job : writes.job = some loaded)
      (row : writes.closingRow = none) (ends : loaded.Ends)
      (none : loaded.stored.scopesToClose = []) : CommitAllowed retry .idle writes
  | closeFirst {writes : PendingWrites} {loaded : LoadedJob} {scope : BudgetReservationScope}
      {rest : List BudgetReservationScope} (job : writes.job = some loaded)
      (row : writes.closingRow = some (loaded.stored.reservationId, scope))
      (ends : loaded.Ends) (first : loaded.stored.scopesToClose = scope :: rest) :
      CommitAllowed retry .idle writes
  | closeNext {writes : PendingWrites} {key : String} {scope : BudgetReservationScope}
      {rest : List BudgetReservationScope} (job : writes.job = none)
      (row : writes.closingRow = some (key, scope)) :
      CommitAllowed retry (.closing key (scope :: rest)) writes
  | requeue {writes : PendingWrites} {loaded : LoadedJob} (retried : retry = true)
      (job : writes.job = some loaded) (row : writes.closingRow = none)
      (retryable : loaded.stored.status.isRetryable = true)
      (queued : loaded.job.status = .queued) :
      CommitAllowed retry (.spare loaded.job.reservationId loaded.job.scopesToClose) writes

def mediaAllowed (retry : Bool) (stand : MediaStand) : MediaEffect → Prop
  | .commit writes => CommitAllowed retry stand writes
  | .reserveUsage _ _ => retry = true ∧ stand = .idle
  | _ => True

def spares (metadata : MediaMetadata) : Bool := decide ("budget_reservation" ∉ metadata.keys)

/-- A step of the storage that does not fail, or an answer of the provider
without an entry `budget_reservation`. -/
def mediaWorks : MediaEvent → Bool
  | ⟨.getJob _, .error _⟩ | ⟨.findJobs _ _, .error _⟩ | ⟨.refreshJob _, .error _⟩
  | ⟨.principalDepartmentIds _, .error _⟩ | ⟨.reserveUsage _ _, .error _⟩
  | ⟨.commit _, .error _⟩ | ⟨.budget (.resolveCostCenter _), .error _⟩
  | ⟨.budget (.policyById _), .error _⟩ | ⟨.budget (.usageForPolicy _ _ _ _), .error _⟩ => false
  | ⟨.submit _, .ok result⟩ | ⟨.poll _, .ok result⟩ => spares result.metadata
  | ⟨.submit _, .error (.provider _ _ metadata)⟩
  | ⟨.poll _, .error (.provider _ _ metadata)⟩ => spares metadata
  | _ => true

abbrev Obeys {α : Type} (retry : Bool) (m : MediaStep α) (s : Option LoadedJob)
    (stand : MediaStand) (Q : Except Exc α → Option LoadedJob → MediaStand → Prop) : Prop :=
  m.Follows mediaMonitor (mediaAllowed retry) (fun e => mediaWorks e = true) s stand Q

variable {retry : Bool} {s : Option LoadedJob} {stand : MediaStand}

theorem Obeys.bind {α β : Type} {m : MediaStep α} {f : α → MediaStep β}
    {Q : Except Exc α → Option LoadedJob → MediaStand → Prop}
    {Q' : Except Exc β → Option LoadedJob → MediaStand → Prop} (first : Obeys retry m s stand Q)
    (rest : ∀ a s' stand', Q (.ok a) s' stand' → Obeys retry (f a) s' stand' Q')
    (raised : ∀ x s' stand', Q (.error x) s' stand' → Q' (.error x) s' stand') :
    Obeys retry (m >>= f) s stand Q' := by
  refine (Action.follows_bind _ _ _ _ _).mpr (Action.Follows.mono first ?_)
  intro r s' stand' h
  cases r with
  | ok a => exact rest a s' stand' h
  | error x => exact raised x s' stand' h

theorem Obeys.ask {β : Type} {e : MediaEffect} {f : MediaAnswer e → MediaStep β}
    {Q : Except Exc β → Option LoadedJob → MediaStand → Prop}
    (quiet : ∀ stand r, mediaMonitor.next stand ⟨e, r⟩ = stand)
    (may : ∀ stand, mediaAllowed retry stand e)
    (rest : ∀ r, mediaWorks ⟨e, r⟩ = true → Obeys retry (f r) s stand Q) :
    Obeys retry (Action.perform e >>= f) s stand Q := by
  refine (Action.follows_bind _ _ _ _ _).mpr ((Action.follows_perform _ _ _ _).mpr ?_)
  refine ⟨may stand, ?_⟩
  intro r works
  rw [quiet stand r]
  exact rest r works

abbrev Succeeds {α : Type} (retry : Bool) (m : MediaStep α) (s : Option LoadedJob)
    (stand : MediaStand) (P : α → Option LoadedJob → MediaStand → Prop) : Prop :=
  Obeys retry m s stand fun r s' stand' => ∃ a, r = .ok a ∧ P a s' stand'

theorem Succeeds.bind {α β : Type} {m : MediaStep α} {f : α → MediaStep β}
    {P : α → Option LoadedJob → MediaStand → Prop}
    {Q : Except Exc β → Option LoadedJob → MediaStand → Prop} (first : Succeeds retry m s stand P)
    (rest : ∀ a s' stand', P a s' stand' → Obeys retry (f a) s' stand' Q) :
    Obeys retry (m >>= f) s stand Q := by
  refine Obeys.bind first ?_ ?_
  · intro a s' stand' h
    obtain ⟨b, same, holds⟩ := h
    cases same
    exact rest a s' stand' holds
  · intro x s' stand' h
    obtain ⟨b, same, -⟩ := h
    cases same

def Clean (s : Option LoadedJob) : Prop := ∀ loaded ∈ s, loaded.job = loaded.stored

theorem clean_none : Clean none := by
  intro loaded mem
  cases mem

theorem clean_loaded (job : MediaGenerationJob) : Clean (some ⟨job, job⟩) := by
  intro loaded mem
  cases Option.mem_some.mp mem
  rfl

theorem eq_of_clean {loaded : LoadedJob} (clean : Clean s) (loads : s = some loaded) :
    s = some ⟨loaded.job, loaded.job⟩ := by
  obtain ⟨stored, job⟩ := loaded
  cases clean _ loads
  exact loads

theorem dirty_of_clean (clean : Clean s) : MediaSession.dirty s = none := by
  cases s with
  | none => rfl
  | some loaded =>
    have same : loaded.job = loaded.stored := clean loaded rfl
    simp [MediaSession.dirty, same]

def Reads {α : Type} (m : MediaStep α) (s : Option LoadedJob)
    (Q : α → Option LoadedJob → Prop) : Prop :=
  ∀ retry stand, Obeys retry m s stand fun r s' stand' =>
    stand' = stand ∧ match r with
      | .ok a => Q a s'
      | .error _ => Clean s'

namespace Reads

variable {α β : Type} {m : MediaStep α} {s : Option LoadedJob} {Q : α → Option LoadedJob → Prop}

theorem mono {Q' : α → Option LoadedJob → Prop} (h : Reads m s Q)
    (imp : ∀ a s', Q a s' → Q' a s') : Reads m s Q' := by
  intro retry stand
  refine Action.Follows.mono (h retry stand) ?_
  intro r s' stand' kept
  cases r with
  | ok a => exact ⟨kept.1, imp a s' kept.2⟩
  | error x => exact kept

theorem bind {f : α → MediaStep β} {Q' : β → Option LoadedJob → Prop} (first : Reads m s Q)
    (rest : ∀ a s', Q a s' → Reads (f a) s' Q') : Reads (m >>= f) s Q' := by
  intro retry stand
  refine (first retry stand).bind ?_ ?_
  · intro a s' stand' h
    obtain ⟨rfl, holds⟩ := h
    exact rest a s' holds retry stand'
  · intro x s' stand' h
    exact h

theorem bind_obeys {retry : Bool} {stand : MediaStand} {f : α → MediaStep β}
    {Q' : Except Exc β → Option LoadedJob → MediaStand → Prop} (first : Reads m s Q)
    (rest : ∀ a s', Q a s' → Obeys retry (f a) s' stand Q')
    (raised : ∀ x s', Clean s' → Q' (.error x) s' stand) : Obeys retry (m >>= f) s stand Q' := by
  refine (first retry stand).bind ?_ ?_
  · intro a s' stand' h
    obtain ⟨rfl, holds⟩ := h
    exact rest a s' holds
  · intro x s' stand' h
    obtain ⟨rfl, clean⟩ := h
    exact raised x s' clean

theorem pure (a : α) (holds : Q a s) : Reads (Pure.pure a : MediaStep α) s Q :=
  fun _ _ => ⟨rfl, holds⟩

theorem throw (x : Exc) (clean : Clean s) : Reads (Action.throw x : MediaStep α) s Q :=
  fun _ _ => ⟨rfl, clean⟩

variable (clean : Clean s)

include clean

theorem ofExcept (r : Except Exc α) :
    Reads (Action.ofExcept r : MediaStep α) s fun a s' => s' = s ∧ r = .ok a := by
  cases r with
  | ok a => exact pure a ⟨rfl, rfl⟩
  | error x => exact throw x clean

theorem stored (answer : Except Fault α) :
    Reads (MediaSession.stored answer : MediaStep α) s fun a s' => s' = s ∧ answer = .ok a := by
  cases answer with
  | ok a => exact pure a ⟨rfl, rfl⟩
  | error f => exact throw _ clean

theorem refuse (condition : Prop) [Decidable condition] (code : Nat)
    (detail : String) :
    Reads (MediaSession.refuse condition code detail) s fun _ s' => s' = s ∧ ¬ condition := by
  unfold MediaSession.refuse
  split
  · exact throw _ clean
  · rename_i allowed
    exact pure () ⟨rfl, allowed⟩

omit clean in
theorem ask {e : MediaEffect} {f : MediaAnswer e → MediaStep α}
    (quiet : ∀ stand r, mediaMonitor.next stand ⟨e, r⟩ = stand)
    (may : ∀ retry stand, mediaAllowed retry stand e)
    (rest : ∀ r, mediaWorks ⟨e, r⟩ = true → Reads (f r) s Q) :
    Reads (Action.perform e >>= f) s Q := by
  intro retry stand
  exact Obeys.ask quiet (may retry) fun r works => rest r works retry stand

omit clean in
theorem tryCatch {handler : Exc → MediaStep α} (first : Reads m s Q)
    (rest : ∀ x s', Clean s' → Reads (handler x) s' Q) : Reads (Action.tryCatch m handler) s Q := by
  intro retry stand
  refine (Action.follows_tryCatch _ _ _ _ _).mpr (Action.Follows.mono (first retry stand) ?_)
  intro r s' stand' h
  obtain ⟨rfl, holds⟩ := h
  cases r with
  | ok a => exact ⟨rfl, holds⟩
  | error x => exact rest x s' holds retry stand'

omit clean in
theorem get {f : Option LoadedJob → MediaStep α} (rest : Reads (f s) s Q) :
    Reads (Action.get >>= f) s Q := rest

theorem attached :
    Reads MediaSession.attached s fun job s' => s' = s ∧ s = some ⟨job, job⟩ := by
  apply get
  cases s with
  | none => exact throw _ clean
  | some loaded => exact pure loaded.job ⟨rfl, eq_of_clean clean rfl⟩

omit clean in
theorem load (job : MediaGenerationJob) :
    Reads (MediaSession.load job) s fun _ s' => s' = some ⟨job, job⟩ :=
  fun _ _ => ⟨rfl, rfl⟩

theorem getJob (jobId : UUID) :
    Reads (MediaSession.getJob jobId) s fun found s' =>
      Clean s' ∧ ∀ job ∈ found, s' = some ⟨job, job⟩ := by
  apply get
  split
  · rename_i loaded has
    have loads : s = some loaded := (Option.filter_eq_some_iff.mp has).1
    refine pure _ ⟨clean, ?_⟩
    intro job found
    cases found
    exact eq_of_clean clean loads
  · refine ask (fun _ _ => rfl) (fun _ _ => trivial) fun answer _ => ?_
    refine (stored clean answer).bind fun found s' h => ?_
    obtain ⟨rfl, -⟩ := h
    cases found with
    | none =>
      refine pure none ⟨clean, ?_⟩
      intro job found
      cases found
    | some job =>
      refine (load job).bind fun _ s' h => pure _ ?_
      subst h
      refine ⟨clean_loaded job, ?_⟩
      intro job found
      cases found
      rfl

/-! Functions of the service -/

theorem assertJobAccess (principal : Principal) (job : MediaGenerationJob) :
    Reads (MediaGeneration.assertJobAccess principal job) s fun _ s' => s' = s := by
  unfold MediaGeneration.assertJobAccess
  split
  · exact throw _ clean
  · split
    · exact pure () rfl
    · refine ask (fun _ _ => rfl) (fun _ _ => trivial) fun answer _ => ?_
      refine (stored clean answer).bind fun departmentIds s' h => ?_
      obtain ⟨rfl, -⟩ := h
      exact (refuse clean _ _ _).mono fun _ _ h => h.1

theorem getOwnJob (principal : Principal) (jobId : UUID) :
    Reads (MediaGeneration.getOwnJob principal jobId) s fun job s' => s' = some ⟨job, job⟩ := by
  refine (getJob clean jobId).bind fun found s' h => ?_
  obtain ⟨clean, loads⟩ := h
  split
  · exact throw _ clean
  · rename_i job own
    have session := loads job (Option.filter_eq_some_iff.mp own).1
    refine (assertJobAccess clean principal job).bind fun _ s'' same => pure job ?_
    rw [same, session]

theorem ensureRunnable (job : MediaGenerationJob) :
    Reads (MediaGeneration.ensureRunnable job) s fun _ s' => s' = s := by
  refine ask (fun _ _ => rfl) (fun _ _ => trivial) fun runnable _ => ?_
  refine (ofExcept clean runnable).bind fun _ s' h => ?_
  obtain ⟨rfl, -⟩ := h
  refine ask (fun _ _ => rfl) (fun _ _ => trivial) fun configured _ => ?_
  refine (ofExcept clean configured).bind fun _ s' h => ?_
  obtain ⟨rfl, -⟩ := h
  refine ask (fun _ _ => rfl) (fun _ _ => trivial) fun allowed _ => ?_
  exact (ofExcept clean allowed).mono fun _ _ h => h.1

theorem validatedOutputs (lib : MediaLibrary) (job : MediaGenerationJob)
    (outputs : Option (List Dict)) :
    Reads (MediaGeneration.validatedOutputs lib job outputs) s fun _ s' => s' = s := by
  cases outputs with
  | none => exact pure _ rfl
  | some outputs =>
    simp only [MediaGeneration.validatedOutputs]
    split
    · exact pure _ rfl
    · exact throw _ clean

theorem requireJob (jobId : UUID) (message : String) :
    Reads (MediaGeneration.requireJob jobId message) s fun job s' => s' = some ⟨job, job⟩ := by
  refine (getJob clean jobId).bind fun found s' h => ?_
  obtain ⟨clean, loads⟩ := h
  cases found with
  | none => exact throw _ clean
  | some job => exact pure job (loads job rfl)

theorem archiveOutputs (job : MediaGenerationJob) (outputs : List Dict) :
    Reads (MediaGeneration.archiveOutputs job outputs) s fun _ s' => s' = s := by
  refine ask (fun _ _ => rfl) (fun _ _ => trivial) fun answer _ => ?_
  split
  · exact pure _ rfl
  · exact throw _ clean
  · exact throw _ clean

end Reads

def saved (s : Option LoadedJob) : Option LoadedJob := s.map fun loaded => ⟨loaded.job, loaded.job⟩

theorem saved_of_clean (clean : Clean s) : saved s = s := by
  cases s with
  | none => rfl
  | some loaded => exact (eq_of_clean clean rfl).symm

section Commits

variable {retry : Bool} {s : Option LoadedJob} {stand : MediaStand} {usage : Option MediaUsageRow}

theorem flush_succeeds {ledger : Option LedgerEntry}
    (may : CommitAllowed retry stand ⟨MediaSession.dirty s, ledger, usage⟩) :
    Succeeds retry (MediaSession.flush ledger usage) s stand fun answer s' stand' =>
      answer = .ok () ∧ s' = saved s ∧
        stand' = standAfter ⟨MediaSession.dirty s, ledger, usage⟩ stand := by
  refine ⟨may, ?_⟩
  intro answer works
  cases answer with
  | ok done => exact ⟨_, rfl, rfl, rfl, rfl⟩
  | error f => cases works

theorem commitUsage_succeeds (may : CommitAllowed retry stand ⟨MediaSession.dirty s, none, usage⟩) :
    Succeeds retry (MediaSession.commitUsage usage) s stand fun _ s' stand' =>
      s' = saved s ∧ stand' = standAfter ⟨MediaSession.dirty s, none, usage⟩ stand := by
  refine (flush_succeeds may).bind ?_
  intro answer s' stand' h
  obtain ⟨rfl, saves, stands⟩ := h
  exact ⟨(), rfl, saves, stands⟩

theorem commit_succeeds (clean : Clean s) :
    Succeeds retry MediaSession.commit s stand fun _ s' stand' => s' = s ∧ stand' = stand := by
  have nothing := dirty_of_clean clean
  have may : CommitAllowed retry stand ⟨MediaSession.dirty s, none, none⟩ := .quiet nothing rfl
  refine Action.Follows.mono (commitUsage_succeeds may) ?_
  intro r s' stand' h
  obtain ⟨done, ok, saves, stands⟩ := h
  rw [nothing] at stands
  exact ⟨done, ok, saves.trans (saved_of_clean clean), stands⟩

theorem attached_bind {β : Type} {f : MediaGenerationJob → MediaStep β} {loaded : LoadedJob}
    {Q : Except Exc β → Option LoadedJob → MediaStand → Prop}
    (rest : Obeys retry (f loaded.job) (some loaded) stand Q) :
    Obeys retry (MediaSession.attached >>= f) (some loaded) stand Q := rest

theorem refresh_succeeds (job : MediaGenerationJob) :
    Succeeds retry (MediaSession.refresh job) s stand fun _ s' stand' =>
      (∃ row, s' = some ⟨row, row⟩) ∧ stand' = stand := by
  refine Obeys.ask (fun _ _ => rfl) (fun _ => trivial) ?_
  intro answer works
  cases answer with
  | ok row => exact ⟨(), rfl, ⟨row, rfl⟩, rfl⟩
  | error f => cases works

theorem finish_succeeds {loaded : LoadedJob}
    (may : CommitAllowed retry stand ⟨MediaSession.dirty (some loaded), none, none⟩) :
    Succeeds retry MediaSession.finish (some loaded) stand fun job s' stand' =>
      s' = some ⟨job, job⟩ ∧
        stand' = standAfter ⟨MediaSession.dirty (some loaded), none, none⟩ stand := by
  apply attached_bind
  refine (commitUsage_succeeds may).bind fun _ s' stand' h => ?_
  obtain ⟨-, rfl⟩ := h
  refine (refresh_succeeds loaded.job).bind fun _ s'' stand' h => ?_
  obtain ⟨⟨row, rfl⟩, rfl⟩ := h
  exact ⟨row, rfl, rfl, rfl⟩

end Commits

end AgentHive
