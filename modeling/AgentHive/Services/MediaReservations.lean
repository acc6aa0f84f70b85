import AgentHive.Llm.GatewayRuns
import AgentHive.Services.MediaRequests

/-!
The budget reservation of a media job under requests that run side by side, each
with its own session.
-/

namespace AgentHive

open Process (Action Closing Config Environment Interleaved Program Stand Taken)
open MediaGeneration
open MediaGenerationJob (overwrite_status reservationId_congr scopesToClose scopesToClose_congr)

inductive MediaRequest
  | update (principal : Principal) (jobId : UUID) (payload : MediaGenerationJobStatusUpdate)
      (requestId : Option String)
  | cancel (principal : Principal) (jobId : UUID) (requestId : Option String)
  | retry (principal : Principal) (jobId : UUID) (requestId : Option String)
  | execute (principal : Principal) (jobId : UUID) (requestId : Option String)
  | poll (principal : Principal) (jobId : UUID) (requestId : Option String)
  | callback (payload : MediaGenerationProviderCallback) (requestId : Option String)

namespace MediaRequest

abbrev Result : Type := Except Exc MediaGenerationJob

def step (lib : MediaLibrary) : MediaRequest → MediaStep MediaGenerationJob
  | update principal jobId payload requestId =>
    updateMediaGenerationJobStatus lib principal jobId payload requestId
  | cancel principal jobId requestId => cancelMediaGenerationJob lib principal jobId requestId
  | retry principal jobId requestId => retryMediaGenerationJob lib principal jobId requestId
  | execute principal jobId requestId => executeMediaGenerationJob lib principal jobId requestId
  | poll principal jobId requestId => pollMediaGenerationJob lib principal jobId requestId
  | callback payload requestId => handleMediaGenerationProviderCallback lib payload requestId

def program (lib : MediaLibrary) (request : MediaRequest) :
    Program MediaEffect MediaAnswer Result :=
  (request.step lib).run none

def isRetry : MediaRequest → Bool
  | retry _ _ _ => true
  | _ => false

/-- The metadata of the payload lacks the key `budget_reservation`. -/
def Spares : MediaRequest → Prop
  | update _ _ payload _ => spares payload.metadata = true
  | _ => True

theorem program_follows (lib : MediaLibrary) {request : MediaRequest} (sparing : request.Spares) :
    (request.program lib).Follows mediaMonitor (mediaAllowed request.isRetry)
      (fun e => mediaWorks e = true) .idle fun _ stand => stand.isClosing = false := by
  apply (Action.follows_run _ _ _ _).mpr
  cases request with
  | update principal jobId payload requestId =>
    exact over_of_updated
      (updateMediaGenerationJobStatus_obeys lib clean_none principal jobId payload requestId sparing)
  | cancel principal jobId requestId =>
    exact cancelMediaGenerationJob_obeys lib clean_none principal jobId requestId
  | retry principal jobId requestId =>
    exact retryMediaGenerationJob_obeys lib clean_none principal jobId requestId
  | execute principal jobId requestId =>
    exact executeMediaGenerationJob_obeys lib clean_none principal jobId requestId
  | poll principal jobId requestId =>
    exact pollMediaGenerationJob_obeys lib clean_none principal jobId requestId
  | callback payload requestId =>
    exact handleMediaGenerationProviderCallback_obeys lib clean_none payload requestId

end MediaRequest

namespace MediaStorage

variable {ι : Type} [DecidableEq ι]

def closedScopes (s : MediaStorage) : List (String × BudgetReservationScope) :=
  s.ledger.filterMap closingRow

def closing (s : MediaStorage) (stand : ι → MediaStand) :
    Closing ι String BudgetReservationScope where
  issued := s.issued
  key := s.job.reservationId
  items := s.job.scopesToClose
  isOpen := !s.job.status.isTerminal
  stand := stand
  closed := s.closedScopes

/-- A commit of the job finds the status and the reservation its request read. -/
def Fresh (s : MediaStorage) : MediaEvent → Prop
  | ⟨.commit writes, _⟩ => ∀ loaded ∈ writes.job,
      loaded.stored.status = s.job.status ∧ loaded.stored.rawReservation = s.job.rawReservation
  | _ => True

instance decidableFresh (s : MediaStorage) : ∀ e, Decidable (s.Fresh e)
  | ⟨.commit ⟨some loaded, _, _⟩, _⟩ =>
    decidable_of_iff (loaded.stored.status = s.job.status ∧
      loaded.stored.rawReservation = s.job.rawReservation) (by simp [Fresh])
  | ⟨.commit ⟨none, _, _⟩, _⟩ => .isTrue fun _ mem => by cases mem
  | ⟨.getJob _, _⟩ | ⟨.findJobs _ _, _⟩ | ⟨.refreshJob _, _⟩ | ⟨.principalDepartmentIds _, _⟩
  | ⟨.ensureModuleRunnable _, _⟩ | ⟨.ensureProviderConfigured _, _⟩
  | ⟨.enforceModelPolicy _, _⟩ | ⟨.resolveAdapter _, _⟩ | ⟨.submit _, _⟩ | ⟨.poll _, _⟩
  | ⟨.archiveOutputs _ _, _⟩ | ⟨.reserveUsage _ _, _⟩ | ⟨.budget _, _⟩ => .isTrue trivial

omit [DecidableEq ι] in
theorem closing_commit (s : MediaStorage) (stand : ι → MediaStand) (writes : PendingWrites) :
    (s.next ⟨.commit writes, .ok ()⟩).closing stand =
      { s.closing stand with
        key := ((writes.job.map s.job.overwrite).getD s.job).reservationId
        items := ((writes.job.map s.job.overwrite).getD s.job).scopesToClose
        isOpen := !((writes.job.map s.job.overwrite).getD s.job).status.isTerminal
        closed := s.closedScopes ++ writes.closingRow.toList } := by
  simp only [closing, next, closedScopes, List.filterMap_append, PendingWrites.closingRow]
  cases writes.ledger with
  | none => simp
  | some entry => cases h : closingRow entry <;> simp [h]

variable {s : MediaStorage}

theorem overwritten {writes : PendingWrites} {loaded : LoadedJob}
    (fresh : s.Fresh ⟨.commit writes, .ok ()⟩) (job : writes.job = some loaded) :
    loaded.stored.status = s.job.status ∧ loaded.stored.rawReservation = s.job.rawReservation ∧
      (s.job.overwrite loaded).status = loaded.job.status ∧
      (s.job.overwrite loaded).rawReservation = loaded.job.rawReservation := by
  obtain ⟨status, reservation⟩ := fresh loaded job
  exact ⟨status, reservation, overwrite_status status,
    MediaGenerationJob.overwrite_rawReservation reservation⟩

variable {stand : ι → MediaStand} {retry : Bool}

theorem closing_step_commit {i : ι} {writes : PendingWrites}
    (allowed : CommitAllowed retry (stand i) writes) (fresh : s.Fresh ⟨.commit writes, .ok ()⟩) :
    Closing.Step (s.closing stand) ((s.next ⟨.commit writes, .ok ()⟩).closing
      (Function.update stand i (standAfter writes (stand i)))) := by
  rw [closing_commit]
  generalize now : stand i = own at allowed
  cases allowed with
  | quiet job row =>
    have stays : standAfter writes own = own := by simp [standAfter, job, row]
    apply Closing.Step.keep
    rw [stays, ← now, Function.update_eq_self, job, row]
    simp [closing]
  | @keep _ loaded job row keeps =>
    obtain ⟨status, reservation, newStatus, newReservation⟩ := overwritten fresh job
    have stays : standAfter writes .idle = .idle := by simp [standAfter, job, row]
    have kept := newReservation.trans (keeps.reservation.trans reservation)
    apply Closing.Step.keep
    rw [stays, ← now, Function.update_eq_self, job, row]
    simp [closing, newStatus, keeps.ends, status, reservationId_congr kept,
      scopesToClose_congr kept]
  | @closeEmpty _ loaded job row ends empty =>
    obtain ⟨status, reservation, newStatus, newReservation⟩ := overwritten fresh job
    have stays : standAfter writes .idle = .idle := by simp [standAfter, job, row]
    have kept := newReservation.trans (ends.reservation.trans reservation)
    have nothing : s.job.scopesToClose = [] :=
      (scopesToClose_congr reservation).symm.trans empty
    apply Closing.Step.closeEmpty nothing
    rw [stays, ← now, Function.update_eq_self, job, row]
    simp [closing, newStatus, ends.ended, reservationId_congr kept,
      scopesToClose_congr kept]
  | @closeFirst _ loaded scope rest job row ends first =>
    obtain ⟨status, reservation, newStatus, newReservation⟩ := overwritten fresh job
    have begins : standAfter writes .idle = .closing s.job.reservationId rest := by
      simp [standAfter, job, row, first, reservationId_congr reservation]
    have kept := newReservation.trans (ends.reservation.trans reservation)
    have isOpen : (s.closing stand).isOpen = true := by
      simp [closing, ← status, ends.began]
    have scopes : s.job.scopesToClose = scope :: rest :=
      (scopesToClose_congr reservation).symm.trans first
    apply Closing.Step.closeFirst i scope rest now isOpen scopes
    rw [begins, job, row]
    simp [closing, newStatus, ends.ended, reservationId_congr kept,
      scopesToClose_congr kept,
      reservationId_congr reservation]
  | @closeNext _ key scope rest job row =>
    have goesOn : standAfter writes (.closing key (scope :: rest)) = .closing key rest := by
      simp [standAfter, row]
    apply Closing.Step.closeNext i key scope rest now
    rw [goesOn, job, row]
    simp [closing]
  | @requeue _ loaded retried job row retryable queued =>
    obtain ⟨status, reservation, newStatus, newReservation⟩ := overwritten fresh job
    have isOver : standAfter writes
        (.spare loaded.job.reservationId loaded.job.scopesToClose) = .idle := by
      simp [standAfter, job, row]
    have isClosed : (s.closing stand).isOpen = false := by
      simp [closing, ← status, MediaGenerationJobStatus.isTerminal_of_isRetryable retryable]
    apply Closing.Step.renew i _ _ now isClosed
    rw [isOver, job, row]
    simp [closing, newStatus, queued, MediaGenerationJobStatus.isTerminal,
      reservationId_congr newReservation,
      scopesToClose_congr newReservation]

theorem closing_step {i : ι} {e : MediaEffect} {r : MediaAnswer e}
    (allowed : mediaAllowed retry (stand i) e) (answers : s.Answers e r)
    (works : mediaWorks ⟨e, r⟩ = true) (fresh : s.Fresh ⟨e, r⟩) :
    Closing.Step (s.closing stand) ((s.next ⟨e, r⟩).closing
      (Function.update stand i (mediaMonitor.next (stand i) ⟨e, r⟩))) := by
  cases e with
  | commit writes =>
    cases r with
    | ok done => exact closing_step_commit allowed fresh
    | error f => cases works
  | reserveUsage usage context =>
    cases r with
    | ok reservation =>
      obtain ⟨-, idle⟩ := allowed
      exact .issue i reservation.reservationId reservation.budgetScopes idle answers.1
        answers.2 rfl
    | error f => cases works
  | _ =>
    apply Closing.Step.keep
    exact congrArg s.closing (Function.update_eq_self i stand)

omit [DecidableEq ι] in
theorem leaves_end {i : ι} {e : MediaEffect} {r : MediaAnswer e} (sound : (s.closing stand).Sound)
    (allowed : mediaAllowed retry (stand i) e) (works : mediaWorks ⟨e, r⟩ = true)
    (fresh : s.Fresh ⟨e, r⟩) (ended : s.job.status.isTerminal = true) :
    (s.next ⟨e, r⟩).job.status = s.job.status ∨
      (retry = true ∧ (s.next ⟨e, r⟩).job.status = .queued ∧
        (s.next ⟨e, r⟩).job.reservationId ≠ s.job.reservationId) := by
  cases e with
  | commit writes =>
    cases r with
    | error f => cases works
    | ok done =>
      generalize now : stand i = own at allowed
      cases allowed with
      | quiet job row => exact .inl (by simp [next, job])
      | closeNext job row => exact .inl (by simp [next, job])
      | keep job row keeps =>
        obtain ⟨status, -, newStatus, -⟩ := overwritten fresh job
        rw [← status] at ended ⊢
        exact .inl (by simpa [next, job, newStatus] using keeps.stays ended)
      | closeEmpty job row ends empty =>
        obtain ⟨status, -⟩ := overwritten fresh job
        rw [← status, ends.began] at ended
        cases ended
      | closeFirst job row ends first =>
        obtain ⟨status, -⟩ := overwritten fresh job
        rw [← status, ends.began] at ended
        cases ended
      | @requeue _ loaded retried job row retryable queued =>
        obtain ⟨-, -, newStatus, newReservation⟩ := overwritten fresh job
        refine .inr ⟨retried, by simp [next, job, newStatus, queued], ?_⟩
        have newId := reservationId_congr newReservation
        intro same
        refine sound.unforced i loaded.job.scopesToClose ?_
        rw [show (s.closing stand).key = loaded.job.reservationId by
          simpa [next, job, newId, closing] using same.symm]
        exact now
  | reserveUsage usage context => cases r <;> exact .inl rfl
  | _ => exact .inl rfl

structure Created (s : MediaStorage) : Prop where
  queued : s.job.status = .queued
  reserved : ∃ raw, s.job.rawReservation = some raw ∧ raw.approved = true ∧
    raw.reservationId ∈ s.issued ∧ raw.budgetScopes.Nodup
  untouched : s.ledger = []

omit [DecidableEq ι] in
theorem Created.sound (created : s.Created) : (s.closing fun _ : ι => .idle).Sound := by
  obtain ⟨raw, has, approved, issued, distinct⟩ := created.reserved
  have own : s.job.reservationId = raw.reservationId := by
    simp [MediaGenerationJob.reservationId, has]
  have scopes : s.job.scopesToClose = raw.budgetScopes := by
    simp [scopesToClose, has, approved]
  have nothing : s.closedScopes = [] := by simp [closedScopes, created.untouched]
  exact
    { known := by simpa [closing, own] using issued
      distinct := by simpa [closing, scopes] using distinct
      recorded := by simp [closing, nothing]
      once := by simp [closing, nothing]
      held := fun _ _ has => by cases has
      alone := fun _ _ _ has => by cases has
      apart := fun _ => List.nodup_nil
      ahead := fun _ _ has => by cases has
      unforced := fun _ _ same => by cases same
      untouched := fun _ => ⟨by simp [closing, nothing], fun _ has => by cases has⟩
      whole := by simp [closing, created.queued, MediaGenerationJobStatus.isTerminal] }

end MediaStorage

section Runs

variable {ι : Type} [DecidableEq ι]

abbrev MediaConfig (ι : Type) := Config ι MediaEffect MediaAnswer MediaRequest.Result MediaStorage

abbrev MediaTaken (ι : Type) := Taken ι MediaEffect MediaAnswer MediaRequest.Result MediaStorage

def standOf (c : MediaConfig ι) (i : ι) : MediaStand := mediaMonitor.stateAfter .idle (c.history i)

theorem standOf_advance (c : MediaConfig ι) (i : ι) (e : MediaEvent)
    (rest : Program MediaEffect MediaAnswer MediaRequest.Result) (shared : MediaStorage) :
    standOf (c.advance i e rest shared) =
      Function.update (standOf c) i (mediaMonitor.next (standOf c i) e) := by
  funext j
  by_cases same : j = i
  · subst same
    simp only [standOf, Config.advance, Function.update_self, Process.Monitor.stateAfter_append]
    rfl
  · simp only [standOf, Config.advance, Function.update_of_ne same]

/-- A step from a terminal status keeps it, or is a retry that queues the job
under another reservation. -/
def KeepsEnd (requests : ι → MediaRequest) (step : MediaTaken ι) : Prop :=
  step.before.shared.job.status.isTerminal = true →
    (step.before.shared.next step.event).job.status = step.before.shared.job.status ∨
      ((requests step.thread).isRetry = true ∧
        (step.before.shared.next step.event).job.status = .queued ∧
        (step.before.shared.next step.event).job.reservationId ≠
          step.before.shared.job.reservationId)

variable {requests : ι → MediaRequest} {storage : MediaStorage} {c : MediaConfig ι}
  {steps : List (MediaTaken ι)}

theorem closing_sound (lib : MediaLibrary) (created : storage.Created)
    (sparing : ∀ i, (requests i).Spares)
    (run : Interleaved mediaEnvironment (.start (fun i => (requests i).program lib) storage) steps c)
    (works : ∀ step ∈ steps, mediaWorks step.event = true)
    (fresh : ∀ step ∈ steps, step.before.shared.Fresh step.event) :
    (c.shared.closing (standOf c)).Sound ∧ ∀ step ∈ steps, KeepsEnd requests step := by
  induction run with
  | start => exact ⟨created.sound, by simp⟩
  | @call earlier c i e k r shared run asks answered ih =>
    obtain ⟨worked, lastWorks⟩ := List.forall_mem_append.mp works
    obtain ⟨freshly, lastFresh⟩ := List.forall_mem_append.mp fresh
    obtain ⟨sound, kept⟩ := ih worked freshly
    have allowed : mediaAllowed (requests i).isRetry (standOf c i) e :=
      run.allowed_of_asks worked (fun i => MediaRequest.program_follows lib (sparing i)) asks
    have works := lastWorks _ List.mem_cons_self
    have fresh := lastFresh _ List.mem_cons_self
    obtain ⟨answers, rfl⟩ := answered
    refine ⟨?_, List.forall_mem_append.mpr ⟨kept, List.forall_mem_singleton.mpr ?_⟩⟩
    · rw [standOf_advance]
      exact (MediaStorage.closing_step allowed answers works fresh).sound sound
    · exact MediaStorage.leaves_end sound allowed works fresh
  | drift run moved ih =>
    subst moved
    exact ih works fresh

def isMidway (c : MediaConfig ι) (i : ι) : Bool := (standOf c i).isClosing

/-- Each scope of a reservation gets at most one terminal row, and exactly one
once the job is terminal and nobody is midway; a request that has returned is
not. -/
theorem scopes_closed_once (lib : MediaLibrary) (created : storage.Created)
    (sparing : ∀ i, (requests i).Spares)
    (run : Interleaved mediaEnvironment (.start (fun i => (requests i).program lib) storage) steps c)
    (works : ∀ step ∈ steps, mediaWorks step.event = true)
    (fresh : ∀ step ∈ steps, step.before.shared.Fresh step.event) :
    c.shared.closedScopes.Nodup ∧
      (c.shared.job.status.isTerminal = true → (∀ i, isMidway c i = false) →
        ∀ scope ∈ c.shared.job.scopesToClose,
          c.shared.closedScopes.count (c.shared.job.reservationId, scope) = 1) ∧
      (∀ i r, c.threads i = .ret r → isMidway c i = false) ∧
      ∀ step ∈ steps, KeepsEnd requests step := by
  obtain ⟨sound, kept⟩ := closing_sound lib created sparing run works fresh
  refine ⟨sound.once, ?_, ?_, kept⟩
  · intro ended settled scope mem
    have isClosed : (c.shared.closing (standOf c)).isOpen = false := by
      simp [MediaStorage.closing, ended]
    exact List.count_eq_one_of_mem sound.once (sound.closed_whole isClosed settled mem)
  · intro i r returned
    have follows := run.follows works
      (fun i => MediaRequest.program_follows lib (sparing i)) i
    rw [returned] at follows
    exact follows

end Runs

namespace MediaStudio

def plainLibrary : MediaLibrary :=
  { hex := fun _ => "1"
    parseInt := fun _ => none
    validateOutputs := fun _ outputs => .ok outputs }

def owner : Principal := { userId := 11, tenantId := 1, permissions := [.tenantAdmin] }

def scope (budgetId : UUID) : BudgetReservationScope := { budgetId := budgetId, scopeType := .tenant }

def queuedJob (budgets : List UUID) : MediaStorage :=
  { job :=
      { id := 7
        tenantId := 1
        kind := "image"
        providerKey := "litellm"
        providerType := "litellm"
        modelKey := "gpt-image-1"
        routingKey := "image"
        metadata := .ofEntries [("budget_reservation", .reservation
          { approved := true
            reservationId := "first"
            reason := "budget_approved"
            estimatedCostUsd := 0
            budgetScopes := budgets.map scope })] }
    issued := ["first"] }

variable (lost : MediaStorage → PendingWrites → Bool)

def answer (s : MediaStorage) :
    (effect : MediaEffect) → MediaAnswer effect
  | .getJob jobId => .ok (if s.job.id = jobId then some s.job else none)
  | .findJobs _ _ => .ok [s.job]
  | .refreshJob _ => .ok s.job
  | .principalDepartmentIds _ => .ok []
  | .ensureModuleRunnable _ => .ok ()
  | .ensureProviderConfigured _ => .ok ()
  | .enforceModelPolicy _ => .ok ()
  | .resolveAdapter _ => .ok ()
  | .submit _ => .error .cancelled
  | .poll _ => .error .cancelled
  | .archiveOutputs _ outputs => .ok (outputs, [])
  | .reserveUsage _ _ =>
    if "second" ∈ s.issued then .error LLMGateway.lostRow
    else .ok { reservationId := "second", approved := true, budgetScopes := [scope 3] }
  | .budget effect => LLMGateway.quiet effect
  | .commit writes => if lost s writes then .error LLMGateway.lostRow else .ok ()

theorem answer_fits (s : MediaStorage) (effect : MediaEffect) :
    s.Answers effect (answer lost s effect) := by
  cases effect with
  | getJob jobId => exact rfl
  | findJobs externalJobId providerKey =>
    intro job found
    cases found
    rfl
  | refreshJob jobId => exact rfl
  | reserveUsage usage context =>
    by_cases taken : "second" ∈ s.issued
    · simp [answer, taken, MediaStorage.Answers]
    · simp [answer, taken, MediaStorage.Answers]
  | _ => exact trivial

def oracle (s : MediaStorage) (effect : MediaEffect) : MediaAnswer effect × MediaStorage :=
  (answer lost s effect, s.next ⟨effect, answer lost s effect⟩)

def noneLost : MediaStorage → PendingWrites → Bool := fun _ _ => false

variable {n : Nat}

def studioStart (storage : MediaStorage) (requests : Fin n → MediaRequest) : MediaConfig (Fin n) :=
  .start (fun i => (requests i).program plainLibrary) storage

def studioTurns (storage : MediaStorage) (requests : Fin n → MediaRequest) (turns : List (Fin n)) :
    List (MediaTaken (Fin n)) × MediaConfig (Fin n) :=
  Process.takeTurns (oracle lost) turns (studioStart storage requests)

theorem studioTurns_run (storage : MediaStorage) (requests : Fin n → MediaRequest)
    (turns : List (Fin n)) :
    Interleaved mediaEnvironment (studioStart storage requests)
      (studioTurns lost storage requests turns).1 (studioTurns lost storage requests turns).2 := by
  have fits : ∀ s effect, mediaEnvironment.answers s effect (oracle lost s effect).1
      (oracle lost s effect).2 := fun s effect => ⟨answer_fits lost s effect, rfl⟩
  exact Process.takeTurns_run fits .start turns

theorem queuedJob_created {budgets : List UUID} (distinct : (budgets.map scope).Nodup) :
    (queuedJob budgets).Created :=
  { queued := rfl
    reserved := ⟨_, rfl, rfl, List.mem_cons_self, distinct⟩
    untouched := rfl }

/-! A job that is canceled, queued again and canceled, one request after the other -/

def cancelTwiceWithRetry : Fin 3 → MediaRequest
  | 0 | 2 => .cancel owner 7 none
  | 1 => .retry owner 7 none

def oneAfterTheOther : List (MediaTaken (Fin 3)) × MediaConfig (Fin 3) :=
  studioTurns noneLost (queuedJob [1, 2]) cancelTwiceWithRetry
    [0, 0, 0, 0, 0, 1, 1, 1, 1, 1, 1, 1, 2, 2, 2, 2]

theorem retried_job_is_closed_once :
    oneAfterTheOther.2.shared.closedScopes.Nodup ∧
      oneAfterTheOther.2.shared.closedScopes.count ("second", scope 3) = 1 := by
  have sparing : ∀ i, (cancelTwiceWithRetry i).Spares := by
    intro i
    match i with
    | 0 | 1 | 2 => exact trivial
  obtain ⟨once, each, -, -⟩ := scopes_closed_once plainLibrary (queuedJob_created (by decide))
    sparing (studioTurns_run noneLost (queuedJob [1, 2]) cancelTwiceWithRetry
      [0, 0, 0, 0, 0, 1, 1, 1, 1, 1, 1, 1, 2, 2, 2, 2])
    (by decide +kernel) (by decide +kernel)
  have closed := each (by decide +kernel) (by decide +kernel) (scope 3) (by decide +kernel)
  have own : oneAfterTheOther.2.shared.job.reservationId = "second" := by decide +kernel
  exact ⟨once, own ▸ closed⟩

/-! An update of a job with two budgets -/

def failure : Fin 1 → MediaRequest := fun _ => .update owner 7 { status := .failed } none

def failedAlone : List (MediaTaken (Fin 1)) × MediaConfig (Fin 1) :=
  studioTurns noneLost (queuedJob [1, 2]) failure [0, 0, 0, 0, 0]

/-! A cancel and a callback that have both read the running job -/

def cancelAndCallback : Fin 3 → MediaRequest
  | 0 => .update owner 7 { status := .running } none
  | 1 => .cancel owner 7 none
  | 2 => .callback { jobId := some 7, status := .succeeded } none

def bothRead : List (MediaTaken (Fin 3)) × MediaConfig (Fin 3) :=
  studioTurns noneLost (queuedJob [1]) cancelAndCallback [0, 0, 0, 1, 2, 1, 1, 1, 2, 2, 2, 2, 2, 2]

/-! Two cancels, the first of which loses its first row -/

def canceledTwice : Fin 2 → MediaRequest := fun _ => .cancel owner 7 none

def firstRowLost : List (MediaTaken (Fin 2)) × MediaConfig (Fin 2) :=
  studioTurns (fun s writes => writes.job.isSome && s.ledger.isEmpty) (queuedJob [1, 2])
    canceledTwice [0, 0, 0, 0, 1, 1, 1, 1, 1]

theorem reservation_is_closed_twice :
    ((queuedJob [1, 2]).Created ∧ (∀ i, (failure i).Spares) ∧
      Interleaved mediaEnvironment (studioStart (queuedJob [1, 2]) failure)
        failedAlone.1 failedAlone.2 ∧
      failedAlone.2.shared.closedScopes = [("first", scope 1), ("first", scope 2)]) ∧
    ((queuedJob [1]).Created ∧ (∀ i, (cancelAndCallback i).Spares) ∧
      Interleaved mediaEnvironment (studioStart (queuedJob [1]) cancelAndCallback)
        bothRead.1 bothRead.2 ∧
      bothRead.2.shared.closedScopes = [("first", scope 1), ("first", scope 1)] ∧
      ∃ step ∈ bothRead.1, (cancelAndCallback step.thread).isRetry = false ∧
        step.before.shared.job.status = .canceled ∧
        (step.before.shared.next step.event).job.status = .succeeded) ∧
    ((∀ i, (canceledTwice i).Spares) ∧
      Interleaved mediaEnvironment (studioStart (queuedJob [1, 2]) canceledTwice)
        firstRowLost.1 firstRowLost.2 ∧
      firstRowLost.2.shared.closedScopes =
        [("first", scope 2), ("first", scope 1), ("first", scope 2)]) := by
  have sparing : ∀ i, (cancelAndCallback i).Spares := by
    intro i
    match i with
    | 0 => exact rfl
    | 1 | 2 => exact trivial
  refine ⟨⟨queuedJob_created (by decide), fun _ => rfl, studioTurns_run .., by decide +kernel⟩,
    ⟨queuedJob_created (by decide), sparing, studioTurns_run .., by decide +kernel,
      by decide +kernel⟩, fun _ => trivial, studioTurns_run .., by decide +kernel⟩

end MediaStudio

end AgentHive
