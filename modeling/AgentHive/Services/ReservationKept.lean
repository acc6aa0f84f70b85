import AgentHive.Services.MediaOwnership

/-!
The reservation of a media job under every sequence of requests that does not retry it.
-/

namespace AgentHive

open Process (Config Interleaved Maintained)
open MediaBudget MediaGeneration

/-- There is no entry `budget_reservation`, or it is this reservation. -/
def Leaves (raw : ReservationMetadata) (metadata : MediaMetadata) : Prop :=
  metadata.get "budget_reservation" = none ∨
    metadata.get "budget_reservation" = some (.reservation raw)

instance decidableLeaves (raw : ReservationMetadata) (metadata : MediaMetadata) :
    Decidable (Leaves raw metadata) := instDecidableOr

variable {raw : ReservationMetadata}

theorem rawReservation_eq_some {job : MediaGenerationJob} :
    job.rawReservation = some raw ↔
      job.metadata.get "budget_reservation" = some (.reservation raw) := by
  unfold MediaGenerationJob.rawReservation
  split
  · rename_i found has
    rw [has, Option.some.injEq, Option.some.injEq, MediaValue.reservation.injEq]
  · rename_i other
    constructor
    · intro no
      cases no
    · intro has
      exact absurd has (other raw)

theorem reservation_foreign : "budget_reservation" ∉ ownKeys := by decide

def JobFacts.reservation (raw : ReservationMetadata) : JobFacts where
  key := "budget_reservation"
  holds value := value = some (.reservation raw)
  foreign := reservation_foreign
  resolves _ _ := True

theorem spared_of_leaves {metadata : MediaMetadata} (leaves : Leaves raw metadata) :
    Spared (.reservation raw) metadata := by
  intro value held
  cases leaves with
  | inl none => exact (congrArg (Option.or · value) none).trans held
  | inr same => exact congrArg (Option.or · value) same

def MediaRequest.Leaves (raw : ReservationMetadata) : MediaRequest → Prop
  | update _ _ payload _ => AgentHive.Leaves raw payload.metadata
  | _ => True

def ProviderLeaves (raw : ReservationMetadata) : MediaEvent → Prop
  | ⟨.submit _, .ok result⟩ | ⟨.poll _, .ok result⟩ => Leaves raw result.metadata
  | ⟨.submit _, .error (.provider _ _ metadata)⟩
  | ⟨.poll _, .error (.provider _ _ metadata)⟩ => Leaves raw metadata
  | _ => True

instance decidableProviderLeaves : ∀ e, Decidable (ProviderLeaves raw e)
  | ⟨.submit _, .ok result⟩ | ⟨.poll _, .ok result⟩ => decidableLeaves raw result.metadata
  | ⟨.submit _, .error (.provider _ _ metadata)⟩
  | ⟨.poll _, .error (.provider _ _ metadata)⟩ => decidableLeaves raw metadata
  | ⟨.submit _, .error (.exception _)⟩ | ⟨.submit _, .error .cancelled⟩
  | ⟨.poll _, .error (.exception _)⟩ | ⟨.poll _, .error .cancelled⟩
  | ⟨.getJob _, _⟩ | ⟨.findJobs _ _, _⟩ | ⟨.refreshJob _, _⟩ | ⟨.principalDepartmentIds _, _⟩
  | ⟨.ensureModuleRunnable _, _⟩ | ⟨.ensureProviderConfigured _, _⟩
  | ⟨.enforceModelPolicy _, _⟩ | ⟨.resolveAdapter _, _⟩ | ⟨.archiveOutputs _ _, _⟩
  | ⟨.reserveUsage _ _, _⟩ | ⟨.budget _, _⟩ | ⟨.commit _, _⟩ => .isTrue trivial

def MediaGiven (k : JobFacts) : MediaEvent → Prop
  | ⟨.submit _, .ok result⟩ | ⟨.poll _, .ok result⟩ => Spared k result.metadata
  | ⟨.submit _, .error (.provider _ _ metadata)⟩
  | ⟨.poll _, .error (.provider _ _ metadata)⟩ => Spared k metadata
  | ⟨.budget (.resolveCostCenter context), .ok costCenterId⟩ => k.resolves context costCenterId
  | _ => True

theorem mediaGiven_of_leaves {e : MediaEffect} {r : MediaAnswer e}
    (leaves : ProviderLeaves raw ⟨e, r⟩) : MediaGiven (.reservation raw) ⟨e, r⟩ := by
  cases e with
  | submit job | poll job =>
    cases r with
    | ok result => exact spared_of_leaves leaves
    | error failure =>
      cases failure with
      | provider className message metadata => exact spared_of_leaves leaves
      | exception className | cancelled => exact trivial
  | budget effect =>
    cases effect with
    | resolveCostCenter context => cases r <;> exact trivial
    | _ => exact trivial
  | _ => exact trivial

section Rows

variable {k : JobFacts} {origin : MediaGenerationJob}
  {s : MediaStorage} {e : MediaEffect} {r : MediaAnswer e}

theorem mediaTold_of_answers (belongs : Belongs k origin s.job) (answers : s.Answers e r)
    (provided : MediaGiven k ⟨e, r⟩) : MediaTold k origin ⟨e, r⟩ := by
  cases e with
  | getJob jobId =>
    cases r with
    | error f => exact trivial
    | ok found =>
      have stored : found = if s.job.id = jobId then some s.job else none := answers
      intro job mem
      rw [stored] at mem
      split at mem
      · cases Option.mem_some.mp mem
        exact belongs
      · cases mem
  | findJobs externalJobId providerKey =>
    cases r with
    | error f => exact trivial
    | ok found =>
      intro job eq
      rw [(answers : ∀ job, found = [job] → job = s.job) job eq]
      exact belongs
  | refreshJob jobId =>
    cases r with
    | error f => exact trivial
    | ok job =>
      have stored : job = s.job := answers
      rw [stored]
      exact belongs
  | submit job | poll job =>
    cases r with
    | ok result => exact provided
    | error failure =>
      cases failure with
      | provider className message metadata => exact provided
      | exception className | cancelled => exact trivial
  | budget effect =>
    cases effect with
    | resolveCostCenter context =>
      cases r with
      | ok costCenterId => exact provided
      | error f => exact trivial
    | _ => exact trivial
  | _ => exact trivial

theorem Belongs.overwrite {loaded : LoadedJob} (belongs : Belongs k origin s.job)
    (versions : Belongs k origin loaded.stored ∧ Belongs k origin loaded.job) :
    Belongs k origin (s.job.overwrite loaded) where
  tenant := belongs.tenant
  user := belongs.user
  department := belongs.department
  kept := by
    change k.holds ((MediaGenerationJob.column (·.metadata) s.job loaded).get k.key)
    unfold MediaGenerationJob.column
    split
    · exact belongs.kept
    · exact versions.2.kept

structure Booked (k : JobFacts) (origin : MediaGenerationJob)
    (acting : UUID → Prop) (s : MediaStorage) : Prop where
  job : Belongs k origin s.job
  ledger : ∀ entry ∈ s.ledger, ∃ userId, acting userId ∧ ChargedTo k origin userId entry
  usage : ∀ row ∈ s.usage, ∃ userId, acting userId ∧ UsedBy k origin userId row

theorem Belongs.next (belongs : Belongs k origin s.job) {userId : UUID}
    (promised : MediaPromise k origin userId e) : Belongs k origin (s.next ⟨e, r⟩).job := by
  cases e with
  | commit writes =>
    cases r with
    | error f => exact belongs
    | ok done =>
      cases written : writes.job with
      | none => simpa [MediaStorage.next, written] using belongs
      | some loaded =>
        have kept := belongs.overwrite (promised.1 loaded written)
        simpa [MediaStorage.next, written] using kept
  | reserveUsage usage context => cases r <;> exact belongs
  | _ => exact belongs

theorem Booked.next {acting : UUID → Prop} (booked : Booked k origin acting s) {userId : UUID}
    (acts : acting userId) (promised : MediaPromise k origin userId e) :
    Booked k origin acting (s.next ⟨e, r⟩) := by
  have job := booked.job.next (r := r) promised
  cases e with
  | commit writes =>
    cases r with
    | error f => exact booked
    | ok done =>
      obtain ⟨-, charged, used⟩ := promised
      refine ⟨job, ?_, ?_⟩
      · intro entry mem
        cases List.mem_append.mp mem with
        | inl old => exact booked.ledger entry old
        | inr new => exact ⟨userId, acts, charged entry (Option.mem_toList.mp new)⟩
      · intro row mem
        cases List.mem_append.mp mem with
        | inl old => exact booked.usage row old
        | inr new => exact ⟨userId, acts, used row (Option.mem_toList.mp new)⟩
  | reserveUsage usage context =>
    cases r with
    | error f => exact booked
    | ok reservation => exact ⟨job, booked.ledger, booked.usage⟩
  | _ => exact booked

end Rows

variable {ι : Type} [DecidableEq ι] {requests : ι → MediaRequest} {storage : MediaStorage}
  {c : MediaConfig ι} {steps : List (MediaTaken ι)}

theorem booked_along (lib : MediaLibrary) {k : JobFacts}
    {origin : MediaGenerationJob} {acting : UUID → Prop} (booked : Booked k origin acting storage)
    (spared : ∀ i, (requests i).Spared k)
    (retries : ∀ i, (requests i).isRetry = true → ∀ raw,
      k.key = "budget_reservation" → k.holds (some (.reservation raw)))
    (acts : ∀ i, acting ((requests i).actor origin))
    (run : Interleaved mediaEnvironment (.start (fun i => (requests i).program lib) storage) steps c)
    (provided : ∀ step ∈ steps, MediaGiven k step.event) : Booked k origin acting c.shared := by
  have maintained : Maintained (mediaEnvironment.restrict fun _ => MediaGiven k)
      (Config.start (fun i => (requests i).program lib) storage) (fun _ => True)
      (MediaTold k origin) (fun i => MediaPromise k origin ((requests i).actor origin))
      (fun _ _ => True) (Booked k origin acting) :=
    { admissible := fun s e r s' held answered =>
        mediaTold_of_answers held.job answered.2.1 answered.1
      promised := fun i => MediaRequest.program_charges lib (spared i) (retries i)
      keeps := by
        intro step s' _ promised answered held
        rw [answered.2.2]
        exact held.next (acts step.thread) promised
      drifts := by
        intro s s' moved held
        rw [moved]
        exact held
      start := booked }
  exact (maintained.within (run.restrict provided) fun _ _ => trivial).1

structure Reserved (raw : ReservationMetadata) (storage : MediaStorage) : Prop where
  reserved : storage.job.rawReservation = some raw
  unsettled : storage.ledger = []
  unused : storage.usage = []

theorem Reserved.booked (reserved : Reserved raw storage) :
    Booked (.reservation raw) storage.job (fun _ => True) storage where
  job := ⟨rfl, rfl, rfl, rawReservation_eq_some.mp reserved.reserved⟩
  ledger := by
    intro entry mem
    rw [reserved.unsettled] at mem
    cases mem
  usage := by
    intro row mem
    rw [reserved.unused] at mem
    cases mem

/-- The reservation is the one the job was created with, and what is settled, released and
recorded as usage is of this reservation. -/
theorem reservation_kept (lib : MediaLibrary) (reserved : Reserved raw storage)
    (unretried : ∀ i, (requests i).isRetry = false)
    (run : Interleaved mediaEnvironment (.start (fun i => (requests i).program lib) storage) steps c)
    (leaves : ∀ i, (requests i).Leaves raw)
    (provided : ∀ step ∈ steps, ProviderLeaves raw step.event) :
    c.shared.job.metadata.get "budget_reservation" = some (.reservation raw) ∧
      (∀ entry ∈ c.shared.ledger, entry.reservationId = raw.reservationId ∧
        entry.scope ∈ raw.budgetScopes ∧ entry.estimated.costUsd = raw.estimatedCostUsd) ∧
      ∀ row ∈ c.shared.usage, mediaGenerationUsage raw.estimatedCostUsd = .ok row.usage := by
  have booked : Booked (.reservation raw) storage.job (fun _ => True) c.shared := by
    refine booked_along lib reserved.booked ?_ ?_ (fun _ => trivial) run ?_
    · intro i
      have kept := leaves i
      cases request : requests i with
      | update principal jobId payload requestId =>
        rw [request] at kept
        exact spared_of_leaves kept
      | _ => exact trivial
    · intro i retries
      rw [unretried i] at retries
      cases retries
    · intro step mem
      exact mediaGiven_of_leaves (provided step mem)
  refine ⟨booked.job.kept, ?_, ?_⟩
  · intro entry mem
    obtain ⟨userId, -, charged⟩ := booked.ledger entry mem
    obtain ⟨job, found, version, has, own⟩ := charged.reservation
    rw [rawReservation_eq_some.mpr version.kept] at has
    cases has
    exact own
  · intro row mem
    obtain ⟨userId, -, used⟩ := booked.usage row mem
    obtain ⟨job, found, version, has, priced⟩ := used.reservation
    rw [rawReservation_eq_some.mpr version.kept] at has
    cases has
    exact priced

def JobFacts.trivial : JobFacts where
  key := ""
  holds _ := True
  foreign := by decide
  resolves _ _ := True

theorem spared_trivial {metadata : MediaMetadata} : Spared .trivial metadata := fun _ _ => ⟨⟩

namespace MediaStudio

def created : ReservationMetadata where
  approved := true
  reservationId := "first"
  reason := "budget_approved"
  estimatedCostUsd := 0
  budgetScopes := [scope 1]

def forged : ReservationMetadata where
  approved := true
  reservationId := "forged"
  reason := "budget_approved"
  estimatedCostUsd := 0
  budgetScopes := [scope 2]

theorem queuedJob_reserved : Reserved created (queuedJob [1]) := ⟨rfl, rfl, rfl⟩

def updateAndCancel (metadata : MediaMetadata) : Fin 2 → MediaRequest
  | 0 => .update owner 7 { status := .running, metadata := metadata } none
  | 1 => .cancel owner 7 none

def oneThenTheOther (metadata : MediaMetadata) : List (MediaTaken (Fin 2)) × MediaConfig (Fin 2) :=
  studioTurns noneLost (queuedJob [1]) (updateAndCancel metadata)
    (Process.turnsOf [0, 0, 0, 1, 1, 1, 1])

theorem oneThenTheOther_run (metadata : MediaMetadata) :
    Interleaved mediaEnvironment (studioStart (queuedJob [1]) (updateAndCancel metadata))
      (oneThenTheOther metadata).1 (oneThenTheOther metadata).2 :=
  studioTurns_run noneLost (queuedJob [1]) (updateAndCancel metadata) _

def noted : MediaMetadata := .ofEntries [("note", .plain (.str "kept"))]

theorem noted_job_keeps_reservation :
    (oneThenTheOther noted).2.shared.job.metadata.get "budget_reservation" =
        some (.reservation created) ∧
      (∀ entry ∈ (oneThenTheOther noted).2.shared.ledger, entry.reservationId = "first") ∧
      (oneThenTheOther noted).2.shared.ledger.length = 1 := by
  have leaves : ∀ i, (updateAndCancel noted i).Leaves created := by
    intro i
    match i with
    | 0 => exact .inl rfl
    | 1 => exact trivial
  obtain ⟨kept, own, -⟩ := reservation_kept plainLibrary queuedJob_reserved (by decide)
    (oneThenTheOther_run noted) leaves (by decide +kernel)
  exact ⟨kept, fun entry mem => (own entry mem).1, by decide +kernel⟩

theorem forged_reservation_is_released :
    ¬ ∀ (requests : Fin 2 → MediaRequest) (steps : List (MediaTaken (Fin 2)))
        (c : MediaConfig (Fin 2)), (∀ i, (requests i).isRetry = false) →
      Interleaved mediaEnvironment (studioStart (queuedJob [1]) requests) steps c →
      c.shared.job.metadata.get "budget_reservation" = some (.reservation created) ∧
        ∀ entry ∈ c.shared.ledger, entry.reservationId = created.reservationId := by
  intro kept
  obtain ⟨-, own⟩ := kept _ _ _ (by decide)
    (oneThenTheOther_run (.ofEntries [("budget_reservation", .reservation forged)]))
  have released : (oneThenTheOther
      (.ofEntries [("budget_reservation", .reservation forged)])).2.shared.ledger.map
        (·.reservationId) = ["forged"] := by decide +kernel
  have mem : "forged" ∈ (oneThenTheOther
      (.ofEntries [("budget_reservation", .reservation forged)])).2.shared.ledger.map
        (·.reservationId) := by
    rw [released]
    exact List.mem_cons_self
  obtain ⟨entry, there, eq⟩ := List.mem_map.mp mem
  rw [own entry there] at eq
  revert eq
  decide

end MediaStudio
end AgentHive
