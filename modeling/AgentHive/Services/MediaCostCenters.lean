import AgentHive.Llm.CostCenter
import AgentHive.Services.ReservationKept

/-!
To whom the rows for a media job are charged: the reserve rows, the rows that settle or
release the reservation, and the usage row.
-/

namespace AgentHive

open Process (Config Environment Interleaved Maintained Taken)
open MediaBudget MediaGeneration CostCenter

inductive MediaChargeKind
  | reserve
  | ledger (event : LedgerEvent)
  | usage
deriving DecidableEq

structure MediaCharge where
  kind : MediaChargeKind
  context : LLMRequestContext
  costCenterId : Option UUID
deriving DecidableEq

/-- The storage of a job, the rows through which cost centers are found, if they can be read,
and the charges. -/
structure MediaBooks where
  storage : MediaStorage
  bindings : Option (List BoundDepartment) := some []
  charges : List MediaCharge := []

namespace MediaBooks

def ledgerCharge (books : MediaBooks) (entry : LedgerEntry) : MediaCharge :=
  { kind := .ledger entry.eventType
    context := entry.context
    costCenterId := (resolveCostCenter books.bindings entry.context).1 }

def reserveCharge (books : MediaBooks) (context : LLMRequestContext) : MediaCharge :=
  { kind := .reserve
    context := context
    costCenterId := (resolveCostCenter books.bindings context).1 }

def usageCharge (row : MediaUsageRow) : MediaCharge :=
  { kind := .usage
    context := row.context
    costCenterId := row.costCenterId }

def newCharges (books : MediaBooks) : MediaEvent → List MediaCharge
  | ⟨.commit writes, .ok ()⟩ =>
    writes.ledger.toList.map books.ledgerCharge ++ writes.usage.toList.map usageCharge
  | ⟨.reserveUsage _ context, .ok reservation⟩ =>
    reservation.budgetScopes.map fun _ => books.reserveCharge context
  | _ => []

def next (books : MediaBooks) (e : MediaEvent) : MediaBooks :=
  { books with
    storage := books.storage.next e
    charges := books.charges ++ books.newCharges e }

def LooksUp (books : MediaBooks) : MediaEvent → Prop
  | ⟨.budget (.resolveCostCenter context), .ok costCenterId⟩ =>
    costCenterId = (resolveCostCenter books.bindings context).1
  | _ => True

end MediaBooks

def booksEnvironment : Environment MediaEffect MediaAnswer MediaBooks where
  answers books effect answer books' :=
    books.storage.Answers effect answer ∧ books.LooksUp ⟨effect, answer⟩ ∧
      books' = books.next ⟨effect, answer⟩
  drifts books books' := books'.storage = books.storage ∧ books'.charges = books.charges

def WritesCharge : MediaEvent → Prop
  | ⟨.commit writes, _⟩ => writes.ledger.isSome = true ∨ writes.usage.isSome = true
  | ⟨.reserveUsage _ _, _⟩ => True
  | _ => False

def UsesBindings : MediaEvent → Prop
  | ⟨.commit writes, _⟩ => writes.ledger.isSome = true
  | ⟨.reserveUsage _ _, _⟩ | ⟨.budget (.resolveCostCenter _), _⟩ => True
  | _ => False

def chargeContext (job : MediaGenerationJob) (userId : UUID) : LLMRequestContext :=
  { tenantId := job.tenantId
    userId := some userId
    departmentId := job.departmentId
    requestId := "" }

def MediaBooks.costCenterOf (books : MediaBooks) (job : MediaGenerationJob) (userId : UUID) :
    Option UUID :=
  (resolveCostCenter books.bindings (chargeContext job userId)).1

structure MediaCharge.ChargedTo (charge : MediaCharge) (job : MediaGenerationJob) (userId : UUID)
    (costCenterId : Option UUID) : Prop where
  user : charge.context.userId = some userId
  department : charge.context.departmentId = job.departmentId
  costCenter : charge.costCenterId = costCenterId

variable {job origin : MediaGenerationJob} {userId : UUID} {costCenterId : Option UUID}
  {books : MediaBooks}

theorem ActsFor.costCenterOf {context : LLMRequestContext} (acts : ActsFor job userId context) :
    (resolveCostCenter books.bindings context).1 = books.costCenterOf job userId :=
  congrArg Prod.fst
    (resolveCostCenter_congr acts.tenant acts.user acts.department acts.costCenter)

theorem ActsFor.chargedTo {context : LLMRequestContext} (acts : ActsFor job userId context)
    (kind : MediaChargeKind) :
    MediaCharge.ChargedTo ⟨kind, context, (resolveCostCenter books.bindings context).1⟩ job userId
      (books.costCenterOf job userId) where
  user := acts.user
  department := acts.department
  costCenter := acts.costCenterOf

def JobFacts.charging (origin : MediaGenerationJob) (userId : UUID) (costCenterId : Option UUID) :
    JobFacts where
  key := "budget_reservation"
  holds _ := True
  foreign := reservation_foreign
  resolves context found := ActsFor origin userId context → found = costCenterId

def BindsAlike (job : MediaGenerationJob) (userId : UUID) (costCenterId : Option UUID)
    (books : MediaBooks) (e : MediaEvent) : Prop :=
  UsesBindings e → books.costCenterOf job userId = costCenterId

structure ChargedAlike (origin : MediaGenerationJob) (userId : UUID) (costCenterId : Option UUID)
    (books : MediaBooks) : Prop where
  job : Belongs (.charging origin userId costCenterId) origin books.storage.job
  charges : ∀ charge ∈ books.charges, charge.ChargedTo origin userId costCenterId

section Steps

variable {e : MediaEffect} {r : MediaAnswer e}

theorem mediaGiven_of_binds (looked : books.LooksUp ⟨e, r⟩)
    (binds : BindsAlike origin userId costCenterId books ⟨e, r⟩) :
    MediaGiven (.charging origin userId costCenterId) ⟨e, r⟩ := by
  cases e with
  | submit job | poll job =>
    cases r with
    | ok result => exact fun _ _ => trivial
    | error failure =>
      cases failure with
      | provider className message metadata => exact fun _ _ => trivial
      | exception className | cancelled => exact trivial
  | budget effect =>
    cases effect with
    | resolveCostCenter context =>
      cases r with
      | error f => exact trivial
      | ok found =>
        intro acts
        have answered : found = (resolveCostCenter books.bindings context).1 := looked
        rw [answered, acts.costCenterOf]
        exact binds trivial
    | _ => exact trivial
  | _ => exact trivial

theorem newCharges_alike {actor : UUID}
    (promised : MediaPromise (.charging origin userId costCenterId) origin actor e)
    (own : WritesCharge ⟨e, r⟩ → actor = userId)
    (binds : BindsAlike origin userId costCenterId books ⟨e, r⟩) :
    ∀ charge ∈ books.newCharges ⟨e, r⟩, charge.ChargedTo origin userId costCenterId := by
  cases e with
  | commit writes =>
    cases r with
    | error f => exact fun charge mem => by cases mem
    | ok done =>
      obtain ⟨-, charged, used⟩ := promised
      intro charge mem
      cases List.mem_append.mp mem with
      | inl ledger =>
        obtain ⟨entry, added, rfl⟩ := List.mem_map.mp ledger
        have there : entry ∈ writes.ledger := Option.mem_toList.mp added
        have isSome : writes.ledger.isSome = true := Option.isSome_of_mem there
        have acts := (charged entry there).context
        rw [own (.inl isSome)] at acts
        rw [← binds isSome]
        exact acts.chargedTo _
      | inr usage =>
        obtain ⟨row, added, rfl⟩ := List.mem_map.mp usage
        have there : row ∈ writes.usage := Option.mem_toList.mp added
        have isSome : writes.usage.isSome = true := Option.isSome_of_mem there
        have row := used row there
        have acts := row.context
        rw [own (.inr isSome)] at acts
        exact ⟨acts.user, acts.department, row.costCenter acts⟩
  | reserveUsage usage context =>
    cases r with
    | error f => exact fun charge mem => by cases mem
    | ok reservation =>
      intro charge mem
      obtain ⟨scope, -, rfl⟩ := List.mem_map.mp mem
      have acts : ActsFor origin actor context := promised
      rw [own trivial] at acts
      rw [← binds trivial]
      exact acts.chargedTo _
  | _ => exact fun charge mem => by cases mem

end Steps

variable {ι : Type} [DecidableEq ι] {requests : ι → MediaRequest}

/-- Every charge goes to the user, the department and the cost center that the reservation
was charged to, where only the user who reserved writes charges and the cost center of that
user in the department is the same whenever it is looked up. -/
theorem charged_to_who_reserved (lib : MediaLibrary)
    {c : Config ι MediaEffect MediaAnswer MediaRequest.Result MediaBooks}
    {steps : List (Taken ι MediaEffect MediaAnswer MediaRequest.Result MediaBooks)}
    (reserved : ∀ charge ∈ books.charges, charge.ChargedTo books.storage.job userId costCenterId)
    (run : Interleaved booksEnvironment (.start (fun i => (requests i).program lib) books) steps c)
    (own : ∀ step ∈ steps, WritesCharge step.event →
      (requests step.thread).actor books.storage.job = userId)
    (bound : ∀ step ∈ steps, UsesBindings step.event →
      step.before.shared.costCenterOf books.storage.job userId = costCenterId) :
    ∀ charge ∈ c.shared.charges, charge.ChargedTo books.storage.job userId costCenterId := by
  generalize isOrigin : books.storage.job = origin at *
  have maintained : Maintained (booksEnvironment.restrict (BindsAlike origin userId costCenterId))
      (Config.start (fun i => (requests i).program lib) books)
      (fun step => WritesCharge step.event → (requests step.thread).actor origin = userId)
      (MediaTold (.charging origin userId costCenterId) origin)
      (fun i => MediaPromise (.charging origin userId costCenterId) origin
        ((requests i).actor origin))
      (fun _ _ => True) (ChargedAlike origin userId costCenterId) :=
    { admissible := by
        intro s e r s' held answered
        obtain ⟨binds, answers, looked, -⟩ := answered
        exact mediaTold_of_answers held.job answers (mediaGiven_of_binds looked binds)
      promised := by
        intro i
        refine MediaRequest.program_charges lib ?_ fun _ _ _ => trivial
        cases requests i with
        | update principal jobId payload requestId => exact fun _ _ => trivial
        | _ => exact trivial
      keeps := by
        intro step s' acts promised answered held
        obtain ⟨binds, -, -, rfl⟩ := answered
        refine ⟨held.job.next promised, ?_⟩
        exact List.forall_mem_append.mpr ⟨held.charges, newCharges_alike promised acts binds⟩
      drifts := by
        intro s s' moved held
        obtain ⟨same, alike⟩ := moved
        exact ⟨same ▸ held.job, alike ▸ held.charges⟩
      start := by
        refine ⟨?_, reserved⟩
        rw [← isOrigin]
        exact ⟨rfl, rfl, rfl, trivial⟩ }
  exact (maintained.within (run.restrict bound) own).1.charges

def createdBooks (lib : MediaLibrary) (bindings : List BoundDepartment) (creator : Principal)
    (job : MediaGenerationJob) (requestId : Option String) (usage : LLMUsageMetrics)
    (reservation : BudgetReservation) : MediaBooks :=
  MediaBooks.next { storage := { job := job }, bindings := some bindings }
    ⟨.reserveUsage usage (jobContext lib creator { job with requestId := none } requestId),
      .ok reservation⟩

theorem createdBooks_charges (lib : MediaLibrary) (bindings : List BoundDepartment)
    {creator : Principal} (job : MediaGenerationJob) (requestId : Option String)
    (usage : LLMUsageMetrics) (reservation : BudgetReservation)
    (own : creator.tenantId = job.tenantId) :
    let books := createdBooks lib bindings creator job requestId usage reservation
    ∀ charge ∈ books.charges,
      charge.ChargedTo job creator.userId (books.costCenterOf job creator.userId) := by
  intro books charge mem
  obtain ⟨scope, -, rfl⟩ := List.mem_map.mp mem
  have acts : ActsFor job creator.userId
      (jobContext lib creator { job with requestId := none } requestId) :=
    { tenant := own
      user := rfl
      department := rfl
      costCenter := rfl }
  exact acts.chargedTo .reserve

namespace MediaStudio

def designer : Principal := { userId := 11, tenantId := 1, permissions := [] }

def administrator : Principal := { userId := 12, tenantId := 1, permissions := [.tenantAdmin] }

def departmentJob : MediaGenerationJob :=
  { (queuedJob [1]).job with
    userId := some 11
    departmentId := some 5 }

def studioBindings : List BoundDepartment :=
  [{ userId := 11
     departmentId := 5
     departmentTenantId := 1
     costCenterId := 21
     costCenterTenantId := 1
     isActive := true
     isPrimary := true
     createdAt := 0 },
    { userId := 12
      departmentId := 6
      departmentTenantId := 1
      costCenterId := 22
      costCenterTenantId := 1
      isActive := true
      isPrimary := true
      createdAt := 0 }]

def departmentBooks : MediaBooks :=
  createdBooks plainLibrary studioBindings designer departmentJob none {}
    { reservationId := "first", approved := true, budgetScopes := [scope 1] }

def booksAnswer (books : MediaBooks) : (effect : MediaEffect) → MediaAnswer effect
  | .budget (.resolveCostCenter context) => .ok (resolveCostCenter books.bindings context).1
  | effect => answer noneLost books.storage effect

theorem booksAnswer_fits (books : MediaBooks) (effect : MediaEffect) :
    books.storage.Answers effect (booksAnswer books effect) ∧
      books.LooksUp ⟨effect, booksAnswer books effect⟩ := by
  cases effect with
  | budget effect =>
    cases effect with
    | resolveCostCenter context => exact ⟨trivial, rfl⟩
    | _ => exact ⟨trivial, trivial⟩
  | _ => exact ⟨answer_fits noneLost books.storage _, trivial⟩

def booksOracle (books : MediaBooks) (effect : MediaEffect) : MediaAnswer effect × MediaBooks :=
  (booksAnswer books effect, books.next ⟨effect, booksAnswer books effect⟩)

variable {n : Nat}

def booksStart (requests : Fin n → MediaRequest) :
    Config (Fin n) MediaEffect MediaAnswer MediaRequest.Result MediaBooks :=
  .start (fun i => (requests i).program plainLibrary) departmentBooks

def booksTurns (requests : Fin n → MediaRequest) (turns : List (Fin n)) :
    List (Taken (Fin n) MediaEffect MediaAnswer MediaRequest.Result MediaBooks) ×
      Config (Fin n) MediaEffect MediaAnswer MediaRequest.Result MediaBooks :=
  Process.takeTurns booksOracle turns (booksStart requests)

theorem booksTurns_run (requests : Fin n → MediaRequest) (turns : List (Fin n)) :
    Interleaved booksEnvironment (booksStart requests) (booksTurns requests turns).1
      (booksTurns requests turns).2 := by
  have fits : ∀ books effect, booksEnvironment.answers books effect (booksOracle books effect).1
      (booksOracle books effect).2 := by
    intro books effect
    obtain ⟨answers, looked⟩ := booksAnswer_fits books effect
    exact ⟨answers, looked, rfl⟩
  exact Process.takeTurns_run fits .start turns

def runsAndSucceeds : Fin 2 → MediaRequest
  | 0 => .update designer 7 { status := .running } none
  | 1 => .update designer 7 { status := .succeeded } none

def succeededJob :
    List (Taken (Fin 2) MediaEffect MediaAnswer MediaRequest.Result MediaBooks) ×
      Config (Fin 2) MediaEffect MediaAnswer MediaRequest.Result MediaBooks :=
  booksTurns runsAndSucceeds (Process.turnsOf [0, 0, 0, 0, 1, 1, 1, 1, 1, 1, 1])

theorem own_job_charged_alike :
    succeededJob.2.shared.charges.map (·.kind) = [.reserve, .ledger .settle, .usage] ∧
      ∀ charge ∈ succeededJob.2.shared.charges,
        charge.ChargedTo departmentJob designer.userId (some 21) := by
  have own : ∀ step ∈ succeededJob.1, WritesCharge step.event →
      (runsAndSucceeds step.thread).actor departmentJob = designer.userId := by
    intro step _ _
    match step.thread with
    | 0 | 1 => exact rfl
  have bound : ∀ step ∈ succeededJob.1,
      step.before.shared.costCenterOf departmentJob designer.userId = some 21 := by
    decide +kernel
  refine ⟨by decide +kernel, ?_⟩
  exact charged_to_who_reserved plainLibrary
    (createdBooks_charges plainLibrary studioBindings departmentJob none {} _ rfl)
    (booksTurns_run runsAndSucceeds _) own fun step mem _ => bound step mem

def canceledByAdministrator : Fin 1 → MediaRequest := fun _ => .cancel administrator 7 none

theorem release_is_charged_to_administrator :
    ¬ ∀ (requests : Fin 1 → MediaRequest)
        (steps : List (Taken (Fin 1) MediaEffect MediaAnswer MediaRequest.Result MediaBooks))
        (c : Config (Fin 1) MediaEffect MediaAnswer MediaRequest.Result MediaBooks),
      Interleaved booksEnvironment (booksStart requests) steps c →
      ∀ charge ∈ c.shared.charges,
        charge.ChargedTo departmentJob designer.userId (some 21) := by
  intro alike
  have charged := alike canceledByAdministrator _ _
    (booksTurns_run canceledByAdministrator [0, 0, 0, 0])
  have released : (booksTurns canceledByAdministrator [0, 0, 0, 0]).2.shared.charges.map
      (fun charge => (charge.kind, charge.context.userId, charge.costCenterId)) =
        [(.reserve, some 11, some 21), (.ledger .release, some 12, some 22)] := by
    decide +kernel
  have mem := List.mem_map.mp (released ▸ List.mem_cons_of_mem _ List.mem_cons_self)
  obtain ⟨charge, there, same⟩ := mem
  have elsewhere : charge.costCenterId = some 22 := congrArg (fun row => row.2.2) same
  have costCenter := (charged charge there).costCenter
  rw [elsewhere] at costCenter
  cases costCenter

end MediaStudio
end AgentHive
