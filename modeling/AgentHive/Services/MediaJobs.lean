import AgentHive.Llm.Budget
import AgentHive.Services.OrgAdmin

/-!
Media generation jobs: the row of a job, the metadata that carries its budget
reservation, and the database the requests share.
-/

namespace AgentHive

open Process (Action)

inductive MediaGenerationJobStatus
  | queued
  | running
  | succeeded
  | failed
  | canceled
deriving DecidableEq

namespace MediaGenerationJobStatus

def value : MediaGenerationJobStatus → String
  | queued => "queued"
  | running => "running"
  | succeeded => "succeeded"
  | failed => "failed"
  | canceled => "canceled"

def isTerminal : MediaGenerationJobStatus → Bool
  | succeeded | failed | canceled => true
  | queued | running => false

def isRetryable : MediaGenerationJobStatus → Bool
  | failed | canceled => true
  | queued | running | succeeded => false

def isCancelable : MediaGenerationJobStatus → Bool
  | queued | running => true
  | succeeded | failed | canceled => false

def allowedTransitions : MediaGenerationJobStatus → List MediaGenerationJobStatus
  | queued => [running, failed, canceled]
  | running => [succeeded, failed, canceled]
  | succeeded | failed | canceled => []

variable {status : MediaGenerationJobStatus}

theorem isTerminal_of_isRetryable (retryable : status.isRetryable = true) :
    status.isTerminal = true := by
  cases status <;> first | rfl | cases retryable

theorem not_isTerminal_of_isCancelable (cancelable : status.isCancelable = true) :
    status.isTerminal = false := by
  cases status <;> first | rfl | cases cancelable

theorem not_isTerminal_of_mem {next : MediaGenerationJobStatus}
    (allowed : next ∈ status.allowedTransitions) : status.isTerminal = false := by
  cases status <;> first | rfl | cases allowed

end MediaGenerationJobStatus

structure ReservationMetadata where
  approved : Bool
  reservationId : String
  reason : String
  estimatedCostUsd : ℚ
  budgetScopes : List BudgetReservationScope
deriving DecidableEq

inductive MediaValue
  | plain (value : PyValue)
  | table (entries : Dict)
  | webhook (entries metadata : Dict)
  | reservation (metadata : ReservationMetadata)
deriving DecidableEq

deriving instance DecidableEq for OrderedDict

abbrev MediaMetadata := OrderedDict String MediaValue

structure MediaGenerationJob where
  id : UUID
  tenantId : UUID
  userId : Option UUID := none
  departmentId : Option UUID := none
  agentId : Option UUID := none
  conversationId : Option UUID := none
  requestId : Option String := none
  kind : String
  status : MediaGenerationJobStatus := .queued
  providerKey : String
  providerType : String
  modelKey : String
  routingKey : String
  outputs : List Dict := []
  externalJobId : Option String := none
  errorMessage : Option String := none
  metadata : MediaMetadata := .empty
deriving DecidableEq

structure LoadedJob where
  stored : MediaGenerationJob
  job : MediaGenerationJob
deriving DecidableEq

namespace MediaGenerationJob

def rawReservation (job : MediaGenerationJob) : Option ReservationMetadata :=
  match job.metadata.get "budget_reservation" with
  | some (.reservation raw) => some raw
  | _ => none

def column {α : Type} [DecidableEq α] (f : MediaGenerationJob → α) (row : MediaGenerationJob)
    (loaded : LoadedJob) : α :=
  if f loaded.job = f loaded.stored then f row else f loaded.job

def overwrite (row : MediaGenerationJob) (loaded : LoadedJob) : MediaGenerationJob :=
  { row with
    status := column (·.status) row loaded
    outputs := column (·.outputs) row loaded
    externalJobId := column (·.externalJobId) row loaded
    errorMessage := column (·.errorMessage) row loaded
    metadata := column (·.metadata) row loaded }

theorem rawReservation_congr {job other : MediaGenerationJob}
    (same : job.metadata.get "budget_reservation" = other.metadata.get "budget_reservation") :
    job.rawReservation = other.rawReservation := by
  simp only [rawReservation, same]

theorem overwrite_status {row : MediaGenerationJob} {loaded : LoadedJob}
    (fresh : loaded.stored.status = row.status) :
    (row.overwrite loaded).status = loaded.job.status := by
  simp only [overwrite, column]
  split
  · rename_i same
    exact fresh.symm.trans same.symm
  · rfl

theorem overwrite_rawReservation {row : MediaGenerationJob} {loaded : LoadedJob}
    (fresh : loaded.stored.rawReservation = row.rawReservation) :
    (row.overwrite loaded).rawReservation = loaded.job.rawReservation := by
  by_cases same : loaded.job.metadata = loaded.stored.metadata
  · have kept : (row.overwrite loaded).rawReservation = row.rawReservation := by
      simp [rawReservation, overwrite, column, same]
    rw [kept, ← fresh, rawReservation, rawReservation, same]
  · simp [rawReservation, overwrite, column, same]

end MediaGenerationJob

structure MediaUsageRow where
  context : LLMRequestContext
  costCenterId : Option UUID
  modelKey : String
  usage : LLMUsageMetrics
  status : LLMCallStatus
deriving DecidableEq

structure PendingWrites where
  job : Option LoadedJob := none
  ledger : Option LedgerEntry := none
  usage : Option MediaUsageRow := none
deriving DecidableEq

structure MediaProviderSubmitResult where
  status : MediaGenerationJobStatus
  outputs : List Dict := []
  externalJobId : Option String := none
  errorMessage : Option String := none
  metadata : MediaMetadata := .empty
deriving DecidableEq

inductive ProviderFailure
  | provider (className message : String) (metadata : MediaMetadata)
  | exception (className : String)
  | cancelled
deriving DecidableEq

inductive ArchiveFailure
  | archive (message : String)
  | raised (exc : Exc)
deriving DecidableEq

inductive MediaEffect
  | getJob (jobId : UUID)
  | findJobs (externalJobId : String) (providerKey : Option String)
  | refreshJob (jobId : UUID)
  | principalDepartmentIds (principal : Principal)
  | ensureModuleRunnable (kind : String)
  | ensureProviderConfigured (job : MediaGenerationJob)
  | enforceModelPolicy (job : MediaGenerationJob)
  | resolveAdapter (job : MediaGenerationJob)
  | submit (job : MediaGenerationJob)
  | poll (job : MediaGenerationJob)
  | archiveOutputs (job : MediaGenerationJob) (outputs : List Dict)
  | reserveUsage (usage : LLMUsageMetrics) (context : LLMRequestContext)
  | budget (effect : Effect)
  | commit (writes : PendingWrites)

abbrev MediaAnswer : MediaEffect → Type
  | .getJob _ => Except Fault (Option MediaGenerationJob)
  | .findJobs _ _ => Except Fault (List MediaGenerationJob)
  | .refreshJob _ => Except Fault MediaGenerationJob
  | .principalDepartmentIds _ => Except Fault (List UUID)
  | .ensureModuleRunnable _ => Except Exc Unit
  | .ensureProviderConfigured _ => Except Exc Unit
  | .enforceModelPolicy _ => Except Exc Unit
  | .resolveAdapter _ => Except Exc Unit
  | .submit _ => Except ProviderFailure MediaProviderSubmitResult
  | .poll _ => Except ProviderFailure MediaProviderSubmitResult
  | .archiveOutputs _ _ => Except ArchiveFailure (List Dict × Dict)
  | .reserveUsage _ _ => Except Fault BudgetReservation
  | .budget effect => Answer effect
  | .commit _ => Except Fault Unit

abbrev MediaEvent := Process.Event MediaEffect MediaAnswer

abbrev MediaStep (α : Type) : Type := Action MediaEffect MediaAnswer (Option LoadedJob) Exc α

/-- The row of a job with the rows its requests append, and the reservation ids
handed out so far. -/
structure MediaStorage where
  job : MediaGenerationJob
  ledger : List LedgerEntry := []
  usage : List MediaUsageRow := []
  issued : List String := []

namespace MediaStorage

def next (s : MediaStorage) : MediaEvent → MediaStorage
  | ⟨.commit writes, .ok ()⟩ =>
    { s with
      job := (writes.job.map s.job.overwrite).getD s.job
      ledger := s.ledger ++ writes.ledger.toList
      usage := s.usage ++ writes.usage.toList }
  | ⟨.reserveUsage _ _, .ok reservation⟩ =>
    { s with issued := reservation.reservationId :: s.issued }
  | _ => s

/-- The reads answer what is stored. A reservation has a new id, and names each
scope once. -/
def Answers (s : MediaStorage) : (effect : MediaEffect) → MediaAnswer effect → Prop
  | .getJob jobId, .ok found => found = if s.job.id = jobId then some s.job else none
  | .findJobs _ _, .ok found => ∀ job, found = [job] → job = s.job
  | .refreshJob _, .ok job => job = s.job
  | .reserveUsage _ _, .ok reservation =>
    reservation.reservationId ∉ s.issued ∧ reservation.budgetScopes.Nodup
  | _, _ => True

end MediaStorage

def mediaEnvironment : Process.Environment MediaEffect MediaAnswer MediaStorage where
  answers s effect answer s' := s.Answers effect answer ∧ s' = s.next ⟨effect, answer⟩
  drifts s s' := s' = s

end AgentHive
