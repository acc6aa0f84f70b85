import AgentHive.Process.Carry
import AgentHive.Process.Keeping
import AgentHive.Services.MediaJobs

/-!
The requests on a media generation job: status update, cancel, retry, execute,
poll and the callback of the provider, each as it runs over its session.
-/

namespace AgentHive

open Process (Action)

/-- The functions of the source that only compute: the text of an id, `int()` of
a text, and the check of the storage references of outputs. -/
structure MediaLibrary where
  hex : UUID → String
  parseInt : String → Option Int
  validateOutputs : MediaGenerationJob → List Dict → Except String (List Dict)

namespace MediaSession

def fail {α : Type} (statusCode : Nat) (detail : String) : MediaStep α :=
  Action.throw (.http statusCode (.text detail))

def refuse (condition : Prop) [Decidable condition] (statusCode : Nat) (detail : String) :
    MediaStep Unit :=
  if condition then fail statusCode detail else pure ()

def stored {α : Type} : Except Fault α → MediaStep α
  | .ok a => pure a
  | .error f => Action.throw f.toExc

def attached : MediaStep MediaGenerationJob := do
  let loaded ← Action.get
  match loaded with
  | some loaded => pure loaded.job
  | none => Action.throw (.other "MissingGreenlet" "greenlet_spawn has not been called")

def edit (f : MediaGenerationJob → MediaGenerationJob) : MediaStep Unit :=
  Action.modify fun loaded => loaded.map fun loaded => { loaded with job := f loaded.job }

def load (job : MediaGenerationJob) : MediaStep Unit := Action.modify fun _ => some ⟨job, job⟩

/-- `session.get`: a row the session has loaded is not read again. -/
def getJob (jobId : UUID) : MediaStep (Option MediaGenerationJob) := do
  let loaded ← Action.get
  match loaded.filter fun loaded => loaded.job.id == jobId with
  | some loaded => pure (some loaded.job)
  | none => do
    let answer : Except Fault (Option MediaGenerationJob) ←
      Action.perform (MediaEffect.getJob jobId)
    let found ← stored answer
    match found with
    | some job => do
      load job
      pure (some job)
    | none => pure none

def dirty (loaded : Option LoadedJob) : Option LoadedJob :=
  loaded.filter fun loaded => loaded.job != loaded.stored

def flush (ledger : Option LedgerEntry) (usage : Option MediaUsageRow) :
    MediaStep (Except Fault Unit) := do
  let loaded ← Action.get
  let answer : Except Fault Unit ←
    Action.perform (MediaEffect.commit ⟨dirty loaded, ledger, usage⟩)
  match answer with
  | .ok () => do
    Action.modify fun loaded => loaded.map fun loaded => ⟨loaded.job, loaded.job⟩
    pure answer
  | .error _ => pure answer

def commitUsage (usage : Option MediaUsageRow) : MediaStep Unit := do
  let answer ← flush none usage
  stored answer

def commit : MediaStep Unit := commitUsage none

def refresh (job : MediaGenerationJob) : MediaStep Unit := do
  let answer : Except Fault MediaGenerationJob ←
    Action.perform (MediaEffect.refreshJob job.id)
  let row ← stored answer
  load row

/-- The steps of the budget guard in the session of a request: its ledger rows
are committed with whatever else is pending. -/
def budget : (effect : Effect) → MediaStep (Answer effect)
  | .storeLedger entry => flush (some entry) none
  | .rollback => do
    let answer : Except Fault Unit ← Action.perform (MediaEffect.budget .rollback)
    Action.modify fun _ => none
    pure answer
  | effect => Action.perform (MediaEffect.budget effect)

def finish : MediaStep MediaGenerationJob := do
  let job ← attached
  commit
  refresh job
  attached

end MediaSession

open MediaSession

namespace MediaBudget

def mediaGenerationUsage (costUsd : ℚ) : Except Exc LLMUsageMetrics := do
  let cost ← ModelPricingCatalog.quantize costUsd
  LLMUsageMetrics.validate 0 0 0 cost

def reservationMetadata (reservation : BudgetReservation) (estimatedCostUsd : ℚ) :
    Except Exc ReservationMetadata := do
  let cost ← ModelPricingCatalog.quantize estimatedCostUsd
  pure
    { approved := reservation.approved
      reservationId := reservation.reservationId
      reason := reservation.reason
      estimatedCostUsd := cost
      budgetScopes := reservation.budgetScopes }

def jobReservation (job : MediaGenerationJob) : Except Exc (Option BudgetReservation) :=
  match job.rawReservation with
  | none => .ok none
  | some raw =>
    if h : 0 ≤ raw.estimatedCostUsd then
      .ok (some
        { approved := raw.approved
          reservationId := raw.reservationId
          reason := raw.reason
          estimatedTokens := 0
          estimatedCostUsd := raw.estimatedCostUsd
          estimatedCostUsd_nonneg := h
          budgetScopes := raw.budgetScopes })
    else .error (.other "ValidationError" "Input should be greater than or equal to 0")

def jobEstimatedCost (job : MediaGenerationJob) : ℚ :=
  (job.rawReservation.map (·.estimatedCostUsd)).getD 0

def jobContext (lib : MediaLibrary) (principal : Principal) (job : MediaGenerationJob)
    (requestId : Option String) : LLMRequestContext :=
  { tenantId := principal.tenantId
    userId := some principal.userId
    departmentId := job.departmentId
    agentId := job.agentId
    conversationId := job.conversationId
    requestId := (pyOr (pyOr (pyOr requestId job.requestId) (some (lib.hex job.id)))
      (some "media-generation")).getD ""
    source := "media_generation." ++ job.kind }

def recordMediaUsage (context : LLMRequestContext) (usage : LLMUsageMetrics) : MediaStep Unit := do
  let answer : Except Fault (Option UUID) ←
    Action.perform (MediaEffect.budget (.resolveCostCenter context))
  let costCenterId ← stored answer
  let job ← attached
  MediaSession.commitUsage (some ⟨context, costCenterId, job.modelKey, usage, .success⟩)

def settleMediaGenerationBudget (lib : MediaLibrary) (principal : Principal)
    (requestId : Option String) : MediaStep Unit := do
  let job ← attached
  let reservation ← Action.ofExcept (jobReservation job)
  match reservation with
  | none => pure ()
  | some reservation => do
    let usage ← Action.ofExcept (mediaGenerationUsage (jobEstimatedCost job))
    let context := jobContext lib principal job requestId
    Action.carry budget (BudgetGuard.settle {} reservation usage context)
    recordMediaUsage context usage

def releaseMediaGenerationBudget (lib : MediaLibrary) (principal : Principal)
    (requestId : Option String) (reason : String) : MediaStep Unit := do
  let job ← attached
  let reservation ← Action.ofExcept (jobReservation job)
  match reservation with
  | none => pure ()
  | some reservation =>
    Action.carry budget
      (BudgetGuard.release {} reservation (jobContext lib principal job requestId) reason)

def closeMediaGenerationBudget (lib : MediaLibrary) (principal : Principal)
    (requestId : Option String) (next : MediaGenerationJobStatus) : MediaStep Unit :=
  if next = .succeeded then settleMediaGenerationBudget lib principal requestId
  else releaseMediaGenerationBudget lib principal requestId ("media_generation_" ++ next.value)

def reserveMediaGenerationBudget (lib : MediaLibrary) (principal : Principal)
    (job : MediaGenerationJob) (requestId : Option String) (estimatedCostUsd : ℚ) :
    MediaStep BudgetReservation := do
  let usage ← Action.ofExcept (mediaGenerationUsage estimatedCostUsd)
  -- `request_id or job.id.hex`, without the request id of the job
  let context := jobContext lib principal { job with requestId := none } requestId
  let answer : Except Fault BudgetReservation ←
    Action.perform (MediaEffect.reserveUsage usage context)
  let reservation ← stored answer
  refuse (reservation.approved = false) 402
    ("Media generation budget denied request: " ++ reservation.reason)
  pure reservation

end MediaBudget

open MediaBudget

namespace MediaGeneration

variable (lib : MediaLibrary)

def jobNotFound : String := "Media generation job not found."

def assertJobAccess (principal : Principal) (job : MediaGenerationJob) : MediaStep Unit :=
  if job.tenantId ≠ principal.tenantId then fail 404 jobNotFound
  else if principal.isTenantAdmin || job.userId == some principal.userId then pure ()
  else do
    let answer : Except Fault (List UUID) ←
      Action.perform (MediaEffect.principalDepartmentIds principal)
    let departmentIds ← stored answer
    refuse (job.departmentId.any departmentIds.contains = false) 403
      "Media generation job access denied."

def getOwnJob (principal : Principal) (jobId : UUID) : MediaStep MediaGenerationJob := do
  let found ← MediaSession.getJob jobId
  match found.filter fun job => job.tenantId == principal.tenantId with
  | none => fail 404 jobNotFound
  | some job => do
    assertJobAccess principal job
    pure job

def ensureRunnable (job : MediaGenerationJob) : MediaStep Unit := do
  let runnable : Except Exc Unit ← Action.perform (MediaEffect.ensureModuleRunnable job.kind)
  Action.ofExcept runnable
  let configured : Except Exc Unit ← Action.perform (MediaEffect.ensureProviderConfigured job)
  Action.ofExcept configured
  let allowed : Except Exc Unit ← Action.perform (MediaEffect.enforceModelPolicy job)
  Action.ofExcept allowed

def ensureStatusTransition (previous next : MediaGenerationJobStatus) : MediaStep Unit :=
  refuse (previous ≠ next ∧ next ∉ previous.allowedTransitions) 409
    ("Cannot move media generation job from " ++ previous.value ++ " to " ++ next.value ++ ".")

structure MediaGenerationJobStatusUpdate where
  status : MediaGenerationJobStatus
  outputs : Option (List Dict) := none
  externalJobId : Option String := none
  errorMessage : Option String := none
  metadata : MediaMetadata := .empty
deriving DecidableEq

def MediaGenerationJobStatusUpdate.validate (payload : MediaGenerationJobStatusUpdate) :
    Except Exc MediaGenerationJobStatusUpdate :=
  if (payload.externalJobId.any fun text => text.length > 160) ||
      payload.errorMessage.any fun text => text.length > 4000 then
    .error (.other "ValidationError" "String should have fewer characters")
  else .ok payload

def validatedOutputs (job : MediaGenerationJob) :
    Option (List Dict) → MediaStep (Option (List Dict))
  | none => pure none
  | some outputs =>
    match lib.validateOutputs job outputs with
    | .ok validated => pure (some validated)
    | .error detail => fail 422 detail

def updatedJob (payload : MediaGenerationJobStatusUpdate) (outputs : Option (List Dict))
    (job : MediaGenerationJob) : MediaGenerationJob :=
  { job with
    status := payload.status
    outputs := outputs.getD job.outputs
    externalJobId := payload.externalJobId.or job.externalJobId
    errorMessage := payload.errorMessage.or job.errorMessage
    metadata := job.metadata.merge payload.metadata }

def updateMediaGenerationJobStatus (principal : Principal) (jobId : UUID)
    (payload : MediaGenerationJobStatusUpdate) (requestId : Option String) :
    MediaStep MediaGenerationJob := do
  let job ← getOwnJob principal jobId
  ensureStatusTransition job.status payload.status
  let outputs ← validatedOutputs lib job payload.outputs
  edit (updatedJob payload outputs)
  if job.status.isTerminal = false ∧ payload.status.isTerminal = true then do
    closeMediaGenerationBudget lib principal requestId payload.status
    finish
  else finish

def submitUpdate (principal : Principal) (jobId : UUID)
    (payload : MediaGenerationJobStatusUpdate) (requestId : Option String) :
    MediaStep MediaGenerationJob := do
  let payload ← Action.ofExcept payload.validate
  updateMediaGenerationJobStatus lib principal jobId payload requestId

def canceledJob (principal : Principal) (requestId : Option String) (job : MediaGenerationJob) :
    MediaGenerationJob :=
  { job with
    status := .canceled
    metadata := job.metadata.set "last_cancel" (.table
      [("actor_id", .uuid principal.userId), ("request_id", .ofOption requestId),
        ("previous_status", .str job.status.value),
        ("provider_cancel", .str "not_configured")]) }

def cancelMediaGenerationJob (principal : Principal) (jobId : UUID) (requestId : Option String) :
    MediaStep MediaGenerationJob := do
  let job ← getOwnJob principal jobId
  refuse (job.status.isCancelable = false) 409
    ("Cannot cancel media generation job in " ++ job.status.value ++ " status.")
  edit (canceledJob principal requestId)
  releaseMediaGenerationBudget lib principal requestId "media_generation_canceled"
  finish

def presentValue : Option MediaValue → Option MediaValue
  | some (.plain .none) => none
  | value => value

def intOrZero : Option MediaValue → Except Exc Int
  | none | some (.table []) => .ok 0
  | some (.plain value) =>
    match value with
    | .int n => .ok n
    | .bool b => .ok (if b then 1 else 0)
    | .str text =>
      match if text = "" then some 0 else lib.parseInt text with
      | some n => .ok n
      | none => .error (.other "ValueError" "invalid literal for int() with base 10")
    | value =>
      if value.truthy then
        .error (.other "TypeError" "int() argument must be a string or a real number")
      else .ok 0
  | some _ => .error (.other "TypeError" "int() argument must be a string or a real number")

def setPresent (metadata : MediaMetadata) (key : String) (value : Option MediaValue) :
    MediaMetadata :=
  match presentValue value with
  | some value => metadata.set key value
  | none => metadata

def retriedMetadata (principal : Principal) (requestId : Option String)
    (job : MediaGenerationJob) (reservation : ReservationMetadata) (retryCount : Int) :
    MediaMetadata :=
  let metadata := (job.metadata.erase "queue").merge (.ofEntries
    [("budget_reservation", .reservation reservation),
      ("retry_count", .plain (.int retryCount)),
      ("last_retry", .table
        [("actor_id", .uuid principal.userId), ("request_id", .ofOption requestId),
          ("previous_status", .str job.status.value)])])
  setPresent (setPresent metadata "previous_queue" (job.metadata.get "queue"))
    "previous_budget_reservation" (job.metadata.get "budget_reservation")

def retriedJob (principal : Principal) (requestId : Option String)
    (reservation : ReservationMetadata) (retryCount : Int) (job : MediaGenerationJob) :
    MediaGenerationJob :=
  { job with
    status := .queued
    outputs := []
    externalJobId := none
    errorMessage := none
    metadata := retriedMetadata principal requestId job reservation retryCount }

def retryMediaGenerationJob (principal : Principal) (jobId : UUID) (requestId : Option String) :
    MediaStep MediaGenerationJob := do
  let job ← getOwnJob principal jobId
  ensureRunnable job
  refuse (job.status.isRetryable = false) 409
    ("Cannot retry media generation job in " ++ job.status.value ++ " status.")
  let estimatedCost := jobEstimatedCost job
  let reservation ← reserveMediaGenerationBudget lib principal job requestId estimatedCost
  let retries ← Action.ofExcept (intOrZero lib (job.metadata.get "retry_count"))
  let metadata ← Action.ofExcept (reservationMetadata reservation estimatedCost)
  edit (retriedJob principal requestId metadata (retries + 1))
  finish

def isArchiveError (exc : Exc) : Bool := exc.className == "MediaOutputArchiveError"

def archiveOutputs (job : MediaGenerationJob) (outputs : List Dict) :
    MediaStep (List Dict × Dict) := do
  let answer : Except ArchiveFailure (List Dict × Dict) ←
    Action.perform (MediaEffect.archiveOutputs job outputs)
  match answer with
  | .ok archived => pure archived
  | .error (.archive message) => Action.throw (.other "MediaOutputArchiveError" message)
  | .error (.raised exc) => Action.throw exc

def requireJob (jobId : UUID) (message : String) : MediaStep MediaGenerationJob := do
  let found ← MediaSession.getJob jobId
  match found with
  | some job => pure job
  | none => Action.throw (.other "RuntimeError" message)

def applyProviderResult (principal : Principal) (jobId : UUID)
    (result : MediaProviderSubmitResult) (requestId : Option String) :
    MediaStep MediaGenerationJob := do
  let job ← requireJob jobId "Media generation job disappeared before provider result archival."
  let archived ← archiveOutputs job result.outputs
  submitUpdate lib principal jobId
    { status := result.status
      outputs := some archived.1
      externalJobId := result.externalJobId
      errorMessage := result.errorMessage
      metadata := (OrderedDict.ofEntries
        [("executor", .plain (.str "agenthive_media_generation_executor")),
          ("output_archive", .table archived.2)]).merge result.metadata }
    requestId

def executorEntry (executor : String) : String × MediaValue := ("executor", .plain (.str executor))

/-- `_apply_provider_result` with the failure of the archive. -/
def archiveProviderResult (executor : String) (principal : Principal) (jobId : UUID)
    (result : MediaProviderSubmitResult) (requestId : Option String) :
    MediaStep MediaGenerationJob :=
  Action.tryCatch (applyProviderResult lib principal jobId result requestId) fun exc =>
    if isArchiveError exc then
      submitUpdate lib principal jobId
        { status := .failed
          errorMessage := some (match exc with
            | .other _ message => message
            | _ => "")
          metadata := .ofEntries
            [executorEntry executor, ("error_type", .plain (.str exc.className)),
              ("archive_failed", .plain (.bool true))] }
        requestId
    else Action.throw exc

def providerFailed (executor : String) (status : MediaGenerationJobStatus) (text : String)
    (marks : List (String × MediaValue)) (principal : Principal) (jobId : UUID)
    (requestId : Option String) : ProviderFailure → MediaStep MediaGenerationJob
  | .provider className message metadata =>
    submitUpdate lib principal jobId
      { status := status
        errorMessage := some message
        metadata := (OrderedDict.ofEntries ([executorEntry executor,
          ("error_type", .plain (.str className))] ++ marks)).merge metadata }
      requestId
  | .exception className =>
    submitUpdate lib principal jobId
      { status := status
        errorMessage := some (text ++ className)
        metadata := .ofEntries ([executorEntry executor,
          ("error_type", .plain (.str className))] ++ marks) }
      requestId
  | .cancelled => Action.throw .cancelled

def startJob (principal : Principal) (jobId : UUID) (requestId : Option String)
    (job : MediaGenerationJob) : MediaStep MediaGenerationJob :=
  if job.status = .queued then do
    let _ ← submitUpdate lib principal jobId
      { status := .running
        metadata := .ofEntries [executorEntry "agenthive_media_generation_executor"] }
      requestId
    requireJob jobId "Media generation job disappeared after status transition."
  else pure job

def executeMediaGenerationJob (principal : Principal) (jobId : UUID)
    (requestId : Option String) : MediaStep MediaGenerationJob := do
  let job ← getOwnJob principal jobId
  ensureRunnable job
  refuse (job.status.isCancelable = false) 409
    ("Cannot execute media generation job in " ++ job.status.value ++ " status.")
  let job ← startJob lib principal jobId requestId job
  let adapter : Except Exc Unit ← Action.perform (MediaEffect.resolveAdapter job)
  Action.ofExcept adapter
  let answer : Except ProviderFailure MediaProviderSubmitResult ←
    Action.perform (MediaEffect.submit job)
  match answer with
  | .error failure =>
    providerFailed lib "agenthive_media_generation_executor" .failed
      "Media provider call failed: " [] principal jobId requestId failure
  | .ok result =>
    archiveProviderResult lib "agenthive_media_generation_executor" principal jobId result
      requestId

def polledResult (job : MediaGenerationJob) (result : MediaProviderSubmitResult) :
    MediaProviderSubmitResult :=
  { result with
    metadata := (OrderedDict.ofEntries
      [executorEntry "agenthive_media_generation_poller",
        ("poll", .table
          [("external_job_id", .ofOption job.externalJobId),
            ("provider_type", .str job.providerType),
            ("provider_key", .str job.providerKey)])]).merge result.metadata }

def pollMediaGenerationJob (principal : Principal) (jobId : UUID) (requestId : Option String) :
    MediaStep MediaGenerationJob := do
  let job ← getOwnJob principal jobId
  ensureRunnable job
  refuse (job.status ≠ .running) 409
    ("Cannot poll media generation job in " ++ job.status.value ++ " status.")
  refuse (truthy job.externalJobId = false) 409
    "Cannot poll media generation job before an external job id is available."
  let adapter : Except Exc Unit ← Action.perform (MediaEffect.resolveAdapter job)
  Action.ofExcept adapter
  let answer : Except ProviderFailure MediaProviderSubmitResult ←
    Action.perform (MediaEffect.poll job)
  match answer with
  | .error failure =>
    providerFailed lib "agenthive_media_generation_poller" .running
      "Media provider status poll failed: " [("poll_failed", .plain (.bool true))] principal
      jobId requestId failure
  | .ok result =>
    archiveProviderResult lib "agenthive_media_generation_poller" principal jobId
      (polledResult job result) requestId

structure MediaGenerationProviderCallback where
  jobId : Option UUID := none
  externalJobId : Option String := none
  status : MediaGenerationJobStatus
  outputs : Option (List Dict) := none
  errorMessage : Option String := none
  providerKey : Option String := none
  providerStatus : Option String := none
  metadata : Dict := []
deriving DecidableEq

def assertCallbackMatchesJob (job : MediaGenerationJob)
    (payload : MediaGenerationProviderCallback) : MediaStep Unit := do
  refuse (truthy payload.providerKey = true ∧ payload.providerKey ≠ some job.providerKey) 409
    "Media provider callback provider_key does not match the job."
  refuse (truthy payload.externalJobId = true ∧ truthy job.externalJobId = true ∧
      payload.externalJobId ≠ job.externalJobId) 409
    "Media provider callback external_job_id does not match the job."

def findCallbackJob (payload : MediaGenerationProviderCallback) : MediaStep MediaGenerationJob :=
  if truthy payload.externalJobId then do
    let answer : Except Fault (List MediaGenerationJob) ← Action.perform
      (MediaEffect.findJobs (payload.externalJobId.getD "")
        (payload.providerKey.filter fun key => key != ""))
    let jobs ← stored answer
    match jobs with
    | [] => fail 404 jobNotFound
    | [job] => do
      load job
      assertCallbackMatchesJob job payload
      pure job
    | _ => fail 409 "Media provider callback matched multiple jobs."
  else fail 404 jobNotFound

def resolveCallbackJob (payload : MediaGenerationProviderCallback) : MediaStep MediaGenerationJob :=
  match payload.jobId with
  | none => findCallbackJob payload
  | some jobId => do
    let found ← MediaSession.getJob jobId
    match found with
    | some job => do
      assertCallbackMatchesJob job payload
      pure job
    | none => findCallbackJob payload

def callbackFailed {α : Type} (statusCode : Nat) (detail : String) : MediaStep α := do
  let _ ← attached
  MediaSession.commit
  fail statusCode detail

def handleTerminalCallback (job : MediaGenerationJob)
    (payload : MediaGenerationProviderCallback) : MediaStep MediaGenerationJob :=
  if payload.status ≠ job.status then
    callbackFailed 409
      ("Media generation job is already terminal in " ++ job.status.value ++ " status.")
  else finish

def archiveCallbackOutputs (job : MediaGenerationJob) :
    Option (List Dict) → MediaStep (Option (List Dict × Dict))
  | none => pure none
  | some outputs =>
    Action.tryCatch (some <$> archiveOutputs job outputs) fun exc =>
      if isArchiveError exc then
        callbackFailed 503 (match exc with
          | .other _ message => message
          | _ => "")
      else Action.throw exc

def mergedWebhookMetadata (job : MediaGenerationJob) (payload : MediaGenerationProviderCallback)
    (previous : MediaGenerationJobStatus) (externalJobId : Option String)
    (archive : Option Dict) : MediaMetadata :=
  let metadata := job.metadata.set "provider_webhook" (.webhook
    [("previous_status", .str previous.value), ("next_status", .str payload.status.value),
      ("provider_key", .ofOption (pyOr payload.providerKey (some job.providerKey))),
      ("provider_status", .ofOption payload.providerStatus),
      ("external_job_id", .ofOption (pyOr payload.externalJobId externalJobId)),
      ("output_count", .int (payload.outputs.getD []).length)]
    payload.metadata)
  match archive with
  | some archive => metadata.set "output_archive" (.table archive)
  | none => metadata

def calledBackJob (payload : MediaGenerationProviderCallback)
    (archived : Option (List Dict × Dict)) (job : MediaGenerationJob) : MediaGenerationJob :=
  let externalJobId := if truthy payload.externalJobId then payload.externalJobId
    else job.externalJobId
  { job with
    status := payload.status
    outputs := (archived.map (·.1)).getD job.outputs
    externalJobId := externalJobId
    errorMessage := payload.errorMessage.or job.errorMessage
    metadata := mergedWebhookMetadata job payload job.status externalJobId
      (archived.map (·.2)) }

def jobPrincipal (job : MediaGenerationJob) : Principal :=
  { userId := job.userId.getD 0x40008000000000000000
    tenantId := job.tenantId
    permissions := [] }

def ensureCallbackTransition (job : MediaGenerationJob)
    (payload : MediaGenerationProviderCallback) : MediaStep Unit :=
  Action.tryCatch (ensureStatusTransition job.status payload.status) fun exc => do
    let _ ← attached
    MediaSession.commit
    Action.throw exc

def handleMediaGenerationProviderCallback (payload : MediaGenerationProviderCallback)
    (requestId : Option String) : MediaStep MediaGenerationJob := do
  let job ← resolveCallbackJob payload
  if job.status.isTerminal then handleTerminalCallback job payload
  else do
    ensureCallbackTransition job payload
    let archived ← archiveCallbackOutputs job payload.outputs
    edit (calledBackJob payload archived)
    if payload.status.isTerminal then do
      closeMediaGenerationBudget lib (jobPrincipal job) requestId payload.status
      finish
    else finish

end MediaGeneration

open Process (Action Keeping)
open MediaGeneration

def RowsRead (rows : MediaGenerationJob → Prop) : MediaEvent → Prop
  | ⟨.getJob _, .ok found⟩ => ∀ job ∈ found, rows job
  | ⟨.findJobs _ _, .ok found⟩ => ∀ job, found = [job] → rows job
  | _ => True

def SilentCall : MediaEffect → Prop
  | .commit _ | .reserveUsage _ _ => False
  | _ => True

def HasRead (rows : MediaGenerationJob → Prop) (s : Option LoadedJob) : Prop :=
  ∀ loaded ∈ s, loaded.job = loaded.stored ∧ rows loaded.job

abbrev Reading (rows : MediaGenerationJob → Prop) {α : Type} (m : MediaStep α)
    (Q : α → Prop) : Prop :=
  Keeping (RowsRead rows) SilentCall (HasRead rows) m Q

variable {rows : MediaGenerationJob → Prop} {principal : Principal}

theorem hasRead_none : HasRead rows none := by
  intro loaded mem
  cases mem

theorem hasRead_loaded {job : MediaGenerationJob} (row : rows job) :
    HasRead rows (some ⟨job, job⟩) := by
  intro loaded mem
  cases Option.mem_some.mp mem
  exact ⟨rfl, row⟩

theorem eq_of_hasRead {job : MediaGenerationJob} {s : Option LoadedJob}
    (read : HasRead (· = job) s) {loaded : LoadedJob} (has : s = some loaded) :
    s = some ⟨job, job⟩ := by
  obtain ⟨stored, row⟩ := loaded
  obtain ⟨same, own⟩ := read _ has
  change row = stored at same
  change row = job at own
  rw [has, ← same, own]

namespace Reading

theorem ask {e : MediaEffect} (silent : SilentCall e) :
    Reading rows (Action.perform e : MediaStep (MediaAnswer e)) fun _ => True :=
  Keeping.perform silent fun _ _ => trivial

theorem stored {α : Type} {answer : Except Fault α} {Q : α → Prop}
    (told : ∀ a, answer = .ok a → Q a) :
    Reading rows (MediaSession.stored answer : MediaStep α) Q := by
  cases answer with
  | ok a => exact .pure (told a rfl)
  | error f => exact .throw _

theorem refuse (condition : Prop) [Decidable condition] (code : Nat) (detail : String) :
    Reading rows (MediaSession.refuse condition code detail) fun _ => ¬ condition :=
  Keeping.ite (fun _ => .throw _) fun allowed => .pure allowed

theorem load {job : MediaGenerationJob} (row : rows job) :
    Reading rows (MediaSession.load job) fun _ => True :=
  Keeping.modify fun _ _ => hasRead_loaded row

theorem attached : Reading rows MediaSession.attached rows := by
  refine .bind Keeping.get ?_
  intro s read
  cases s with
  | none => exact .throw _
  | some loaded => exact .pure (read loaded rfl).2

theorem getJob (jobId : UUID) :
    Reading rows (MediaSession.getJob jobId) fun found => ∀ job ∈ found, rows job := by
  refine .bind Keeping.get ?_
  intro s read
  split
  · rename_i loaded has
    apply Keeping.pure
    intro job found
    cases found
    exact (read loaded (Option.filter_eq_some_iff.mp has).1).2
  · refine .bind (Q := fun answer => ∀ found, answer = Except.ok found →
      ∀ job ∈ found, rows job) (.perform trivial ?_) ?_
    · intro answer told found eq
      rw [eq] at told
      exact told
    · intro answer told
      refine .bind (stored told) ?_
      intro found own
      cases found with
      | none =>
        apply Keeping.pure
        intro job found
        cases found
      | some job =>
        refine .bind (load (own job rfl)) ?_
        intro _ _
        exact .pure own

variable (job : MediaGenerationJob)

theorem assertJobAccess :
    Reading rows (MediaGeneration.assertJobAccess principal job) fun _ => True := by
  refine .ite (fun _ => .throw _) fun _ => ?_
  refine .ite (fun _ => .pure trivial) fun _ => ?_
  refine .bind (ask trivial) ?_
  intro answer _
  refine .bind (Q := fun _ => True) (stored fun _ _ => trivial) ?_
  intro departmentIds _
  exact (refuse _ _ _).mono fun _ _ => trivial

theorem getOwnJob (jobId : UUID) :
    Reading rows (MediaGeneration.getOwnJob principal jobId) rows := by
  refine .bind (getJob jobId) ?_
  intro found read
  split
  · exact .throw _
  · rename_i job own
    have row := read job (Option.filter_eq_some_iff.mp own).1
    exact .bind (assertJobAccess job) fun _ _ => .pure row

theorem ensureRunnable : Reading rows (MediaGeneration.ensureRunnable job) fun _ => True := by
  refine .bind (ask trivial) ?_
  intro runnable _
  refine .computed fun _ => ?_
  refine .bind (ask trivial) ?_
  intro configured _
  refine .computed fun _ => ?_
  refine .bind (ask trivial) ?_
  intro allowed _
  exact .ofExcept fun _ _ => trivial

theorem validatedOutputs (lib : MediaLibrary) (job : MediaGenerationJob)
    (outputs : Option (List Dict)) :
    Reading rows (MediaGeneration.validatedOutputs lib job outputs) fun _ => True := by
  cases outputs with
  | none => exact .pure trivial
  | some outputs =>
    simp only [MediaGeneration.validatedOutputs]
    split
    · exact .pure trivial
    · exact .throw _

theorem requireJob (jobId : UUID) (message : String) :
    Reading rows (MediaGeneration.requireJob jobId message) rows := by
  refine .bind (getJob jobId) ?_
  intro found own
  cases found with
  | none => exact .throw _
  | some job => exact .pure (own job rfl)

theorem archiveOutputs (outputs : List Dict) :
    Reading rows (MediaGeneration.archiveOutputs job outputs) fun _ => True := by
  refine .bind (ask trivial) ?_
  intro answer _
  split
  · exact .pure trivial
  · exact .throw _
  · exact .throw _

variable (payload : MediaGenerationProviderCallback)

theorem assertCallbackMatchesJob :
    Reading rows (MediaGeneration.assertCallbackMatchesJob job payload) fun _ => True := by
  refine .bind (refuse _ _ _) ?_
  intro _ _
  exact (refuse _ _ _).mono fun _ _ => trivial

theorem findCallbackJob : Reading rows (MediaGeneration.findCallbackJob payload) rows := by
  refine .ite (fun _ => ?_) fun _ => .throw _
  refine .bind (Q := fun answer => ∀ found, answer = Except.ok found →
    ∀ job, found = [job] → rows job) (.perform trivial ?_) ?_
  · intro answer told found eq
    rw [eq] at told
    exact told
  · intro answer told
    refine .bind (stored told) ?_
    intro found own
    split
    · exact .throw _
    · rename_i job
      have row := own job rfl
      refine .bind (load row) ?_
      intro _ _
      refine .bind (assertCallbackMatchesJob job payload) ?_
      intro _ _
      exact .pure row
    · exact .throw _

theorem resolveCallbackJob : Reading rows (MediaGeneration.resolveCallbackJob payload) rows := by
  unfold MediaGeneration.resolveCallbackJob
  split
  · exact findCallbackJob payload
  · rename_i jobId _
    refine .bind (getJob jobId) ?_
    intro found own
    cases found with
    | none => exact findCallbackJob payload
    | some job =>
      refine .bind (assertCallbackMatchesJob job payload) ?_
      intro _ _
      exact .pure (own job rfl)

end Reading
end AgentHive
