import AgentHive.Llm.CostCenter
import AgentHive.Services.AgentModules
import AgentHive.Services.MediaPollQueue
import AgentHive.Services.ProviderCredentials

/-!
The checks of a media job before it is enqueued and again in the worker, over
the tables they read.
-/

namespace AgentHive

inductive MediaGenerationKind
  | image
  | video
deriving DecidableEq

instance : TextEnum MediaGenerationKind where
  value
    | .image => "image"
    | .video => "video"
  all := [.image, .video]
  complete := by intro kind; cases kind <;> decide
  injective := by intro first second; cases first <;> cases second <;> decide

inductive MediaGenerationMode
  | manualPrompt
  | naturalLanguage
  | materialBreakdown
deriving DecidableEq

instance : TextEnum MediaGenerationMode where
  value
    | .manualPrompt => "manual_prompt"
    | .naturalLanguage => "natural_language"
    | .materialBreakdown => "material_breakdown"
  all := [.manualPrompt, .naturalLanguage, .materialBreakdown]
  complete := by intro mode; cases mode <;> decide
  injective := by intro first second; cases first <;> cases second <;> decide

inductive MediaProviderType
  | openaiImages
  | nanoBanana
  | volcengineSeedance
  | openaiCompatibleMedia
  | custom
deriving DecidableEq

instance : TextEnum MediaProviderType where
  value
    | .openaiImages => "openai_images"
    | .nanoBanana => "nano_banana"
    | .volcengineSeedance => "volcengine_seedance"
    | .openaiCompatibleMedia => "openai_compatible_media"
    | .custom => "custom"
  all := [.openaiImages, .nanoBanana, .volcengineSeedance, .openaiCompatibleMedia, .custom]
  complete := by intro providerType; cases providerType <;> decide
  injective := by intro first second; cases first <;> cases second <;> decide
namespace MediaAccess

open MediaQueue (activeQueueMetadata activePoll)

structure QueuedJob extends MediaGenerationJob where
  mode : String
  prompt : String
deriving DecidableEq

structure UserDepartment where
  userId : UUID
  departmentId : UUID
  departmentTenantId : UUID
deriving DecidableEq

/-- What the checks read of the database and of the settings. `costCenterRows` is
what `resolve_cost_center` finds, nothing when a statement raises. -/
structure AccessTables where
  jobs : List QueuedJob
  userDepartments : List UserDepartment
  catalog : ModuleCatalog
  tenantModules : TenantModules
  licenseStatus : UUID → LicenseStatusResponse
  providers : ProviderTables
  settingsIssues : MediaProviderType → List String
  defaultBaseUrl : MediaProviderType → Option String
  policyRules : UUID → List ModelPolicyRule
  costCenterRows : Option (List BoundDepartment)

variable (tables : AccessTables)

def refused {α : Type} (code : Nat) (detail : String) : Except Exc α :=
  .error (.http code (.text detail))

variable (principal : Principal)

def principalDepartmentIds : List UUID :=
  if principal.isTenantAdmin then []
  else (tables.userDepartments.filter fun row =>
    row.userId == principal.userId && row.departmentTenantId == principal.tenantId).map
      (·.departmentId)

def canAccessMediaGenerationJob (job : QueuedJob) (principal : Principal)
    (departmentIds : List UUID) : Bool :=
  if job.tenantId ≠ principal.tenantId then false
  else if principal.isTenantAdmin then true
  else if job.userId = some principal.userId then true
  else job.departmentId.any departmentIds.contains

def assertMediaGenerationJobAccess (job : QueuedJob) : Except Exc Unit :=
  if job.tenantId ≠ principal.tenantId then refused 404 "Media generation job not found."
  else if principal.isTenantAdmin ∨ job.userId = some principal.userId then .ok ()
  else if canAccessMediaGenerationJob job principal (principalDepartmentIds tables principal) then
    .ok ()
  else refused 403 "Media generation job access denied."

def mediaGenerationModuleKey (kind : String) : Except Exc String :=
  match (TextEnum.parse kind : Option MediaGenerationKind) with
  | some .image => .ok "agent.image_generation"
  | some .video => .ok "agent.video_generation"
  | none => .error (.other "KeyError" ("'" ++ kind ++ "'"))

def ensureMediaGenerationModuleRunnable (kind : String) : Except Exc Unit := do
  let moduleKey ← mediaGenerationModuleKey kind
  let _ ← AgentModuleService.ensureAgentModuleRunnableForTenant tables.catalog
    tables.tenantModules (tables.licenseStatus principal.tenantId) principal.tenantId moduleKey
    "media generation"
  .ok ()

/-- The provider key of `MEDIA_PROVIDER_CONFIG_BINDINGS`. -/
def bindingForProviderType : MediaProviderType → Option String
  | .custom => none
  | providerType => some (TextEnum.value providerType)

def bestCandidate (rows : List ProviderCredentials.Candidate) :
    Option ProviderCredentials.Candidate :=
  rows.foldl (fun selected row =>
    match selected with
    | none => some row
    | some best => if best.rank < row.rank then some row else some best) none

def selectMediaProviderCredential (providerKey : String) (departmentId userId : Option UUID) :
    Option ProviderCredentials.Candidate :=
  bestCandidate ((ProviderCredentials.candidates tables.providers principal.tenantId departmentId
    userId).filter fun row => row.provider.providerKey == providerKey)

def mediaProviderConfigurationIssues (providerType : MediaProviderType)
    (departmentId userId : Option UUID) : List String :=
  let settingsIssues := tables.settingsIssues providerType
  if settingsIssues = [] then []
  else
    match bindingForProviderType providerType with
    | none => settingsIssues
    | some providerKey =>
      match selectMediaProviderCredential tables principal providerKey departmentId
        (userId.or (some principal.userId)) with
      | none => settingsIssues
      | some selection =>
        let baseUrl := pyOr selection.provider.baseUrl (tables.defaultBaseUrl providerType)
        if truthy baseUrl && selection.credential.secretRef != "" then [] else settingsIssues

def ensureMediaProviderConfigured (providerType : String) (departmentId userId : Option UUID) :
    Except Exc Unit := do
  let normalized : MediaProviderType ← readEnum "MediaProviderType" providerType
  let issues := mediaProviderConfigurationIssues tables principal normalized departmentId userId
  if issues = [] then .ok ()
  else refused 409 ("Media provider " ++ TextEnum.value normalized ++
    " is not configured. Missing configuration: " ++ ", ".intercalate issues ++ ".")

structure PlannedJob where
  kind : MediaGenerationKind
  providerType : MediaProviderType
  mode : MediaGenerationMode
  modelKey : String
  routingKey : String
  prompt : String
deriving DecidableEq

def planFromJob (job : QueuedJob) : Except Exc PlannedJob := do
  let kind : MediaGenerationKind ← readEnum "MediaGenerationKind" job.kind
  let providerType : MediaProviderType ← readEnum "MediaProviderType" job.providerType
  let mode : MediaGenerationMode ← readEnum "MediaGenerationMode" job.mode
  .ok ⟨kind, providerType, mode, job.modelKey, job.routingKey, job.prompt⟩

def policyContext (plan : PlannedJob) (requestId : Option String)
    (departmentId agentId conversationId : Option UUID) : LLMRequestContext :=
  { tenantId := principal.tenantId
    userId := some principal.userId
    departmentId := departmentId
    agentId := agentId
    conversationId := conversationId
    requestId := (pyOr requestId (some "media-generation-policy")).getD ""
    source := "media_generation." ++ TextEnum.value plan.kind }

def policyRequest (plan : PlannedJob) : LLMChatRequest :=
  { modelKey := some plan.modelKey
    routingKey := some plan.routingKey
    messages := [{ role := "user", content := plan.prompt }] }

def enforceMediaGenerationModelPolicy (plan : PlannedJob) (requestId : Option String)
    (departmentId agentId conversationId : Option UUID) : Except Exc Unit :=
  let context := policyContext principal plan requestId departmentId agentId conversationId
  let decision := ModelPolicyEngine.evaluate (tables.policyRules principal.tenantId)
    (policyRequest plan) context (CostCenter.resolveCostCenter tables.costCenterRows context).1
  if decision.allowed then .ok ()
  else refused 403 ("Media generation model policy denied request: " ++ decision.reason)

def checkedJob (jobId : UUID) (requestId : Option String) : Except Exc QueuedJob := do
  match (tables.jobs.find? (·.id == jobId)).filter (·.tenantId == principal.tenantId) with
  | none => refused 404 "Media generation job not found."
  | some job => do
    assertMediaGenerationJobAccess tables principal job
    ensureMediaGenerationModuleRunnable tables principal job.kind
    ensureMediaProviderConfigured tables principal job.providerType job.departmentId job.userId
    let plan ← planFromJob job
    enforceMediaGenerationModelPolicy tables principal plan requestId job.departmentId
      job.agentId job.conversationId
    .ok job

inductive MediaTask
  | execute
  | poll
deriving DecidableEq

structure QueueMessage where
  task : MediaTask
  jobId : UUID
  tenantId : UUID
  actorId : Option UUID
  requestId : Option String
deriving DecidableEq

def ensureStatus (task : MediaTask) (doing polling : String) (job : QueuedJob) : Except Exc Unit :=
  match task with
  | .execute =>
    if job.status = .queued ∨ job.status = .running then .ok ()
    else refused 409
      ("Cannot " ++ doing ++ " media generation job in " ++ job.status.value ++ " status.")
  | .poll =>
    if job.status ≠ .running then refused 409
      ("Cannot " ++ polling ++ " in " ++ job.status.value ++ " status.")
    else if truthy job.externalJobId = false then refused 409
      ("Cannot " ++ polling ++ " before an external job id is available.")
    else .ok ()

def activeTask (task : MediaTask) (job : QueuedJob) : Option Dict :=
  match task with
  | .execute => activeQueueMetadata job.toMediaGenerationJob "queue"
  | .poll => activePoll job.toMediaGenerationJob

/-- `enqueue_media_generation_job_for_worker` and its sibling for polls, with the message
they send; none where a task is already in the queue. -/
def enqueueForWorker (task : MediaTask) (principal : Principal) (jobId : UUID)
    (requestId : Option String) : Except Exc (Option QueueMessage) := do
  let job ← checkedJob tables principal jobId requestId
  ensureStatus task "enqueue" "enqueue media generation poll" job
  match activeTask task job with
  | some _ => .ok none
  | none => .ok (some ⟨task, job.id, principal.tenantId, some principal.userId, requestId⟩)

def workerPrincipal (actorId tenantId : UUID) : Principal :=
  { userId := actorId, tenantId := tenantId, permissions := [.agentsWrite] }

/-- A task of the worker up to its call of the provider: the job it goes on with,
none where it returns `not_found` or `missing_actor`. -/
def workerTask (message : QueueMessage) : Except Exc (Option QueuedJob) :=
  match (tables.jobs.find? (·.id == message.jobId)).filter (·.tenantId == message.tenantId) with
  | none => .ok none
  | some job =>
    match message.actorId.or job.userId with
    | none => .ok none
    | some actorId => do
      let job ← checkedJob tables (workerPrincipal actorId message.tenantId) message.jobId
        message.requestId
      ensureStatus message.task "execute" "poll media generation job" job
      .ok (some job)

section

variable {tables}

def departmentsOf (tables : AccessTables) (userId tenantId : UUID) : List UUID :=
  (tables.userDepartments.filter fun row =>
    row.userId == userId && row.departmentTenantId == tenantId).map (·.departmentId)

def EntitledAsUser (tables : AccessTables) (principal : Principal) (job : QueuedJob) : Prop :=
  job.userId = some principal.userId ∨
    ∃ departmentId ∈ departmentsOf tables principal.userId principal.tenantId,
      job.departmentId = some departmentId

instance (principal : Principal) (job : QueuedJob) :
    Decidable (EntitledAsUser tables principal job) :=
  inferInstanceAs (Decidable (_ ∨ _))

variable {principal : Principal} {job : QueuedJob}

theorem access_of_plain (plain : principal.isTenantAdmin = false)
    (tenant : job.tenantId = principal.tenantId) :
    assertMediaGenerationJobAccess tables principal job = .ok () ↔
      EntitledAsUser tables principal job := by
  have departments : principalDepartmentIds tables principal =
      departmentsOf tables principal.userId principal.tenantId := by
    simp [principalDepartmentIds, departmentsOf, plain]
  by_cases own : job.userId = some principal.userId
  · simp [assertMediaGenerationJobAccess, tenant, own, EntitledAsUser]
  · simp only [assertMediaGenerationJobAccess, canAccessMediaGenerationJob, tenant, plain, own,
      departments, EntitledAsUser]
    cases job.departmentId <;> simp [refused]

variable {other : Principal}

section

variable (tenant : other.tenantId = principal.tenantId)

include tenant

theorem ensureMediaProviderConfigured_congr (user : other.userId = principal.userId) :
    ensureMediaProviderConfigured tables other =
      ensureMediaProviderConfigured tables principal := by
  cases other
  cases principal
  cases tenant
  cases user
  rfl

theorem enforceMediaGenerationModelPolicy_congr (user : other.userId = principal.userId) :
    enforceMediaGenerationModelPolicy tables other =
      enforceMediaGenerationModelPolicy tables principal := by
  cases other
  cases principal
  cases tenant
  cases user
  rfl

theorem checkedJob_congr {jobId : UUID} {requestId : Option String} (user : other.userId = principal.userId)
    (checked : checkedJob tables principal jobId requestId = .ok job) :
    (tables.jobs.find? (·.id == jobId)).filter (·.tenantId == principal.tenantId) = some job ∧
      checkedJob tables other jobId requestId =
        (assertMediaGenerationJobAccess tables other job).map fun _ => job := by
  unfold checkedJob at checked ⊢
  rw [tenant]
  cases found : (tables.jobs.find? (·.id == jobId)).filter
      (·.tenantId == principal.tenantId) with
  | none =>
    rw [found] at checked
    cases checked
  | some stored =>
    simp only [found] at checked
    obtain ⟨_, access, checked⟩ := Process.Fallible.bind_ok.mp checked
    obtain ⟨_, runnable, checked⟩ := Process.Fallible.bind_ok.mp checked
    obtain ⟨_, configured, checked⟩ := Process.Fallible.bind_ok.mp checked
    obtain ⟨plan, planned, checked⟩ := Process.Fallible.bind_ok.mp checked
    obtain ⟨_, allowed, checked⟩ := Process.Fallible.bind_ok.mp checked
    cases checked
    refine ⟨rfl, ?_⟩
    have runnable' : ensureMediaGenerationModuleRunnable tables other job.kind = .ok () := by
      rw [← runnable, ensureMediaGenerationModuleRunnable, ensureMediaGenerationModuleRunnable,
        tenant]
    rw [ensureMediaProviderConfigured_congr tenant user,
      enforceMediaGenerationModelPolicy_congr tenant user]
    simp only [runnable', configured, planned]
    cases assertMediaGenerationJobAccess tables other job with
    | error x => rfl
    | ok _ =>
      change (enforceMediaGenerationModelPolicy tables principal plan requestId
        job.departmentId job.agentId job.conversationId >>= fun _ => _) = _
      rw [allowed]
      rfl

end

theorem ensureStatus_retold {task : MediaTask} {doing polling doing' polling' : String}
    (passed : ensureStatus task doing polling job = .ok ()) :
    ensureStatus task doing' polling' job = .ok () := by
  cases task with
  | execute =>
    by_cases open_ : job.status = .queued ∨ job.status = .running
    · simp [ensureStatus, open_]
    · simp [ensureStatus, open_, refused] at passed
  | poll =>
    by_cases running : job.status = .running
    · by_cases named : truthy job.externalJobId = false
      · simp [ensureStatus, running, named, refused] at passed
      · simp [ensureStatus, running, named]
    · simp [ensureStatus, running, refused] at passed

/-- The worker goes on with an enqueued job exactly when the one who enqueued it is
entitled to it as a user. -/
theorem worker_accepts_iff {task : MediaTask} {principal : Principal} {jobId : UUID}
    {requestId : Option String} {message : QueueMessage}
    (accepted : enqueueForWorker tables task principal jobId requestId = .ok (some message)) :
    ∃ job, tables.jobs.find? (·.id == jobId) = some job ∧
      (workerTask tables message = .ok (some job) ↔ EntitledAsUser tables principal job) := by
  obtain ⟨job, checked, accepted⟩ := Process.Fallible.bind_ok.mp accepted
  obtain ⟨_, status, accepted⟩ := Process.Fallible.bind_ok.mp accepted
  cases idle : activeTask task job with
  | some marker =>
    rw [idle] at accepted
    cases accepted
  | none =>
    rw [idle] at accepted
    cases accepted
    let worker := workerPrincipal principal.userId principal.tenantId
    have sameTenant : worker.tenantId = principal.tenantId := rfl
    have sameUser : worker.userId = principal.userId := rfl
    obtain ⟨stored, again⟩ := checkedJob_congr sameTenant sameUser checked
    obtain ⟨found, tenant⟩ := Option.filter_eq_some_iff.mp stored
    have named : job.id = jobId := by simpa using List.find?_some found
    have entitled : assertMediaGenerationJobAccess tables worker job = .ok () ↔
        EntitledAsUser tables principal job :=
      access_of_plain rfl (show job.tenantId = principal.tenantId by simpa using tenant)
    refine ⟨job, found, Iff.trans ?_ entitled⟩
    rw [workerTask, named]
    simp only [stored]
    change (checkedJob tables worker jobId requestId >>= fun job =>
      ensureStatus task "execute" "poll media generation job" job >>= fun _ =>
        .ok (some job)) = _ ↔ _
    rw [again]
    cases access : assertMediaGenerationJobAccess tables worker job with
    | error x =>
      constructor
      · intro goes
        cases goes
      · intro goes
        cases goes
    | ok _ =>
      have goes : ensureStatus task "execute" "poll media generation job" job = .ok () :=
        ensureStatus_retold status
      constructor
      · intro _
        rfl
      · intro _
        change (ensureStatus task "execute" "poll media generation job" job >>= fun _ =>
          .ok (some job)) = .ok (some job)
        rw [goes]
        rfl

def studioTables : AccessTables where
  jobs := [{ id := 20, tenantId := 1, userId := some 3, kind := "image", providerKey := "custom"
             providerType := "custom", modelKey := "image-model", routingKey := "image"
             mode := "manual_prompt", prompt := "a lighthouse" }]
  userDepartments := []
  catalog :=
    { rows := [{ id := 5, moduleKey := "agent.image_generation" }]
      keysDistinct := by decide
      idsDistinct := by decide }
  tenantModules := .ofEntries [((1, 5), { state := "enabled" })]
  licenseStatus _ :=
    { status := .active, licenseType := "standard", customerName := "Demo", deploymentId := 1
      installId := 1, machineFingerprintHash := "", featureCount := 0, moduleCount := 1
      allowedModules := ["agent.image_generation"], allowedFeatures := [] }
  providers := ⟨[], [], by decide, by decide⟩
  settingsIssues _ := []
  defaultBaseUrl _ := none
  policyRules _ := []
  costCenterRows := some []

theorem administrator_is_refused_in_worker :
    enqueueForWorker studioTables .execute ⟨9, 1, [.tenantAdmin], 0, false⟩ 20 none =
        .ok (some ⟨.execute, 20, 1, some 9, none⟩) ∧
      workerTask studioTables ⟨.execute, 20, 1, some 9, none⟩ =
        .error (.http 403 (.text "Media generation job access denied.")) := by
  decide +kernel

theorem owner_is_let_in :
    ∃ job, studioTables.jobs.find? (·.id == 20) = some job ∧
      (workerTask studioTables ⟨.execute, 20, 1, some 3, none⟩ = .ok (some job) ↔
        EntitledAsUser studioTables ⟨3, 1, [.agentsWrite], 0, false⟩ job) := by
  have accepted : enqueueForWorker studioTables .execute ⟨3, 1, [.agentsWrite], 0, false⟩ 20
      none = .ok (some ⟨.execute, 20, 1, some 3, none⟩) := by decide +kernel
  exact worker_accepts_iff accepted

end

end MediaAccess
end AgentHive
