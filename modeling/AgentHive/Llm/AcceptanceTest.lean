import AgentHive.Llm.Gateway
import AgentHive.Llm.RuntimeRules
import AgentHive.Process.Carry
import AgentHive.Services.ProviderCredentials

/-!
The acceptance test of a saved deployment: a chat over its routing key, and the evidence that is
kept of it.

The gateway of the chat is made of the tables of the tenant, or of the built-in catalog where
nothing of theirs can be used.
-/

namespace AgentHive.Acceptance

open Process (Action Program)
open ProviderCredentials (developmentMockAllowed providerConfig adapterTypeOf)

structure LLMModel where
  id : UUID
  modelKey : String
  displayName : String
deriving DecidableEq

structure LLMDeployment where
  id : UUID
  tenantId : UUID
  providerId : UUID
  modelId : UUID
  credentialId : Option UUID := none
  deploymentName : String
  routingKey : String
  isActive : Bool := true
  priority : Int := 100
  config : Dict := []
deriving DecidableEq

structure ModelTables extends ProviderTables where
  keyedCredentials : List (UUID × LLMCredential)
  models : List LLMModel
  deployments : List LLMDeployment
  policyRules : UUID → List ModelPolicyRule
  pricingRules : List PricingRule
  keyed : keyedCredentials.map Prod.snd = credentials
  uniqueRoutes : (deployments.map fun d => (d.tenantId, d.routingKey)).Nodup

/-- What the test takes from outside. `normalized` is `text.strip().lower()`. -/
structure GatewaySettings extends CredentialSettings where
  builtInDeployments : List DeploymentConfig
  costAwareRoutingEnabled : Bool
  lower : String → String
  normalized : String → String
  render : Rendering

structure DeploymentAcceptanceTarget where
  deploymentId : UUID
  providerKey : String
  modelKey : String
  routingKey : String
  credentialConfigured : Bool
deriving DecidableEq

structure TargetRow where
  deployment : LLMDeployment
  provider : LLMProvider
  model : LLMModel
  credential : LLMCredential

def targetRows (tables : ModelTables) (tenantId deploymentId : UUID) : List TargetRow :=
  (tables.deployments.filter fun d =>
      d.tenantId == tenantId && d.id == deploymentId && d.isActive).flatMap fun d =>
    (tables.providers.filter fun p => p.id == d.providerId && p.isActive).flatMap fun p =>
      (tables.models.filter fun m => m.id == d.modelId).flatMap fun m =>
        (tables.keyedCredentials.filter fun c => some c.1 == d.credentialId && c.2.isActive).map
          fun c => ⟨d, p, m, c.2⟩

/-- `get_acceptance_target`. The credential is any that the deployment names. -/
def getAcceptanceTarget (settings : GatewaySettings) (tables : ModelTables)
    (tenantId deploymentId : UUID) : Except Exc DeploymentAcceptanceTarget :=
  match targetRows tables tenantId deploymentId with
  | [] => .error (.http 404
      (.text "Active model deployment with an active credential was not found."))
  | [row] =>
    match settings.decrypt row.credential.secretRef with
    | none => .error (.http 409 (.text ("Deployment credential cannot be decrypted. " ++
        "Rotate the credential before acceptance testing.")))
    | some _ => .ok
        { deploymentId := row.deployment.id
          providerKey := row.provider.providerKey
          modelKey := row.model.modelKey
          routingKey := row.deployment.routingKey
          credentialConfigured := true }
  | _ => .error (.sqlAlchemy "MultipleResultsFound"
      "Multiple rows were found when one or none was required")

structure RuntimeRow where
  deployment : LLMDeployment
  provider : LLMProvider
  model : LLMModel

def runtimeRows (tables : ModelTables) (tenantId : UUID) : List RuntimeRow :=
  ((tables.deployments.filter fun d => d.tenantId == tenantId && d.isActive).flatMap fun d =>
    (tables.providers.filter fun p => p.id == d.providerId && p.isActive).flatMap fun p =>
      (tables.models.filter fun m => m.id == d.modelId).map fun m =>
        (⟨d, p, m⟩ : RuntimeRow)).insertionSort
    fun a b => a.deployment.priority ≤ b.deployment.priority

def runtimeDeployment (settings : GatewaySettings) (row : RuntimeRow) :
    Except Exc DeploymentConfig := do
  let static ← providerConfig settings.toCredentialSettings row.provider.providerKey
  let adapterType ← adapterTypeOf row.provider.adapterType
  let demoMock := developmentMockAllowed settings.toCredentialSettings row.provider
  .ok
    { id := row.deployment.id
      providerKey := row.provider.providerKey
      providerName := row.provider.name
      adapterType := adapterType
      modelKey := row.model.modelKey
      displayName := row.model.displayName
      deploymentName := row.deployment.deploymentName
      routingKey := row.deployment.routingKey
      status := .active
      priority := row.deployment.priority
      baseUrl := pyOr row.provider.baseUrl static.baseUrl
      config := row.deployment.config.merge
        [("mock", .bool demoMock), ("live_network_call", .bool !demoMock)] }

def runtimeDeployments (settings : GatewaySettings) (tables : ModelTables) (tenantId : UUID) :
    Except Exc (List DeploymentConfig) :=
  (runtimeRows tables tenantId).mapM (runtimeDeployment settings)

structure Principal where
  tenantId : UUID
  userId : Option UUID
deriving DecidableEq

/-- The catalog that a gateway works with: the one of the tenant, cut down to the providers whose
credentials the principal may use, or the built-in one. -/
structure Catalog where
  own : Bool
  providers : List ProviderConfig
  deployments : List DeploymentConfig

def catalogFor (settings : GatewaySettings) (tables : ModelTables) (principal : Principal) :
    Except Exc Catalog := do
  let providers ← ProviderCredentials.runtimeProviders settings.toCredentialSettings
    tables.toProviderTables principal.tenantId none principal.userId
  let all ← runtimeDeployments settings tables principal.tenantId
  let deployments := all.filter fun d => (providers.map (·.providerKey)).contains d.providerKey
  if !providers.isEmpty && !deployments.isEmpty then
    .ok ⟨true, providers.map (·.toProviderConfig), deployments⟩
  else .ok ⟨false, settings.builtIn.map (·.toProviderConfig), settings.builtInDeployments⟩

def gatewayOver (settings : GatewaySettings) (tables : ModelTables) (tenantId : UUID)
    (catalog : Catalog) : LLMGateway :=
  let pricing : ModelPricingCatalog :=
    { overrides := if catalog.own then tables.pricingRules else [], lower := settings.lower }
  { policies :=
      if catalog.own then RuntimeRules.policyRulesMatchingDeployments
        (tables.policyRules tenantId) catalog.deployments
      else []
    policySession := true
    budget := { pricing := pricing, hasSession := true }
    router :=
      { providers := catalog.providers
        deployments := catalog.deployments
        pricing := some pricing
        costAwareRoutingEnabled := settings.costAwareRoutingEnabled }
    render := settings.render }

def buildGateway (settings : GatewaySettings) (tables : ModelTables) (principal : Principal) :
    Except Exc LLMGateway :=
  (catalogFor settings tables principal).map (gatewayOver settings tables principal.tenantId)

structure AttemptSummary where
  attempt : Nat
  providerKey : String
  modelKey : String
  deploymentId : UUID
  routingKey : String
  status : String
  latencyMs : Option Int
  statusCode : PyValue := .none
  probePath : PyValue := .none
  errorCode : Option String
  liveNetworkCall : PyValue := .none
  mock : PyValue := .none
deriving DecidableEq

def summarizeAttempt (item : RouteAttempt) : AttemptSummary where
  attempt := item.attempt
  providerKey := item.providerKey
  modelKey := item.modelKey
  deploymentId := item.deploymentId
  routingKey := item.routingKey
  status := item.status
  latencyMs := item.latencyMs
  errorCode := item.errorCode

def summarizeRouteAttempts : PyValue → List AttemptSummary
  | .attempts items => (items.take 5).map summarizeAttempt
  | _ => []

def selectedRouteAttempt (routeAttempts : List AttemptSummary) (deploymentId : UUID) :
    Option AttemptSummary :=
  routeAttempts.find? fun attempt =>
    attempt.deploymentId == deploymentId && attempt.status == "success"

def optionalBool (normalized : String → String) : PyValue → Option Bool
  | .none => none
  | .bool b => some b
  | .str text =>
    if ["true", "1", "yes"].contains (normalized text) then some true
    else if ["false", "0", "no"].contains (normalized text) then some false
    else some (text != "")
  | value => some value.truthy

def boolOr (a b : Option Bool) : Option Bool := if a = some true then a else b

def liveNetworkCallOf (normalized : String → String) (metadata : Dict)
    (selected : Option AttemptSummary) : Option Bool :=
  let live := optionalBool normalized (metadata.get "live_network_call")
  match selected with
  | some attempt => boolOr (optionalBool normalized attempt.liveNetworkCall) live
  | none => live

def mockOf (normalized : String → String) (metadata : Dict) (selected : Option AttemptSummary) :
    Option Bool :=
  let mock := optionalBool normalized (metadata.get "mock")
  match selected with
  | some attempt =>
    if attempt.mock = .none then mock else optionalBool normalized attempt.mock
  | none => mock

def firstChars (count : Nat) (text : String) : String := String.ofList (text.toList.take count)

structure AcceptanceDetails where
  providerKey : Option String
  modelKey : Option String
  deploymentId : UUID
  routingKey : Option String
  ok : Bool
  operation : String := "deployment_acceptance_test"
  configurationSource : Option String
  credentialConfigured : Option Bool := none
  latencyMs : Option Int := none
  statusCode : PyValue
  errorType : Option String := none
  message : String
  responseRequestId : Option String := none
  usageRecorded : Option Bool := none
  liveNetworkCall : Option Bool := none
  mock : Option Bool := none
  routeAttempts : List AttemptSummary := []
  pricingRule : PyValue := .none
deriving DecidableEq

structure AcceptanceAudit where
  tenantId : UUID
  actorId : Option UUID
  action : String := "llm.deployment.acceptance_test"
  status : String
  resourceType : String := "llm_deployment"
  resourceId : UUID
  requestId : Option String
  details : AcceptanceDetails
deriving DecidableEq

structure LLMDeploymentAcceptanceTestResponse where
  ok : Bool
  requestId : String
  deploymentId : UUID
  providerKey : String
  modelKey : String
  routingKey : String
  contentPreview : String
  usage : LLMUsageMetrics
  routeAttempts : List AttemptSummary
  liveNetworkCall : Option Bool
  mock : Option Bool
  usageRecorded : Bool
  evidence : Dict
deriving DecidableEq

structure LLMDeploymentAcceptanceTestRequest where
  prompt : String
  maxTokens : Int

def acceptanceRequest (target : DeploymentAcceptanceTarget)
    (payload : LLMDeploymentAcceptanceTestRequest) : LLMChatRequest :=
  { routingKey := some target.routingKey
    messages := [{ role := "user", content := payload.prompt }]
    maxTokens := some payload.maxTokens }

def acceptanceContext (principal : Principal) (chatRequestId : String) : LLMRequestContext :=
  { tenantId := principal.tenantId
    userId := principal.userId
    requestId := chatRequestId
    source := "model_acceptance_test" }

def successAudit (settings : GatewaySettings) (principal : Principal) (requestId : Option String)
    (target : DeploymentAcceptanceTarget) (response : LLMResponse) : AcceptanceAudit :=
  let routeAttempts := summarizeRouteAttempts (response.metadata.get "route_attempts")
  let selected := selectedRouteAttempt routeAttempts target.deploymentId
  { tenantId := principal.tenantId
    actorId := principal.userId
    status := "success"
    resourceId := target.deploymentId
    requestId := pyOr requestId (some response.requestId)
    details :=
      { providerKey := some response.providerKey
        modelKey := some response.modelKey
        deploymentId := target.deploymentId
        routingKey := some target.routingKey
        ok := true
        configurationSource := some "saved_deployment"
        latencyMs := selected.bind (·.latencyMs)
        statusCode := (selected.map (·.statusCode)).getD .none
        message := firstChars 240 response.content
        responseRequestId := some response.requestId
        usageRecorded := some true
        liveNetworkCall := liveNetworkCallOf settings.normalized response.metadata selected
        mock := mockOf settings.normalized response.metadata selected
        routeAttempts := routeAttempts
        pricingRule := response.metadata.get "pricing_rule" } }

def acceptanceResponse (settings : GatewaySettings) (target : DeploymentAcceptanceTarget)
    (response : LLMResponse) : LLMDeploymentAcceptanceTestResponse :=
  let routeAttempts := summarizeRouteAttempts (response.metadata.get "route_attempts")
  let selected := selectedRouteAttempt routeAttempts target.deploymentId
  { ok := true
    requestId := response.requestId
    deploymentId := target.deploymentId
    providerKey := response.providerKey
    modelKey := response.modelKey
    routingKey := target.routingKey
    contentPreview := firstChars 240 response.content
    usage := response.usage
    routeAttempts := routeAttempts
    liveNetworkCall := liveNetworkCallOf settings.normalized response.metadata selected
    mock := mockOf settings.normalized response.metadata selected
    usageRecorded := true
    evidence :=
      [("credential_configured", .bool target.credentialConfigured),
        ("finish_reason", .ofOption response.finishReason),
        ("pricing_rule", response.metadata.get "pricing_rule"),
        ("fallback_attempt_count", response.metadata.get "fallback_attempt_count"),
        ("selected_route_reason", response.metadata.get "selected_route_reason")] }

def acceptanceErrorMessage (render : Rendering) (exc : Exc) : String :=
  let message := match exc with
    | .http _ (.text text) => text
    | .http _ (.fields d) => render.dict d
    | other => render.exc other
  if 500 < message.length then firstChars 497 message ++ "..." else message

def httpStatus : Exc → PyValue
  | .http code _ => .int code
  | _ => .none

def failureAudit (settings : GatewaySettings) (principal : Principal) (deploymentId : UUID)
    (requestId : Option String) (target : Option DeploymentAcceptanceTarget) (exc : Exc) :
    AcceptanceAudit :=
  { tenantId := principal.tenantId
    actorId := principal.userId
    status := "failure"
    resourceId := deploymentId
    requestId := requestId
    details :=
      { providerKey := target.map (·.providerKey)
        modelKey := target.map (·.modelKey)
        deploymentId := deploymentId
        routingKey := target.map (·.routingKey)
        ok := false
        configurationSource := target.map fun _ => "saved_deployment"
        credentialConfigured := target.map (·.credentialConfigured)
        statusCode := httpStatus exc
        errorType := some exc.className
        message := acceptanceErrorMessage settings.render exc } }

inductive AcceptanceCall
  | readTarget
  | readCatalog
  | gateway (effect : Effect)
  | rollback
  | commit (row : AcceptanceAudit)
deriving DecidableEq

abbrev AcceptanceAnswer : AcceptanceCall → Type
  | .readTarget | .readCatalog => Except Fault ModelTables
  | .gateway effect => Answer effect
  | .rollback | .commit _ => Except Fault Unit

abbrev AcceptanceEvent := Process.Event AcceptanceCall AcceptanceAnswer

abbrev AcceptanceStep (α : Type) :=
  Action AcceptanceCall AcceptanceAnswer (Option DeploymentAcceptanceTarget) Exc α

def stored {α : Type} : Except Fault α → AcceptanceStep α
  | .ok a => pure a
  | .error f => Action.throw f.toExc

def askGateway (effect : Effect) : Program AcceptanceCall AcceptanceAnswer (Answer effect) :=
  .call (.gateway effect) .ret

def throughGateway {α : Type} (chat : Program Effect Answer α) : AcceptanceStep α :=
  fun target => (chat.handle askGateway).bind fun a => .ret (.ok a, target)

section

variable (settings : GatewaySettings) (principal : Principal) (deploymentId : UUID)
  (payload : LLMDeploymentAcceptanceTestRequest) (requestId : Option String)
  (chatRequestId : String)

def resolveTarget : AcceptanceStep DeploymentAcceptanceTarget := do
  let answer : Except Fault ModelTables ← Action.perform AcceptanceCall.readTarget
  let tables ← stored answer
  Action.ofExcept (getAcceptanceTarget settings tables principal.tenantId deploymentId)

/-- `run_gateway_chat`, as the test calls it. -/
def runGatewayChat (request : LLMChatRequest) : AcceptanceStep LLMResponse := do
  let answer : Except Fault ModelTables ← Action.perform AcceptanceCall.readCatalog
  let tables ← stored answer
  let gateway ← Action.ofExcept (buildGateway settings tables principal)
  let result ← throughGateway (gateway.chat request (acceptanceContext principal chatRequestId))
  Action.ofExcept result

def recordFailureAudit (exc : Exc) : AcceptanceStep Unit :=
  Action.tryCatch
    (do
      let undone : Except Fault Unit ← Action.perform AcceptanceCall.rollback
      stored undone
      let target ← Action.get
      let written : Except Fault Unit ← Action.perform
        (AcceptanceCall.commit
          (failureAudit settings principal deploymentId requestId target exc))
      stored written)
    fun other =>
      if other.isException then do
        let undone : Except Fault Unit ← Action.perform AcceptanceCall.rollback
        stored undone
      else Action.throw other

def acceptanceBody : AcceptanceStep (DeploymentAcceptanceTarget × LLMResponse) := do
  let target ← resolveTarget settings principal deploymentId
  Action.modify fun _ => some target
  let response ← runGatewayChat settings principal chatRequestId
    (acceptanceRequest target payload)
  pure (target, response)

def acceptanceFailed (exc : Exc) : AcceptanceStep (DeploymentAcceptanceTarget × LLMResponse) :=
  if exc.isException then do
    recordFailureAudit settings principal deploymentId requestId exc
    Action.throw exc
  else Action.throw exc

def runDeploymentAcceptanceTest : AcceptanceStep LLMDeploymentAcceptanceTestResponse := do
  let (target, response) ← Action.tryCatch
    (acceptanceBody settings principal deploymentId payload chatRequestId)
    (acceptanceFailed settings principal deploymentId requestId)
  let written : Except Fault Unit ← Action.perform
    (AcceptanceCall.commit (successAudit settings principal requestId target response))
  stored written
  pure (acceptanceResponse settings target response)

def acceptanceTest :
    Program AcceptanceCall AcceptanceAnswer (Except Exc LLMDeploymentAcceptanceTestResponse) :=
  (runDeploymentAcceptanceTest settings principal deploymentId payload requestId
    chatRequestId).run none

end

end AgentHive.Acceptance
