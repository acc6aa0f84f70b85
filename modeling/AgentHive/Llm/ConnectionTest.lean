import AgentHive.Llm.Gateway

/-!
`test_connection`: probing the deployments of a provider, one deployment, or
the planned routes, with a temporary configuration where one is given.
-/

namespace AgentHive

open Process (Action)

structure ConnectionLocals where
  route : Option RouteSelection := none
  reservation : Option BudgetReservation := none
  budgetReserved : Bool := false
  routeErrorRecorded : Bool := false
  routeAttempts : List RouteAttempt := []
  lastResult : Option ConnectionTestResult := none
  lastError : Option Exc := none

namespace LLMGateway

open UsageCollector

def connectionTestIsExplicit (request : ConnectionTestRequest) : Bool :=
  request.deploymentId.isSome || request.providerKey.isSome

def hasTemporaryConnectionConfig (request : ConnectionTestRequest) : Bool :=
  truthy request.apiKey || truthy request.baseUrl || request.adapterType.isSome ||
    truthy request.modelKey

/-- `_temporary_connection_route`; `freshId` is the id of a deployment made up
when there is none. -/
def temporaryConnectionRoute (request : ConnectionTestRequest) (provider : ProviderConfig)
    (deployment : Option DeploymentConfig) (freshId : UUID) : RouteSelection :=
  let adapterType := request.adapterType.getD provider.adapterType
  let apiKey : PyValue :=
    if truthy request.apiKey then .ofOption request.apiKey else provider.metadata.get "api_key"
  { provider := { provider with
      adapterType := adapterType
      baseUrl := pyOr request.baseUrl provider.baseUrl
      credentialConfigured := truthy request.apiKey || provider.credentialConfigured
      metadata := provider.metadata.merge
        [("api_key", apiKey), ("temporary_connection_test", .bool true)] }
    deployment :=
      match deployment with
      | some d =>
        let modelKey := if truthy request.modelKey then request.modelKey.getD "" else d.modelKey
        { d with
          adapterType := adapterType
          modelKey := modelKey
          displayName := modelKey
          baseUrl := pyOr request.baseUrl d.baseUrl
          config := d.config.merge
            [("mock", if truthy request.apiKey || truthy request.baseUrl then .bool false
                else (d.config.lookup "mock").getD (.bool false)),
              ("temporary_connection_test", .bool true)] }
      | none =>
        let modelKey :=
          if truthy request.modelKey then request.modelKey.getD "" else "chat-model"
        { id := freshId
          providerKey := provider.providerKey
          providerName := provider.name
          adapterType := adapterType
          modelKey := modelKey
          displayName := modelKey
          deploymentName := "Temporary Connection Test"
          routingKey := provider.providerKey ++ "-temporary-test"
          baseUrl := pyOr request.baseUrl provider.baseUrl
          config := [("mock", .bool false), ("temporary_connection_test", .bool true)] }
    reason := "temporary_connection_test" }

def byPriority (deployments : List DeploymentConfig) : List DeploymentConfig :=
  deployments.insertionSort fun d e => d.priority ≤ e.priority

def providerRoutes (gateway : LLMGateway) (providerKey : String) : List RouteSelection :=
  gateway.router.routesOver "test_connection"
    (byPriority (gateway.router.deployments.filter (·.providerKey == providerKey)))

def deploymentRoutes (gateway : LLMGateway) (request : ConnectionTestRequest)
    (deploymentId : UUID) : Except Exc (List RouteSelection) :=
  match gateway.router.deployments.find? (·.id == deploymentId) with
  | none => .error (.http 404 (.text "LLM deployment not found."))
  | some deployment =>
    match gateway.router.provider deployment.providerKey with
    | none => .error (.other "KeyError" deployment.providerKey)
    | some provider =>
      if hasTemporaryConnectionConfig request then
        .ok [temporaryConnectionRoute request provider (some deployment) deployment.id]
      else .ok [{ deployment := deployment, provider := provider, reason := "test_connection" }]

def routesForConnectionTest (gateway : LLMGateway) (request : ConnectionTestRequest)
    (decision : PolicyDecision) (chatRequest : LLMChatRequest) :
    Step ConnectionLocals (List RouteSelection) :=
  match request.deploymentId with
  | some deploymentId => Action.ofExcept (gateway.deploymentRoutes request deploymentId)
  | none =>
    let key := request.providerKey.getD ""
    let requested := gateway.router.provider key
    if truthy request.providerKey then
      match requested, hasTemporaryConnectionConfig request with
      | some provider, true =>
        match byPriority (gateway.router.deployments.filter (·.providerKey == key)) with
        | deployment :: _ =>
          pure [temporaryConnectionRoute request provider (some deployment) deployment.id]
        | [] => do
          let freshId : UUID ← Action.perform Effect.newDeploymentId
          pure [temporaryConnectionRoute request provider none freshId]
      | _, _ =>
        if (gateway.providerRoutes key).isEmpty then gateway.plan chatRequest decision
        else pure (gateway.providerRoutes key)
    else gateway.plan chatRequest decision

def probeAttempt (index : Nat) (route : RouteSelection) (result : ConnectionTestResult) :
    RouteAttempt :=
  { routeAttempt index route (if result.ok then .success else .error) with
    message := some result.message
    latencyMs := some result.latencyMs }

def enrichResult (result : ConnectionTestResult) (attempts : List RouteAttempt) (index : Nat)
    (route : RouteSelection) : ConnectionTestResult :=
  { result with
    diagnostics := result.diagnostics.merge
      [("route_attempts", .attempts attempts), ("fallback_attempt_count", .int (index - 1)),
        ("selected_route_reason", .str route.reason)] }

def reportProbe {σ : Type} (route : RouteSelection) (result : ConnectionTestResult) : Step σ Unit :=
  if result.ok then Action.perform (Effect.recordSuccess route.deployment.id)
  else Action.perform (Effect.recordFailure route.deployment.id "connection_test_failed")

def connectionAttempt (gateway : LLMGateway) (request : ConnectionTestRequest)
    (context : LLMRequestContext) (reservation : BudgetReservation) (index : Nat)
    (route : RouteSelection) : Step ConnectionLocals (Option ConnectionTestResult) := do
  let _ ← Action.ofExcept (adapterFor route)
  let answer : Except Exc ConnectionTestResult ←
    Action.perform (Effect.adapterTest route request)
  let result ← Action.ofExcept answer
  Action.modify fun s => { s with lastResult := some result }
  reportProbe route result
  Action.modify fun s =>
    { s with routeAttempts := s.routeAttempts ++ [probeAttempt index route result] }
  let s ← Action.get
  let enriched := enrichResult result s.routeAttempts index route
  append (connectionTestRecord context route enriched) context
  if result.ok || connectionTestIsExplicit request then do
    gateway.budget.release reservation context "connection_test"
    pure (some enriched)
  else pure none

def connectionFailureRecord (gateway : LLMGateway) (context : LLMRequestContext)
    (index total : Nat) (route : RouteSelection) (attempts : List RouteAttempt) (exc : Exc) :
    UsageRecord :=
  failureRecord context .error exc.className (gateway.render.exc exc) (some route)
    [("operation", .str "test_connection"), ("fallback_attempt", .bool (index != total)),
      ("attempt", .int index), ("total_candidates", .int total),
      ("route_attempts", .attempts attempts)]

def connectionAttemptFailed (gateway : LLMGateway) (request : ConnectionTestRequest)
    (context : LLMRequestContext) (reservation : BudgetReservation) (index total : Nat)
    (route : RouteSelection) (exc : Exc) : Step ConnectionLocals Unit := do
  Action.modify fun s => { s with lastError := some exc }
  Action.perform (Effect.recordFailure route.deployment.id exc.className)
  Action.modify fun s =>
    { s with routeAttempts := s.routeAttempts ++ [{ routeAttempt index route .error with
        errorCode := some exc.className, errorMessage := some (gateway.render.exc exc) }] }
  let s ← Action.get
  append (gateway.connectionFailureRecord context index total route s.routeAttempts exc) context
  if connectionTestIsExplicit request || index == total then do
    Action.modify fun s => { s with routeErrorRecorded := true }
    gateway.budget.release reservation context "adapter_exception"
    Action.modify fun s => { s with reservation := none }
    Action.throw exc
  else pure ()

def allFailedResult (result : ConnectionTestResult) (attempts : List RouteAttempt) :
    ConnectionTestResult :=
  { result with
    diagnostics := result.diagnostics.merge
      [("route_attempts", .attempts attempts),
        ("fallback_attempt_count", .int (max 0 ((attempts.length : Int) - 1))),
        ("all_candidates_failed", .bool true)] }

def connectionRoutes (gateway : LLMGateway) (request : ConnectionTestRequest)
    (context : LLMRequestContext) (reservation : BudgetReservation) (total : Nat) :
    Nat → List RouteSelection → Step ConnectionLocals ConnectionTestResult
  | _, [] => do
    let s ← Action.get
    match s.lastResult, s.lastError with
    | some result, _ => do
      gateway.budget.release reservation context "connection_test"
      pure (allFailedResult result s.routeAttempts)
    | none, some exc => Action.throw exc
    | none, none =>
      Action.throw
        (.http 404 (.text "No usable LLM deployment matched the connection test."))
  | index, route :: rest => do
    Action.modify fun s => { s with route := some route }
    let answered ← Action.tryCatch
      (gateway.connectionAttempt request context reservation index route)
      fun exc =>
        if exc.isException then do
          gateway.connectionAttemptFailed request context reservation index total route exc
          pure none
        else Action.throw exc
    match answered with
    | some result => pure result
    | none => gateway.connectionRoutes request context reservation total (index + 1) rest

def pingRequest (request : ConnectionTestRequest) : LLMChatRequest :=
  { modelKey := request.modelKey
    messages := [{ role := "user", content := "ping" }]
    maxTokens := some 1 }

def connectionBody (gateway : LLMGateway) (request : ConnectionTestRequest)
    (context : LLMRequestContext) : Step ConnectionLocals ConnectionTestResult := do
  let chatRequest := pingRequest request
  let (decision, reservation) ← gateway.authorize chatRequest context (fun _ => chatRequest)
    "connection test: " false fun held s => { s with reservation := some held }
  Action.modify fun s => { s with budgetReserved := true }
  let routes ← gateway.routesForConnectionTest request decision chatRequest
  gateway.connectionRoutes request context reservation routes.length 1 routes

def connectionHttpHandler (gateway : LLMGateway) (context : LLMRequestContext) (exc : Exc) :
    Step ConnectionLocals ConnectionTestResult := do
  let s ← Action.get
  recordUnless (!s.budgetReserved || s.routeErrorRecorded)
    (gateway.recordHttpFailure context exc s.route "connection_route_planning")
  Action.modify fun s =>
    { s with routeErrorRecorded := s.budgetReserved || s.routeErrorRecorded }
  gateway.releaseHeld s.reservation context "http_exception"
  Action.throw exc

def connectionExceptionHandler (gateway : LLMGateway) (context : LLMRequestContext)
    (exc : Exc) : Step ConnectionLocals ConnectionTestResult := do
  let s ← Action.get
  gateway.releaseHeld s.reservation context "adapter_exception"
  recordUnless s.routeErrorRecorded
    (append (failureRecord context .error exc.className (gateway.render.exc exc) s.route [])
      context)
  Action.throw exc

def connectionHandler (gateway : LLMGateway) (context : LLMRequestContext) (exc : Exc) :
    Step ConnectionLocals ConnectionTestResult :=
  if exc.isHttp then gateway.connectionHttpHandler context exc
  else if exc.isException then gateway.connectionExceptionHandler context exc
  else Action.throw exc

def testConnection (gateway : LLMGateway) (request : ConnectionTestRequest)
    (context : LLMRequestContext) :
    Process.Program Effect Answer (Except Exc ConnectionTestResult) :=
  Action.run (Action.tryCatch (gateway.connectionBody request context)
    (gateway.connectionHandler context)) {}

end LLMGateway
end AgentHive
