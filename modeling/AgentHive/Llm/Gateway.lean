import AgentHive.Llm.Adapters
import AgentHive.Llm.Budget

/-!
The gateway: policy, budget, router, adapter and usage record of one model
call, with the fallback over the planned routes.
-/

namespace AgentHive

open Process (Action)

structure Rendering where
  exc : Exc → String
  dict : Dict → String

structure LLMGateway where
  policies : List ModelPolicyRule := []
  policySession : Bool := true
  budget : BudgetGuard := {}
  router : ModelRouter
  render : Rendering

def LLMCallStatus.value : LLMCallStatus → String
  | .success => "success"
  | .error => "error"
  | .denied => "denied"
  | .budgetExceeded => "budget_exceeded"

/-- `route_attempt` with the keys every outcome has. -/
def routeAttempt (index : Nat) (route : RouteSelection) (status : LLMCallStatus) : RouteAttempt :=
  { attempt := index
    providerKey := route.provider.providerKey
    modelKey := route.deployment.modelKey
    deploymentId := route.deployment.id
    routingKey := route.deployment.routingKey
    status := status.value }

namespace UsageCollector

def successRecord (context : LLMRequestContext) (route : RouteSelection)
    (response : LLMResponse) : UsageRecord :=
  { requestId := context.requestId
    tenantId := context.tenantId
    status := .success
    providerKey := some route.provider.providerKey
    modelKey := some response.modelKey
    deploymentId := some route.deployment.id
    usage := response.usage
    metadata := Dict.merge [("route_reason", .str route.reason)] response.metadata }

def failureRecord (context : LLMRequestContext) (status : LLMCallStatus)
    (errorCode errorMessage : String) (route : Option RouteSelection) (metadata : Dict) :
    UsageRecord :=
  { requestId := context.requestId
    tenantId := context.tenantId
    status := status
    providerKey := route.map (·.provider.providerKey)
    modelKey := route.map (·.deployment.modelKey)
    deploymentId := route.map (·.deployment.id)
    errorCode := some errorCode
    errorMessage := some errorMessage
    metadata := metadata }

def connectionTestRecord (context : LLMRequestContext) (route : RouteSelection)
    (result : ConnectionTestResult) : UsageRecord :=
  { requestId := context.requestId
    tenantId := context.tenantId
    status := if result.ok then .success else .error
    providerKey := some route.provider.providerKey
    modelKey := if truthy result.modelKey then result.modelKey else some route.deployment.modelKey
    deploymentId := some route.deployment.id
    errorCode := if result.ok then none else some "connection_test_failed"
    errorMessage := if result.ok then none else some result.message
    metadata := [("operation", .str "test_connection"), ("latency_ms", .int result.latencyMs)]
    diagnostics := some result.diagnostics }

/-- `_append`: the record is kept, then its row is committed. -/
def append {σ : Type} (record : UsageRecord) (context : LLMRequestContext) : Step σ Unit := do
  let answer : Except Fault Unit ← Action.perform (Effect.recordUsage record context)
  Step.stored answer

end UsageCollector

namespace LLMGateway

open ModelPolicyEngine UsageCollector

variable {σ : Type}

/-- `policy.evaluate`: the cost center is looked up when a rule needs it and
the context does not carry it. -/
def evaluate (gateway : LLMGateway) (request : LLMChatRequest) (context : LLMRequestContext) :
    Step σ PolicyDecision :=
  if request.messages.isEmpty || context.costCenterId.isSome ||
      !(gateway.policies.any fun policy => policy.scopeType == .costCenter) ||
      !gateway.policySession || context.userId == none then
    pure (ModelPolicyEngine.evaluate gateway.policies request context none)
  else do
    let answer : Except Fault (Option UUID) ←
      Action.perform (Effect.resolveCostCenter context)
    let resolved ← Step.stored answer
    pure (ModelPolicyEngine.evaluate gateway.policies request context resolved)

def askOpen : List DeploymentConfig → Step σ (List (DeploymentConfig × Bool))
  | [] => pure []
  | d :: rest => do
    let opened : Bool ← Action.perform (Effect.isOpen d.id)
    let others ← askOpen rest
    pure ((d, opened) :: others)

def plan (gateway : LLMGateway) (request : LLMChatRequest) (decision : PolicyDecision) :
    Step σ (List RouteSelection) := do
  let found ← Action.ofExcept (gateway.router.candidates request decision)
  let flagged ← askOpen found
  Action.ofExcept (gateway.router.routesFrom request decision flagged)

def refuse {α : Type} (status : LLMCallStatus) (code : Nat) (errorCode reason message : String)
    (context : LLMRequestContext) (observed : Option ObservedCall) : Step σ α := do
  append (failureRecord context status errorCode reason none []) context
  match observed with
  | some call => Action.perform (Effect.observe call)
  | none => pure ()
  Action.throw (.http code (.text (message ++ reason)))

/-- The beginning of every entry point: the policy decision on the request,
and the reservation for the request it makes effective, kept by `hold`. Both
refusals name what was asked for, and `metrics` says whether they are counted. -/
def authorize (gateway : LLMGateway) (request : LLMChatRequest) (context : LLMRequestContext)
    (effective : PolicyDecision → LLMChatRequest) (subject : String) (metrics : Bool)
    (hold : BudgetReservation → σ → σ) : Step σ (PolicyDecision × BudgetReservation) := do
  let observed (modelKey : Option String) (status : LLMCallStatus) (code : String) :=
    if metrics then some (ObservedCall.mk none modelKey status (some code)) else none
  let decision ← gateway.evaluate request context
  if !decision.allowed then
    refuse .denied 403 "policy_denied" decision.reason ("LLM policy denied " ++ subject) context
      (observed request.modelKey .denied "policy_denied")
  else do
    let reservation ← gateway.budget.reserve (effective decision) context
    Action.modify (hold reservation)
    if !reservation.approved then
      refuse .budgetExceeded 402 "budget_exceeded" reservation.reason
        ("LLM budget denied " ++ subject) context
        (observed (effective decision).modelKey .budgetExceeded "budget_exceeded")
    else pure (decision, reservation)

def httpErrorCode (detail : HttpDetail) : String :=
  match detail with
  | .fields d =>
    match d.get "code" with
    | .str code => code
    | _ => "HTTPException"
  | .text _ => "HTTPException"

def httpErrorMessage (gateway : LLMGateway) (detail : HttpDetail) : String :=
  match detail with
  | .fields d =>
    match d.get "message" with
    | .str message => message
    | _ => gateway.render.dict d
  | .text s => s

def safeHttpDetail (lower : String → String) (detail : HttpDetail) : HttpDetail :=
  match detail with
  | .fields d =>
    .fields (d.filter fun entry =>
      !decide ("api_key".toList <:+: (lower entry.1).toList) &&
        !decide ("secret".toList <:+: (lower entry.1).toList))
  | .text s => .text s

def httpFailureRecord (gateway : LLMGateway) (context : LLMRequestContext) (code : Nat)
    (detail : HttpDetail) (route : Option RouteSelection) (operation : String) : UsageRecord :=
  { failureRecord context .error (httpErrorCode detail) (gateway.httpErrorMessage detail) route
      [("operation", .str operation), ("http_status", .int code)] with
    detail := some (safeHttpDetail gateway.budget.pricing.lower detail) }

/-- `_record_http_failure`; the exceptions it is given are `HTTPException`s. -/
def recordHttpFailure (gateway : LLMGateway) (context : LLMRequestContext) (exc : Exc)
    (route : Option RouteSelection) (operation : String) : Step σ Unit :=
  match exc with
  | .http code detail =>
    append (gateway.httpFailureRecord context code detail route operation) context
  | _ => pure ()

def releaseHeld (gateway : LLMGateway) (reservation : Option BudgetReservation)
    (context : LLMRequestContext) (reason : String) : Step σ Unit :=
  match reservation with
  | some held => gateway.budget.release held context reason
  | none => pure ()

def recordUnless (recorded : Bool) (row : Step σ Unit) : Step σ Unit :=
  if recorded then pure () else row

def failedCall (route : Option RouteSelection) (request : LLMChatRequest) (exc : Exc) :
    ObservedCall :=
  { providerKey := route.map (·.provider.providerKey)
    modelKey := match route with
      | some route => some route.deployment.modelKey
      | none => request.modelKey
    status := .error
    errorCode := some exc.className }

structure ChatLocals where
  route : Option RouteSelection := none
  reservation : Option BudgetReservation := none
  budgetReserved : Bool := false
  routeErrorRecorded : Bool := false
  routeAttempts : List RouteAttempt := []
  lastError : Option Exc := none

def enrich (gateway : LLMGateway) (response : LLMResponse) (usage : LLMUsageMetrics)
    (attempts : List RouteAttempt) (index : Nat) (route : RouteSelection) : LLMResponse :=
  { response with
    usage := usage
    metadata := response.metadata.merge
      [("route_attempts", .attempts attempts), ("fallback_attempt_count", .int (index - 1)),
        ("selected_route_reason", .str route.reason),
        ("pricing_rule",
          .str (gateway.budget.pricing.priceRuleFor (some response.modelKey)).pattern)] }

/-- What follows an answer of the provider inside the `try` block. -/
def settleChat (gateway : LLMGateway) (reservation : BudgetReservation)
    (context : LLMRequestContext) (index : Nat) (route : RouteSelection)
    (response : LLMResponse) : Step ChatLocals LLMResponse := do
  Action.modify fun s =>
    { s with routeAttempts := s.routeAttempts ++ [routeAttempt index route .success] }
  let s ← Action.get
  let usage ← Action.ofExcept
    (gateway.budget.pricing.recalculateUsage response.usage (some response.modelKey))
  let enriched := gateway.enrich response usage s.routeAttempts index route
  gateway.budget.settle reservation enriched.usage context
  append (successRecord context route enriched) context
  Action.perform (Effect.observe
    { providerKey := some route.provider.providerKey
      modelKey := some enriched.modelKey
      status := .success })
  pure enriched

def chatAttempt (gateway : LLMGateway) (request : LLMChatRequest) (context : LLMRequestContext)
    (reservation : BudgetReservation) (index : Nat) (route : RouteSelection) :
    Step ChatLocals LLMResponse := do
  let _ ← Action.ofExcept (adapterFor route)
  let answer : Except Exc LLMResponse ←
    Action.perform (Effect.adapterChat route request context)
  let response ← Action.ofExcept answer
  Action.perform (Effect.recordSuccess route.deployment.id)
  gateway.settleChat reservation context index route response

def chatFailureRecord (gateway : LLMGateway) (context : LLMRequestContext) (index total : Nat)
    (route : RouteSelection) (attempts : List RouteAttempt) (exc : Exc) : UsageRecord :=
  failureRecord context .error exc.className (gateway.render.exc exc) (some route)
    [("operation", .str "chat"), ("fallback_attempt", .bool (index != total)),
      ("attempt", .int index), ("total_candidates", .int total),
      ("route_attempts", .attempts attempts)]

def chatAttemptFailed (gateway : LLMGateway) (context : LLMRequestContext)
    (reservation : BudgetReservation) (index total : Nat) (route : RouteSelection) (exc : Exc) :
    Step ChatLocals Unit := do
  Action.modify fun s => { s with lastError := some exc }
  Action.perform (Effect.recordFailure route.deployment.id exc.className)
  Action.modify fun s =>
    { s with routeAttempts := s.routeAttempts ++ [{ routeAttempt index route .error with
        errorCode := some exc.className, errorMessage := some (gateway.render.exc exc) }] }
  let s ← Action.get
  append (gateway.chatFailureRecord context index total route s.routeAttempts exc) context
  if index == total then do
    Action.modify fun s => { s with routeErrorRecorded := true }
    gateway.budget.release reservation context "adapter_exception"
    Action.modify fun s => { s with reservation := none }
    Action.throw exc
  else pure ()

def chatRoutes (gateway : LLMGateway) (request : LLMChatRequest) (context : LLMRequestContext)
    (reservation : BudgetReservation) (total : Nat) :
    Nat → List RouteSelection → Step ChatLocals LLMResponse
  | _, [] => do
    let s ← Action.get
    match s.lastError with
    | some exc => Action.throw exc
    | none =>
      Action.throw (.http 404 (.text "No usable LLM deployment matched the request."))
  | index, route :: rest => do
    Action.modify fun s => { s with route := some route }
    let answered ← Action.tryCatch
      (some <$> gateway.chatAttempt request context reservation index route)
      fun exc =>
        if exc.isException then do
          gateway.chatAttemptFailed context reservation index total route exc
          pure none
        else Action.throw exc
    match answered with
    | some response => pure response
    | none => gateway.chatRoutes request context reservation total (index + 1) rest

def chatBody (gateway : LLMGateway) (request : LLMChatRequest) (context : LLMRequestContext) :
    Step ChatLocals LLMResponse := do
  let (decision, reservation) ← gateway.authorize request context (effectiveRequest request)
    "request: " true fun held s => { s with reservation := some held }
  let effective := effectiveRequest request decision
  Action.modify fun s => { s with budgetReserved := true }
  let routes ← gateway.plan effective decision
  gateway.chatRoutes effective context reservation routes.length 1 routes

def chatHttpHandler (gateway : LLMGateway) (request : LLMChatRequest)
    (context : LLMRequestContext) (exc : Exc) : Step ChatLocals LLMResponse := do
  let s ← Action.get
  recordUnless (!s.budgetReserved || s.routeErrorRecorded)
    (gateway.recordHttpFailure context exc s.route "route_planning")
  Action.modify fun s =>
    { s with routeErrorRecorded := s.budgetReserved || s.routeErrorRecorded }
  gateway.releaseHeld s.reservation context "http_exception"
  Action.perform (Effect.observe (failedCall s.route request exc))
  Action.throw exc

def chatExceptionHandler (gateway : LLMGateway) (request : LLMChatRequest)
    (context : LLMRequestContext) (exc : Exc) : Step ChatLocals LLMResponse := do
  let s ← Action.get
  gateway.releaseHeld s.reservation context "adapter_exception"
  recordUnless s.routeErrorRecorded
    (append (failureRecord context .error exc.className (gateway.render.exc exc) s.route [])
      context)
  Action.perform (Effect.observe (failedCall s.route request exc))
  Action.throw exc

def chatHandler (gateway : LLMGateway) (request : LLMChatRequest)
    (context : LLMRequestContext) (exc : Exc) : Step ChatLocals LLMResponse :=
  if exc.isHttp then gateway.chatHttpHandler request context exc
  else if exc.isException then gateway.chatExceptionHandler request context exc
  else Action.throw exc

def chat (gateway : LLMGateway) (request : LLMChatRequest) (context : LLMRequestContext) :
    Process.Program Effect Answer (Except Exc LLMResponse) :=
  Action.run (Action.tryCatch (gateway.chatBody request context)
    (gateway.chatHandler request context)) {}

end LLMGateway
end AgentHive
