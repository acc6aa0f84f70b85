import AgentHive.Llm.AcceptanceRuns

/-!
Which deployment a passed acceptance test has gone through.

With the catalog of the tenant the routing key leads to the target alone. The built-in catalog has
deployments of its own under the same keys.
-/

namespace AgentHive.Acceptance

open Process (Action Program)
open Process.Fallible (bind_ok map_of_mapM)
open LLMGateway
open Process.Action (wp_bind wp_iff_runs wp_modify wp_mono wp_ofExcept wp_perform wp_pure wp_run
  wp_tryCatch)
open List (append_nil forall_mem_append mem_cons_self nil_append)

def World.Fits (world : World) : AcceptanceEvent → Prop
  | ⟨.readTarget, r⟩ => ∀ tables, r = .ok tables → tables = world.tables
  | ⟨.readCatalog, r⟩ => ∀ tables, r = .ok tables → tables = world.tables
  | ⟨.gateway effect, r⟩ => world.Told ⟨effect, r⟩
  | _ => True

def gatewayEvent : AcceptanceEvent → Option CallEvent
  | ⟨.gateway effect, r⟩ => some ⟨effect, r⟩
  | _ => none

def gatewayTrace (t : List AcceptanceEvent) : Trace := t.filterMap gatewayEvent

def asked (e : CallEvent) : AcceptanceEvent := ⟨.gateway e.1, e.2⟩

theorem gatewayTrace_asked (t : Trace) : gatewayTrace (t.map asked) = t := by
  rw [gatewayTrace, List.filterMap_map]
  exact List.filterMap_some

theorem wp_handle {α : Type} (chat : Program Effect Answer α)
    (Q : List AcceptanceEvent → α → Prop) :
    (chat.handle askGateway).wp Q ↔ chat.wp fun t a => Q (t.map asked) a := by
  induction chat generalizing Q with
  | ret a => rfl
  | call e k ih => exact forall_congr' fun r => ih r _

theorem throughGateway_wp {α : Type} (chat : Program Effect Answer α)
    (target : Option DeploymentAcceptanceTarget)
    (Q : List AcceptanceEvent → Except Exc α → Option DeploymentAcceptanceTarget → Prop) :
    (throughGateway chat).wp target Q ↔ chat.wp fun t a => Q (t.map asked) (.ok a) target := by
  change ((chat.handle askGateway).bind _).wp _ ↔ _
  rw [Program.wp_bind, wp_handle]
  simp only [Program.wp, append_nil]

structure Evidence (settings : GatewaySettings) (index : Nat) (route : RouteSelection)
    (answer : LLMResponse) (row : AcceptanceAudit)
    (report : LLMDeploymentAcceptanceTestResponse) : Prop where
  content : report.contentPreview = firstChars 240 answer.content
  latency : row.details.latencyMs = (routeAttempt index route .success).latencyMs
  mock : row.details.mock = optionalBool settings.normalized (answer.metadata.get "mock")
  live : row.details.liveNetworkCall =
    optionalBool settings.normalized (answer.metadata.get "live_network_call")
  reportedMock : report.mock = row.details.mock
  reportedLive : report.liveNetworkCall = row.details.liveNetworkCall

def WentThrough (settings : GatewaySettings) (deploymentId : UUID) (t : List AcceptanceEvent)
    (report : LLMDeploymentAcceptanceTestResponse) : Prop :=
  ∃ index route answer row, lastAnswer (gatewayTrace t) = some (route, answer) ∧
    route.deployment.id = deploymentId ∧ ⟨.commit row, .ok ()⟩ ∈ t ∧ row.status = "success" ∧
    Evidence settings index route answer row report

section

variable (settings : GatewaySettings) (world : World) (principal : Principal) (deploymentId : UUID)
  (payload : LLMDeploymentAcceptanceTestRequest) (requestId : Option String)
  (chatRequestId : String)

def OnlyTargetAnswers : Prop :=
  ∀ target gateway,
    getAcceptanceTarget settings world.tables principal.tenantId deploymentId = .ok target →
    buildGateway settings world.tables principal = .ok gateway →
    let request := acceptanceRequest target payload
    let context := acceptanceContext principal chatRequestId
    ∀ route ∈ world.plannedRoutes gateway request context,
      world.Answers gateway (world.sent gateway request context) context route →
      route.deployment.id = deploymentId

variable {settings world principal deploymentId payload requestId chatRequestId}

theorem evidence_of_madeOf {gateway : LLMGateway} {route : RouteSelection}
    {answer response : LLMResponse} (made : MadeOf gateway route answer response)
    (target : DeploymentAcceptanceTarget) (index : Nat) :
    Evidence settings index route answer (successAudit settings principal requestId target response)
      (acceptanceResponse settings target response) := by
  obtain ⟨attempts, recorded, untimed⟩ := made.untimed
  have selected : ∀ attempt, selectedRouteAttempt
      (summarizeRouteAttempts (response.metadata.get "route_attempts")) target.deploymentId =
        some attempt →
      attempt.latencyMs = none ∧ attempt.mock = .none ∧ attempt.liveNetworkCall = .none := by
    intro attempt found
    have mem := List.mem_of_find?_eq_some found
    rw [recorded, summarizeRouteAttempts, List.mem_map] at mem
    obtain ⟨item, inFirst, rfl⟩ := mem
    exact ⟨untimed item (List.mem_of_mem_take inFirst), rfl, rfl⟩
  refine ⟨congrArg (firstChars 240) made.content, ?_, ?_, ?_, rfl, rfl⟩
  · change (selectedRouteAttempt _ _).bind (·.latencyMs) = none
    cases found : selectedRouteAttempt
      (summarizeRouteAttempts (response.metadata.get "route_attempts")) target.deploymentId with
    | none => rfl
    | some attempt => exact (selected attempt found).1
  · change mockOf _ _ (selectedRouteAttempt _ _) = _
    rw [← made.mock]
    cases found : selectedRouteAttempt
      (summarizeRouteAttempts (response.metadata.get "route_attempts")) target.deploymentId with
    | none => rfl
    | some attempt => rw [mockOf, if_pos (selected attempt found).2.1]
  · change liveNetworkCallOf _ _ (selectedRouteAttempt _ _) = _
    rw [← made.live]
    cases found : selectedRouteAttempt
      (summarizeRouteAttempts (response.metadata.get "route_attempts")) target.deploymentId with
    | none => rfl
    | some attempt =>
      rw [liveNetworkCallOf, (selected attempt found).2.2]
      rfl

theorem stored_wp {α : Type} (answer : Except Fault α) (target : Option DeploymentAcceptanceTarget)
    (Q : List AcceptanceEvent → Except Exc α → Option DeploymentAcceptanceTarget → Prop) :
    (stored answer : AcceptanceStep α).wp target Q ↔
      Q [] (answer.mapError Fault.toExc) target := by
  cases answer <;> rfl

theorem gatewayTrace_append (t u : List AcceptanceEvent) :
    gatewayTrace (t ++ u) = gatewayTrace t ++ gatewayTrace u :=
  List.filterMap_append

theorem resolveTarget_found (world : World) (s : Option DeploymentAcceptanceTarget) :
    (resolveTarget settings principal deploymentId).wp s fun t r _ =>
      gatewayTrace t = [] ∧ ((∀ e ∈ t, world.Fits e) → ∀ target, r = .ok target →
        getAcceptanceTarget settings world.tables principal.tenantId deploymentId = .ok target) := by
  simp only [resolveTarget, wp_bind, wp_perform, stored_wp]
  intro answer
  cases answer with
  | error f =>
    refine ⟨rfl, fun _ target failed => ?_⟩
    cases failed
  | ok tables =>
    simp only [Except.mapError, wp_ofExcept]
    refine ⟨rfl, fun fits target found => ?_⟩
    have same : tables = world.tables := fits _ mem_cons_self tables rfl
    rw [← same, found]

def Served (settings : GatewaySettings) (world : World) (principal : Principal)
    (chatRequestId : String) (request : LLMChatRequest) (t : Trace) (response : LLMResponse) :
    Prop :=
  ∃ gateway, buildGateway settings world.tables principal = .ok gateway ∧
    let context := acceptanceContext principal chatRequestId
    ∃ route ∈ world.plannedRoutes gateway request context, ∃ answer,
      world.Answers gateway (world.sent gateway request context) context route ∧
      lastAnswer t = some (route, answer) ∧ MadeOf gateway route answer response

theorem runGatewayChat_answers (world : World) (request : LLMChatRequest)
    (s : Option DeploymentAcceptanceTarget) :
    (runGatewayChat settings principal chatRequestId request).wp s fun t r _ =>
      (∀ e ∈ t, world.Fits e) → ∀ response, r = .ok response →
        Served settings world principal chatRequestId request (gatewayTrace t) response := by
  simp only [runGatewayChat, wp_bind, wp_perform, stored_wp]
  intro answer
  cases answer with
  | error f =>
    intro _ response failed
    cases failed
  | ok tables =>
    simp only [Except.mapError, wp_ofExcept]
    cases built : buildGateway settings tables principal with
    | error x =>
      intro _ response failed
      cases failed
    | ok gateway =>
      refine (throughGateway_wp _ _ _).mpr (Program.wp_mono (chat_answers world) ?_)
      intro t r answers
      simp only [append_nil, nil_append]
      intro fits response same
      obtain ⟨first, rest⟩ := forall_mem_append.mp fits
      have known : tables = world.tables := first _ mem_cons_self tables rfl
      have told : ∀ e ∈ t, world.Told e := fun e mem => rest _ (List.mem_map_of_mem mem)
      obtain ⟨route, planned, answer, answered, last, made⟩ := answers told response same
      refine ⟨gateway, known ▸ built, route, planned, answer, answered, ?_, made⟩
      rw [gatewayTrace_append, gatewayTrace_asked]
      exact lastAnswer_append last

theorem acceptanceFailed_raises (x : Exc) (s : Option DeploymentAcceptanceTarget) :
    (acceptanceFailed settings principal deploymentId requestId x).wp s
      fun _ r _ => ∃ y, r = .error y := by
  simp only [acceptanceFailed, Action.wp_ite, wp_bind]
  split
  · refine (wp_iff_runs _ _ _).mpr fun t r _ => ?_
    cases r.1 with
    | error y => exact ⟨y, rfl⟩
    | ok done => exact ⟨x, rfl⟩
  · exact ⟨x, rfl⟩

theorem acceptanceTest_answers (world : World) :
    (acceptanceTest settings principal deploymentId payload requestId chatRequestId).wp fun t r =>
      (∀ e ∈ t, world.Fits e) → ∀ report, r = .ok report → ∃ target response,
        getAcceptanceTarget settings world.tables principal.tenantId deploymentId = .ok target ∧
        Served settings world principal chatRequestId (acceptanceRequest target payload)
          (gatewayTrace t) response ∧
        ⟨.commit (successAudit settings principal requestId target response), .ok ()⟩ ∈ t ∧
        report = acceptanceResponse settings target response := by
  simp only [acceptanceTest, wp_run, runDeploymentAcceptanceTest, wp_bind,
    wp_tryCatch, acceptanceBody]
  refine wp_mono (resolveTarget_found world none) ?_
  intro t r s h
  obtain ⟨quiet, found⟩ := h
  cases r with
  | error x =>
    refine wp_mono (acceptanceFailed_raises x s) ?_
    intro u r s' h
    obtain ⟨y, rfl⟩ := h
    intro _ report failed
    cases failed
  | ok target =>
    simp only [wp_modify]
    refine wp_mono (runGatewayChat_answers world _ _) ?_
    intro u r s' served
    cases r with
    | error x =>
      refine wp_mono (acceptanceFailed_raises x s') ?_
      intro v r s'' h
      obtain ⟨y, rfl⟩ := h
      intro _ report failed
      cases failed
    | ok response =>
      simp only [wp_pure, wp_perform, stored_wp]
      intro written
      cases written with
      | error f =>
        intro _ report failed
        cases failed
      | ok done =>
        simp only [Except.mapError]
        intro fits report same
        cases same
        simp only [append_nil, nil_append] at fits ⊢
        obtain ⟨before, _⟩ := forall_mem_append.mp fits
        obtain ⟨first, second⟩ := forall_mem_append.mp before
        have calls : gatewayTrace (t ++ u ++ [⟨AcceptanceCall.commit
            (successAudit settings principal requestId target response), .ok done⟩]) =
            gatewayTrace u := by
          rw [gatewayTrace_append, gatewayTrace_append, quiet, nil_append]
          exact append_nil _
        rw [calls]
        exact ⟨target, response, found first target rfl, served second response rfl,
          List.mem_append_right _ mem_cons_self, rfl⟩

def World.testOracle (world : World) (lost : UUID) : (e : AcceptanceCall) → AcceptanceAnswer e
  | .readTarget => .ok world.tables
  | .readCatalog => .ok world.tables
  | .gateway effect => world.oracle lost effect
  | .rollback => .ok ()
  | .commit _ => .ok ()

theorem fits_testOracle (world : World) (lost : UUID) (e : AcceptanceCall) :
    world.Fits ⟨e, world.testOracle lost e⟩ := by
  cases e with
  | readTarget => exact fun tables same => (Except.ok.inj same).symm
  | readCatalog => exact fun tables same => (Except.ok.inj same).symm
  | gateway effect =>
    have steady : Steady world lost [⟨effect, world.oracle lost effect⟩] :=
      List.forall_mem_singleton.mpr rfl
    exact steady.told _ mem_cons_self
  | rollback => trivial
  | commit row => trivial

def SteadyTest (world : World) (lost : UUID) (t : List AcceptanceEvent) : Prop :=
  ∀ e ∈ t, e.2 = world.testOracle lost e.1

theorem SteadyTest.append {world : World} {lost : UUID} {t u : List AcceptanceEvent} :
    SteadyTest world lost (t ++ u) ↔ SteadyTest world lost t ∧ SteadyTest world lost u :=
  forall_mem_append

theorem SteadyTest.asked {world : World} {lost : UUID} {t : Trace}
    (steady : SteadyTest world lost (t.map asked)) : Steady world lost t :=
  fun _ mem => steady _ (List.mem_map_of_mem mem)

section Passing

variable {lost : UUID} {target : DeploymentAcceptanceTarget} {gateway : LLMGateway}
  {route : RouteSelection}

theorem resolveTarget_returns (lost : UUID)
    (found : getAcceptanceTarget settings world.tables principal.tenantId deploymentId =
      .ok target) (s : Option DeploymentAcceptanceTarget) :
    (resolveTarget settings principal deploymentId).wp s fun t r _ =>
      SteadyTest world lost t → r = .ok target := by
  simp only [resolveTarget, wp_bind, wp_perform, stored_wp]
  intro answer
  cases answer with
  | error f =>
    intro steady
    cases steady _ mem_cons_self
  | ok tables =>
    simp only [Except.mapError, wp_ofExcept]
    intro steady
    have same : tables = world.tables := Except.ok.inj (steady _ mem_cons_self)
    rw [same, found]

theorem runGatewayChat_returns {request : LLMChatRequest}
    (built : buildGateway settings world.tables principal = .ok gateway)
    (planned : route ∈ world.plannedRoutes gateway request
      (acceptanceContext principal chatRequestId))
    (answers : world.Answers gateway
      (world.sent gateway request (acceptanceContext principal chatRequestId))
      (acceptanceContext principal chatRequestId) route)
    (apart : route.deployment.id ≠ lost) (s : Option DeploymentAcceptanceTarget) :
    (runGatewayChat settings principal chatRequestId request).wp s fun t r _ =>
      SteadyTest world lost t → ∃ response route answer, r = .ok response ∧
        lastAnswer (gatewayTrace t) = some (route, answer) ∧ route.deployment.id ≠ lost := by
  simp only [runGatewayChat, wp_bind, wp_perform, stored_wp]
  intro answer
  cases answer with
  | error f =>
    intro steady
    cases steady _ mem_cons_self
  | ok tables =>
    simp only [Except.mapError, wp_ofExcept]
    cases opened : buildGateway settings tables principal with
    | error x =>
      intro steady
      have same : tables = world.tables := Except.ok.inj (steady _ mem_cons_self)
      rw [same, built] at opened
      cases opened
    | ok found =>
      refine (throughGateway_wp _ _ _).mpr ((Program.wp_iff_runs _ _).mpr fun t r run => ?_)
      simp only [append_nil, nil_append]
      intro steady
      obtain ⟨first, rest⟩ := SteadyTest.append.mp steady
      have same : tables = world.tables := Except.ok.inj (first _ mem_cons_self)
      rw [same, built] at opened
      cases opened
      obtain ⟨response, other, answer, ok, last, differs⟩ :=
        (Program.wp_iff_runs _ _).mp (chat_returns planned answers apart) t r run rest.asked
      refine ⟨response, other, answer, ok, ?_, differs⟩
      rw [gatewayTrace_append, gatewayTrace_asked]
      exact lastAnswer_append last

variable (found : getAcceptanceTarget settings world.tables principal.tenantId deploymentId =
    .ok target)
  (built : buildGateway settings world.tables principal = .ok gateway)
  (planned : route ∈ world.plannedRoutes gateway (acceptanceRequest target payload)
    (acceptanceContext principal chatRequestId))
  (answers : world.Answers gateway (world.sent gateway (acceptanceRequest target payload)
    (acceptanceContext principal chatRequestId)) (acceptanceContext principal chatRequestId) route)
  (apart : route.deployment.id ≠ lost)

include found built planned answers apart

theorem test_returns :
    (acceptanceTest settings principal deploymentId payload requestId chatRequestId).wp fun t r =>
      SteadyTest world lost t → ∃ report route answer, r = .ok report ∧
        lastAnswer (gatewayTrace t) = some (route, answer) ∧ route.deployment.id ≠ lost := by
  simp only [acceptanceTest, wp_run, runDeploymentAcceptanceTest, wp_bind,
    wp_tryCatch, acceptanceBody]
  refine wp_mono (resolveTarget_returns lost found none) ?_
  intro t r s returns
  cases r with
  | error x =>
    refine wp_mono (acceptanceFailed_raises x s) ?_
    intro u r s' h
    obtain ⟨y, rfl⟩ := h
    intro steady
    cases returns (SteadyTest.append.mp steady).1
  | ok resolved =>
    simp only [wp_modify]
    refine (wp_iff_runs _ _ _).mpr fun u r run => ?_
    obtain ⟨r, s'⟩ := r
    have served : SteadyTest world lost t → SteadyTest world lost u →
        ∃ response route answer, r = .ok response ∧
          lastAnswer (gatewayTrace u) = some (route, answer) ∧ route.deployment.id ≠ lost := by
      intro first second
      cases returns first
      exact (wp_iff_runs _ _ _).mp (runGatewayChat_returns built planned answers apart _)
        u _ run second
    cases r with
    | error x =>
      refine wp_mono (acceptanceFailed_raises x s') ?_
      intro v r s'' h
      obtain ⟨y, rfl⟩ := h
      simp only [nil_append]
      intro steady
      obtain ⟨first, second⟩ := SteadyTest.append.mp (SteadyTest.append.mp steady).1
      obtain ⟨_, _, _, failed, _⟩ := served first second
      cases failed
    | ok response =>
      simp only [wp_pure, wp_perform, stored_wp, append_nil,
        nil_append]
      intro written
      cases written with
      | error f =>
        intro steady
        cases (SteadyTest.append.mp steady).2 _ mem_cons_self
      | ok done =>
        simp only [Except.mapError]
        intro steady
        obtain ⟨before, _⟩ := SteadyTest.append.mp steady
        obtain ⟨first, second⟩ := SteadyTest.append.mp before
        obtain ⟨_, other, answer, _, last, differs⟩ := served first second
        refine ⟨_, other, answer, rfl, ?_, differs⟩
        have calls : gatewayTrace (t ++ u ++ [⟨AcceptanceCall.commit
            (successAudit settings principal requestId resolved response), .ok done⟩]) =
            gatewayTrace t ++ gatewayTrace u := by
          rw [gatewayTrace_append, gatewayTrace_append]
          exact append_nil _
        rw [calls]
        exact lastAnswer_append last

variable (requestId) in
theorem test_passed_by_other :
    ∃ t report route answer,
      Program.Runs (acceptanceTest settings principal deploymentId payload requestId chatRequestId)
        t (.ok report) ∧ (∀ e ∈ t, world.Fits e) ∧
      lastAnswer (gatewayTrace t) = some (route, answer) ∧ route.deployment.id ≠ lost := by
  have run := Program.follow_runs (world.testOracle lost)
    (acceptanceTest settings principal deploymentId payload requestId chatRequestId)
  have steady : SteadyTest world lost _ :=
    @Program.follow_told _ _ _ (fun e => e.2 = world.testOracle lost e.1) (world.testOracle lost)
      (fun _ => rfl)
      (acceptanceTest settings principal deploymentId payload requestId chatRequestId)
  obtain ⟨report, other, answer, ok, last, differs⟩ :=
    (Program.wp_iff_runs _ _).mp (test_returns found built planned answers apart) _ _ run steady
  rw [ok] at run
  refine ⟨_, report, other, answer, run, fun e mem => ?_, last, differs⟩
  have here := fits_testOracle world lost e.1
  rw [← steady e mem] at here
  exact here

end Passing

end

section Catalogs

variable {settings : GatewaySettings} {tables : ModelTables} {principal : Principal}

theorem builtIn_catalog {configs : List DeploymentConfig}
    (unusable : ProviderCredentials.runtimeProviders settings.toCredentialSettings
      tables.toProviderTables principal.tenantId none principal.userId = .ok [])
    (read : runtimeDeployments settings tables principal.tenantId = .ok configs) :
    catalogFor settings tables principal =
      .ok ⟨false, settings.builtIn.map (·.toProviderConfig), settings.builtInDeployments⟩ := by
  unfold catalogFor
  rw [unusable, read]
  rfl

end Catalogs

def litellmRecord : ProviderRecord where
  toProviderConfig := litellmProvider none false
  capabilities := ["chat", "stream", "fallback", "multi_provider"]

def plainSettings : GatewaySettings where
  toCredentialSettings := { ProviderCredentials.oneProvider with builtIn := [litellmRecord] }
  builtInDeployments := [defaultChatDeployment none false]
  costAwareRoutingEnabled := false
  lower := asciiLower
  normalized := asciiLower
  render := ⟨Exc.className, fun _ => "detail"⟩

def ownCredential : LLMCredential where
  tenantId := 1
  providerId := 5
  ownerType := .user
  ownerId := some 11
  displayName := "Own"
  secretRef := "gown-key"
  maskedSecret := "***"

theorem exists_ok {α : Type} {x : Except Exc α} (returned : x.toOption.isSome = true) :
    ∃ a, x = .ok a := by
  cases x with
  | error y => cases returned
  | ok a => exact ⟨a, rfl⟩

def ownedTables : ModelTables where
  providers :=
    [{ id := 5, tenantId := 1, providerKey := "litellm", name := "LiteLLM Proxy"
       adapterType := "litellm", baseUrl := some "http://litellm:4000" }]
  credentials := [ownCredential]
  uniqueKeys := List.nodup_singleton _
  references := by simp [ownCredential]
  keyedCredentials := [(7, ownCredential)]
  models := [{ id := 8, modelKey := "gpt-4o", displayName := "GPT-4o" }]
  deployments :=
    [{ id := 500, tenantId := 1, providerId := 5, modelId := 8, credentialId := some 7
       deploymentName := "Own", routingKey := "default-chat" }]
  policyRules _ := []
  pricingRules := []
  keyed := rfl
  uniqueRoutes := List.nodup_singleton _

def mockAnswer : LLMResponse where
  requestId := "r-1"
  modelKey := "gpt-4o-mini"
  content := "[mock] hello"
  usage := { inputTokens := 8, outputTokens := 6, totalTokens := 14 }
  providerKey := "litellm"
  metadata := [("mock", .bool true), ("live_network_call", .bool false)]

def ownedWorld : World where
  tables := ownedTables
  costCenter := none
  isOpen _ := false
  answers _ _ _ := some mockAnswer

def otherUser : Principal := ⟨1, some 12⟩

def builtInGateway : LLMGateway :=
  gatewayOver plainSettings ownedTables otherUser.tenantId
    ⟨false, [litellmProvider none false], [defaultChatDeployment none false]⟩

def helloPayload : LLMDeploymentAcceptanceTestRequest := ⟨"hello", 64⟩

def ownedTarget : DeploymentAcceptanceTarget := ⟨500, "litellm", "gpt-4o", "default-chat", true⟩

def builtInRoute : RouteSelection where
  deployment := defaultChatDeployment none false
  provider := litellmProvider none false
  reason := "priority_route"

end AgentHive.Acceptance
