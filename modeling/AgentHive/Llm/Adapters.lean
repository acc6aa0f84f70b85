import AgentHive.Llm.PolicyBinding

/-!
The provider adapters: which one serves a route, when it calls the provider,
and the payload it sends. An adapter built by the gateway always has a
deployment.
-/

namespace AgentHive

structure LLMSettings where
  litellmMasterKey : String
  openaiCompatibleBaseUrl : Option String
  openaiCompatibleApiKey : String
  localEngineBaseUrl : String → Option String
  localEngineApiKey : String → String
  mockAllowed : Bool

/-- The JSON body of a chat call; a key the source leaves out is `none`. -/
structure ChatPayload where
  model : String
  messages : List Message
  maxTokens : Option Int
  temperature : Option ℚ
  stream : Bool := false
  system : Option String := none
deriving DecidableEq

def secretOf (provider : ProviderConfig) : Option String :=
  match provider.metadata.get "api_key" with
  | .str secret => if secret != "" then some secret else none
  | _ => none

def isMock (deployment : DeploymentConfig) : Bool := deployment.config.get "mock" == .bool true

def mockDisabled (adapterName : String) : Exc :=
  .other "RuntimeError" (adapterName ++ " mock mode is disabled outside development. " ++
    "Configure live endpoint credentials before using this provider.")

namespace LiteLLMAdapter

def apiKey (settings : LLMSettings) (provider : ProviderConfig) : String :=
  (secretOf provider).getD settings.litellmMasterKey

def shouldCallLive (settings : LLMSettings) (provider : ProviderConfig)
    (deployment : DeploymentConfig) : Bool :=
  truthy provider.baseUrl && apiKey settings provider != "" && !isMock deployment

/-- The body of `_post_chat_completions` and of `_stream_chat_completions`. -/
def payload (deployment : DeploymentConfig) (request : LLMChatRequest) (stream : Bool) :
    ChatPayload :=
  { model := deployment.modelKey
    messages := request.messages
    maxTokens := request.maxTokens
    temperature := request.temperature
    stream := stream }

end LiteLLMAdapter

namespace OpenAICompatibleAdapter

def reasoningModelMinOutputTokens : Int := 512

def isReasoningHeavyModel (lower : String → String) (modelKey providerKey : String) : Bool :=
  lower providerKey == "mimo" || "mimo-".toList.isPrefixOf (lower modelKey).toList

def effectiveMaxTokens (lower : String → String) (modelKey providerKey : String)
    (requestedMaxTokens : Option Int) : Option Int :=
  if !isReasoningHeavyModel lower modelKey providerKey then requestedMaxTokens
  else
    match requestedMaxTokens with
    | none => some reasoningModelMinOutputTokens
    | some requested => some (max requested reasoningModelMinOutputTokens)

def baseUrl (settings : LLMSettings) (provider : ProviderConfig) : Option String :=
  if truthy provider.baseUrl then provider.baseUrl
  else if truthy (settings.localEngineBaseUrl provider.providerKey) then
    settings.localEngineBaseUrl provider.providerKey
  else settings.openaiCompatibleBaseUrl

def apiKey (settings : LLMSettings) (provider : ProviderConfig) : String :=
  match secretOf provider with
  | some secret => secret
  | none =>
    if settings.localEngineApiKey provider.providerKey != "" then
      settings.localEngineApiKey provider.providerKey
    else settings.openaiCompatibleApiKey

def authRequired (provider : ProviderConfig) : Bool :=
  provider.metadata.get "auth_required" != .bool false

def shouldCallLive (settings : LLMSettings) (provider : ProviderConfig)
    (deployment : DeploymentConfig) : Bool :=
  let hasTarget := truthy (baseUrl settings provider)
  let hasSecret := apiKey settings provider != ""
  if hasTarget && !isMock deployment && !authRequired provider then true
  else hasTarget && hasSecret && !isMock deployment

def payload (lower : String → String) (provider : ProviderConfig)
    (deployment : DeploymentConfig) (request : LLMChatRequest) (stream : Bool) : ChatPayload :=
  { model := deployment.modelKey
    messages := request.messages
    maxTokens := effectiveMaxTokens lower deployment.modelKey provider.providerKey
      request.maxTokens
    temperature := request.temperature
    stream := stream }

end OpenAICompatibleAdapter

namespace AnthropicCompatibleAdapter

def apiKey (provider : ProviderConfig) : String := (secretOf provider).getD ""

def shouldCallLive (provider : ProviderConfig) (deployment : DeploymentConfig) : Bool :=
  truthy provider.baseUrl && apiKey provider != "" && !isMock deployment

def maxTokens (request : LLMChatRequest) : Int :=
  match request.maxTokens with
  | some n => if n = 0 then 1024 else n
  | none => 1024

def systemText (request : LLMChatRequest) : Option String :=
  let text := "\n\n".intercalate
    ((request.messages.filter (·.role == "system")).map (·.content))
  if text = "" then none else some text

/-- The body of `_post_messages`: only user and assistant messages, without names. -/
def payload (deployment : DeploymentConfig) (request : LLMChatRequest) : ChatPayload :=
  { model := deployment.modelKey
    messages := (request.messages.filter fun message =>
        ["user", "assistant"].contains message.role && message.content != "").map
      fun message => { role := message.role, content := message.content }
    maxTokens := some (maxTokens request)
    temperature := request.temperature
    system := systemText request }

end AnthropicCompatibleAdapter

def LLMAdapterType.text : LLMAdapterType → String
  | .litellm => "litellm"
  | .openaiCompatible => "openai_compatible"
  | .anthropicCompatible => "anthropic_compatible"
  | .unsupported name => name

/-- `_adapter_for`: the kind of adapter that serves a route. -/
def adapterFor (route : RouteSelection) : Except Exc LLMAdapterType :=
  match route.provider.adapterType with
  | .unsupported name => .error (.http 501 (.text ("Unsupported LLM adapter: " ++ name)))
  | kind => .ok kind

/-- What `chat` or `stream_chat` of the route's adapter sends to the provider;
`none` when it answers with a mock. Streaming from an Anthropic-compatible
endpoint is its chat call. -/
def sentPayload (lower : String → String) (settings : LLMSettings) (route : RouteSelection)
    (request : LLMChatRequest) (stream : Bool) : Except Exc (Option ChatPayload) := do
  let kind ← adapterFor route
  let mock (name : String) : Except Exc (Option ChatPayload) :=
    if settings.mockAllowed then .ok none else .error (mockDisabled name)
  match kind with
  | .litellm =>
    if LiteLLMAdapter.shouldCallLive settings route.provider route.deployment then
      .ok (some (LiteLLMAdapter.payload route.deployment request stream))
    else mock "LiteLLM adapter"
  | .openaiCompatible =>
    if OpenAICompatibleAdapter.shouldCallLive settings route.provider route.deployment then
      .ok (some (OpenAICompatibleAdapter.payload lower route.provider route.deployment
        request stream))
    else mock "OpenAI-compatible adapter"
  | .anthropicCompatible =>
    if AnthropicCompatibleAdapter.shouldCallLive route.provider route.deployment then
      .ok (some (AnthropicCompatibleAdapter.payload route.deployment request))
    else mock "Anthropic-compatible adapter"
  | .unsupported _ => .ok none

theorem sentPayload_maxTokens {lower : String → String} {settings : LLMSettings}
    {route : RouteSelection} {request : LLMChatRequest} {stream : Bool}
    {payload : ChatPayload} {tokens : Int} (requested : request.maxTokens = some tokens)
    (sent : sentPayload lower settings route request stream = .ok (some payload)) :
    payload.maxTokens = some tokens ∨
      (route.provider.adapterType = .openaiCompatible ∧
        OpenAICompatibleAdapter.isReasoningHeavyModel lower route.deployment.modelKey
          route.provider.providerKey = true ∧
        tokens < 512 ∧ payload.maxTokens = some 512) ∨
      (route.provider.adapterType = .anthropicCompatible ∧ tokens = 0 ∧
        payload.maxTokens = some 1024) := by
  cases kind : route.provider.adapterType with
  | litellm =>
    simp only [sentPayload, adapterFor, kind, bind, Except.bind] at sent
    split at sent
    · cases sent
      exact Or.inl requested
    · split at sent <;> cases sent
  | openaiCompatible =>
    simp only [sentPayload, adapterFor, kind, bind, Except.bind] at sent
    split at sent
    · cases sent
      simp only [OpenAICompatibleAdapter.payload, OpenAICompatibleAdapter.effectiveMaxTokens,
        OpenAICompatibleAdapter.reasoningModelMinOutputTokens, requested]
      cases heavy : OpenAICompatibleAdapter.isReasoningHeavyModel lower
          route.deployment.modelKey route.provider.providerKey with
      | false => exact Or.inl rfl
      | true =>
        by_cases floor : tokens < 512
        · have raised : max tokens 512 = 512 := by omega
          exact Or.inr (Or.inl ⟨trivial, rfl, floor, congrArg some raised⟩)
        · have kept : max tokens 512 = tokens := by omega
          exact Or.inl (congrArg some kept)
    · split at sent <;> cases sent
  | anthropicCompatible =>
    simp only [sentPayload, adapterFor, kind, bind, Except.bind] at sent
    split at sent
    · cases sent
      simp only [AnthropicCompatibleAdapter.payload, AnthropicCompatibleAdapter.maxTokens,
        requested]
      by_cases zero : tokens = 0
      · exact Or.inr (Or.inr ⟨trivial, zero, by rw [if_pos zero]⟩)
      · exact Or.inl (by rw [if_neg zero])
    · split at sent <;> cases sent
  | unsupported name =>
    simp only [sentPayload, adapterFor, kind, bind, Except.bind] at sent
    cases sent

namespace ModelPolicyEngine

theorem effectiveRequest_maxTokens {policies : List ModelPolicyRule}
    {context : LLMRequestContext} {resolved : Option UUID} {request : LLMChatRequest}
    {allow : ModelPolicyRule} {limit : Int}
    (allowed : (evaluate policies request context resolved).allowed = true)
    (through : firstAllow (matchedRules policies context resolved) request = some allow)
    (limited : allow.maxTokens = some limit) :
    ∃ tokens, (effectiveRequest request (evaluate policies request context resolved)).maxTokens =
        some tokens ∧ tokens ≤ limit ∧
      tokens = (request.maxTokens.map fun n => min n limit).getD limit := by
  have undenied := (matchedRules_allowed allowed).1
  rw [evaluate_eq allowed]
  simp only [matchedRules] at through undenied
  simp only [effectiveRequest, decideMatched, undenied, through, allowDecision, limited,
    effectiveMaxTokens]
  cases request.maxTokens with
  | none => exact ⟨limit, rfl, le_rfl, rfl⟩
  | some n => exact ⟨min n limit, rfl, min_le_right n limit, rfl⟩

/-- The token limit of the admitting rule reaches the provider on every route,
except that a reasoning model behind an OpenAI-compatible endpoint is given at
least 512 tokens, and an Anthropic-compatible endpoint 1024 for a limit of zero. -/
theorem policy_limit_reaches_provider (lower : String → String) (settings : LLMSettings)
    (policies : List ModelPolicyRule) (context : LLMRequestContext) (resolved : Option UUID)
    (request : LLMChatRequest) (router : ModelRouter) (isOpen : UUID → Bool)
    (routes : List RouteSelection) (route : RouteSelection) (stream : Bool)
    (allow : ModelPolicyRule) (limit : Int) (payload : ChatPayload)
    (allowed : (evaluate policies request context resolved).allowed = true)
    (through : firstAllow (matchedRules policies context resolved) request = some allow)
    (limited : allow.maxTokens = some limit)
    (_planned : router.plan isOpen
      (effectiveRequest request (evaluate policies request context resolved))
      (evaluate policies request context resolved) = .ok routes ∧ route ∈ routes)
    (sent : sentPayload lower settings route
      (effectiveRequest request (evaluate policies request context resolved)) stream =
        .ok (some payload)) :
    ∃ tokens, payload.maxTokens = some tokens ∧
      (tokens ≤ limit ∨
        (route.provider.adapterType = .openaiCompatible ∧
          OpenAICompatibleAdapter.isReasoningHeavyModel lower route.deployment.modelKey
            route.provider.providerKey = true ∧ tokens ≤ max limit 512) ∨
        (route.provider.adapterType = .anthropicCompatible ∧
          (request.maxTokens.map fun n => min n limit).getD limit = 0 ∧ tokens = 1024)) := by
  obtain ⟨tokens, requested, within, decided⟩ :=
    effectiveRequest_maxTokens allowed through limited
  cases sentPayload_maxTokens requested sent with
  | inl kept => exact ⟨tokens, kept, Or.inl within⟩
  | inr changed =>
    cases changed with
    | inl floored =>
      obtain ⟨openai, heavy, _, floor⟩ := floored
      exact ⟨512, floor, Or.inr (Or.inl ⟨openai, heavy, le_max_right limit 512⟩)⟩
    | inr defaulted =>
      obtain ⟨anthropic, zero, default⟩ := defaulted
      exact ⟨1024, default, Or.inr (Or.inr ⟨anthropic, decided.symm.trans zero, rfl⟩)⟩

def mimoRoute : RouteSelection :=
  { provider := { providerKey := "mimo", name := "MiMo", adapterType := .openaiCompatible
                  baseUrl := some "https://mimo.example.test/v1"
                  metadata := [("api_key", .str "key")] }
    deployment := { defaultChatDeployment none true with
      providerKey := "mimo", modelKey := "mimo-v2.5-pro" }
    reason := "priority_route" }

def mimoRouter : ModelRouter :=
  { providers := [mimoRoute.provider], deployments := [mimoRoute.deployment] }

def productionSettings : LLMSettings :=
  { litellmMasterKey := "sk-live", openaiCompatibleBaseUrl := none, openaiCompatibleApiKey := ""
    localEngineBaseUrl := fun _ => none, localEngineApiKey := fun _ => "", mockAllowed := false }

def allowLimited (modelKey : String) (limit : Int) : ModelPolicyRule :=
  { id := 5, name := "allow-limited", scopeType := .tenant, effect := .allow
    allowedModels := [modelKey], defaultModelKey := some modelKey, maxTokens := some limit }

theorem limit_is_raised :
    let policies := [allowLimited "mimo-v2.5-pro" 128]
    let decision := evaluate policies helloRequest tenantContext none
    decision.allowed = true ∧
      firstAllow (matchedRules policies tenantContext none) helloRequest =
        some (allowLimited "mimo-v2.5-pro" 128) ∧
      mimoRouter.plan (fun _ => false) (effectiveRequest helloRequest decision) decision =
        .ok [mimoRoute] ∧
      ∃ payload, sentPayload asciiLower productionSettings mimoRoute
          (effectiveRequest helloRequest decision) false = .ok (some payload) ∧
        payload.maxTokens = some 512 := by
  refine ⟨by decide, by decide, rfl, _, rfl, ?_⟩
  decide

def liveRoute : RouteSelection :=
  { provider := litellmProvider (some "http://localhost:4000") true
    deployment := defaultChatDeployment (some "http://localhost:4000") true
    reason := "priority_route" }

theorem limit_is_kept :
    let policies := [allowLimited "gpt-4o-mini" 128]
    let decision := evaluate policies helloRequest tenantContext none
    ∃ payload, sentPayload asciiLower productionSettings liveRoute
        (effectiveRequest helloRequest decision) true = .ok (some payload) ∧
      ∃ tokens, payload.maxTokens = some tokens ∧ tokens ≤ 128 := by
  intro policies decision
  have sent : sentPayload asciiLower productionSettings liveRoute
      (effectiveRequest helloRequest decision) true =
      .ok (some (LiteLLMAdapter.payload liveRoute.deployment
        (effectiveRequest helloRequest decision) true)) := by rfl
  obtain ⟨tokens, carried, bound⟩ := policy_limit_reaches_provider asciiLower productionSettings
    policies tenantContext none helloRequest
    { providers := [liveRoute.provider], deployments := [liveRoute.deployment] } (fun _ => false)
    [liveRoute] liveRoute true (allowLimited "gpt-4o-mini" 128) 128 _ (by decide) (by decide) rfl
    ⟨rfl, List.mem_singleton.mpr rfl⟩ sent
  refine ⟨_, sent, tokens, carried, ?_⟩
  cases bound with
  | inl within => exact within
  | inr other =>
    cases other with
    | inl openai => cases openai.1
    | inr anthropic => cases anthropic.1

end ModelPolicyEngine
end AgentHive
