import AgentHive.Llm.Values
import Mathlib.Algebra.Order.Ring.Rat

/-!
The request, route and usage records that pass between the gateway's parts.
Fields that no modelled function reads are left out.
-/

namespace AgentHive

inductive LLMAdapterType
  | litellm
  | openaiCompatible
  | anthropicCompatible
  | unsupported (name : String)
deriving DecidableEq

inductive LLMDeploymentStatus
  | active
  | inactive
deriving DecidableEq

inductive LLMCallStatus
  | success
  | error
  | denied
  | budgetExceeded
deriving DecidableEq

inductive ScopeType
  | tenant
  | department
  | costCenter
  | user
  | agent
  | channel
  | other (name : String)
deriving DecidableEq

def ScopeType.text : ScopeType → String
  | .tenant => "tenant"
  | .department => "department"
  | .costCenter => "cost_center"
  | .user => "user"
  | .agent => "agent"
  | .channel => "channel"
  | .other name => name

structure Message where
  role : String
  content : String
  name : Option String := none
deriving DecidableEq

theorem noCost_nonneg : (0 : ℚ) ≤ 0 := le_refl 0

/-- Counted tokens and cost; the field constraints `ge=0` are part of the type. -/
structure LLMUsageMetrics where
  inputTokens : Nat := 0
  outputTokens : Nat := 0
  totalTokens : Nat := 0
  costUsd : ℚ := 0
  costUsd_nonneg : 0 ≤ costUsd := by first | exact noCost_nonneg | decide
deriving DecidableEq

def LLMUsageMetrics.validate (inputTokens outputTokens totalTokens : Int) (costUsd : ℚ) :
    Except Exc LLMUsageMetrics :=
  if h : 0 ≤ inputTokens ∧ 0 ≤ outputTokens ∧ 0 ≤ totalTokens ∧ 0 ≤ costUsd then
    .ok ⟨inputTokens.toNat, outputTokens.toNat, totalTokens.toNat, costUsd, h.2.2.2⟩
  else
    .error (.other "ValidationError" "Input should be greater than or equal to 0")

structure LLMRequestContext where
  tenantId : UUID
  userId : Option UUID := none
  departmentId : Option UUID := none
  costCenterId : Option UUID := none
  agentId : Option UUID := none
  channelId : Option UUID := none
  conversationId : Option UUID := none
  requestId : String
  source : String := "api"
deriving DecidableEq

structure LLMChatRequest where
  modelKey : Option String := none
  routingKey : Option String := none
  messages : List Message
  temperature : Option ℚ := none
  maxTokens : Option Int := none
deriving DecidableEq

structure LLMResponse where
  requestId : String
  modelKey : String
  content : String
  usage : LLMUsageMetrics
  providerKey : String
  deploymentId : Option UUID := none
  finishReason : Option String := none
  metadata : Dict := []
deriving DecidableEq

structure ProviderConfig where
  providerKey : String
  name : String
  adapterType : LLMAdapterType
  baseUrl : Option String := none
  credentialConfigured : Bool := false
  metadata : Dict := []
deriving DecidableEq

structure DeploymentConfig where
  id : UUID
  providerKey : String
  providerName : String
  adapterType : LLMAdapterType
  modelKey : String
  displayName : String
  deploymentName : String
  routingKey : String
  status : LLMDeploymentStatus := .active
  priority : Int := 100
  baseUrl : Option String := none
  config : Dict := []
deriving DecidableEq

structure PolicyDecision where
  allowed : Bool
  reason : String := "allowed"
  modelKey : Option String := none
  routingKey : Option String := none
  maxTokens : Option Int := none
  metadata : Dict := []
deriving DecidableEq

structure BudgetReservationScope where
  budgetId : UUID
  scopeType : ScopeType
  scopeId : Option UUID := none
deriving DecidableEq

structure BudgetReservation where
  reservationId : String
  approved : Bool
  reason : String := "approved"
  estimatedTokens : Nat := 0
  estimatedCostUsd : ℚ := 0
  estimatedCostUsd_nonneg : 0 ≤ estimatedCostUsd := by first | exact noCost_nonneg | decide
  budgetScopes : List BudgetReservationScope := []
deriving DecidableEq

structure RouteSelection where
  deployment : DeploymentConfig
  provider : ProviderConfig
  reason : String := "primary"
deriving DecidableEq

structure ConnectionTestRequest where
  providerKey : Option String := none
  deploymentId : Option UUID := none
  modelKey : Option String := none
  adapterType : Option LLMAdapterType := none
  baseUrl : Option String := none
  apiKey : Option String := none
deriving DecidableEq

structure ConnectionTestResult where
  ok : Bool
  providerKey : Option String := none
  adapterType : LLMAdapterType
  modelKey : Option String := none
  latencyMs : Int
  message : String
  diagnostics : Dict := []
deriving DecidableEq

structure UsageRecord where
  requestId : String
  tenantId : UUID
  status : LLMCallStatus
  providerKey : Option String := none
  modelKey : Option String := none
  deploymentId : Option UUID := none
  usage : LLMUsageMetrics := {}
  errorCode : Option String := none
  errorMessage : Option String := none
  metadata : Dict := []
  diagnostics : Option Dict := none
  detail : Option HttpDetail := none
deriving DecidableEq

/-- The LiteLLM entry of `_PROVIDERS`; `liveKey` says whether a master key is set. -/
def litellmProvider (baseUrl : Option String) (liveKey : Bool) : ProviderConfig :=
  { providerKey := "litellm"
    name := "LiteLLM Proxy"
    adapterType := .litellm
    baseUrl := baseUrl
    credentialConfigured := liveKey
    metadata := [("control_plane", .str "AgentHive"), ("mock_adapter", .bool !liveKey),
      ("live_network_call", .bool liveKey)] }

/-- The LiteLLM entry of `_DEPLOYMENTS`. -/
def defaultChatDeployment (baseUrl : Option String) (liveKey : Bool) : DeploymentConfig :=
  { id := 0x00000000000040008000000000000101
    providerKey := "litellm"
    providerName := "LiteLLM Proxy"
    adapterType := .litellm
    modelKey := "gpt-4o-mini"
    displayName := "GPT-4o mini via LiteLLM"
    deploymentName := "Default Chat"
    routingKey := "default-chat"
    status := .active
    priority := 100
    baseUrl := baseUrl
    config := [("mock", .bool !liveKey), ("fallback_group", .str "default"),
      ("live_network_call", .bool liveKey)] }

end AgentHive
