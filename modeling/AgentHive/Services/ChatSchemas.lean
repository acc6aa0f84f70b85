import AgentHive.Llm.Schemas
import AgentHive.Rag.Schemas

/-!
Chat sessions, their messages and the answers of agents.
-/

namespace AgentHive.Chat

open Rag (Json JsonDict)

/-- `str` of a value, of an identifier and of an amount. -/
structure ChatTexts where
  str : Json → String
  uuid : UUID → String
  decimal : ℚ → String

structure LLMUsageResponse where
  inputTokens : Nat
  outputTokens : Nat
  totalTokens : Nat
  costUsd : ℚ
deriving DecidableEq

structure ConversationSession where
  id : UUID
  tenantId : UUID
  title : String
  agentId : Option UUID
  channelId : Option UUID
  userId : Option UUID
  departmentId : Option UUID
  source : String
  metadataJson : JsonDict
  deletedAt : Option Nat := none

structure ConversationMessage where
  id : UUID
  tenantId : UUID
  conversationId : UUID
  role : String
  content : String
  userId : Option UUID
  requestId : Option String
  modelKey : Option String := none
  providerKey : Option String := none
  inputTokens : Nat := 0
  outputTokens : Nat := 0
  totalTokens : Nat := 0
  costUsd : ℚ := 0
  metadataJson : JsonDict

structure ChatMessageResponse where
  id : UUID
  tenantId : UUID
  conversationId : UUID
  role : String
  content : String
  userId : Option UUID
  requestId : Option String
  modelKey : Option String
  providerKey : Option String
  inputTokens : Nat
  outputTokens : Nat
  totalTokens : Nat
  costUsd : ℚ
  metadata : JsonDict

/-- A message request; its field constraints are part of the type. -/
structure ChatMessageCreateRequest where
  content : String
  modelKey : Option String := none
  routingKey : Option String := none
  temperature : Option ℚ := none
  maxTokens : Option Nat := some 1024
  metadata : JsonDict := []
  content_nonempty : content ≠ ""
  content_length : content.length ≤ 12000
  maxTokens_bounds : ∀ n ∈ maxTokens, 1 ≤ n ∧ n ≤ 8192

theorem defaultMaxTokens_bounds : ∀ n ∈ some 1024, 1 ≤ n ∧ n ≤ 8192 := by
  intro n eq
  cases eq
  decide

structure ChatMessageCreateResponse where
  userMessage : ChatMessageResponse
  assistantMessage : ChatMessageResponse
  requestId : String
  providerKey : String
  modelKey : String
  usage : LLMUsageResponse
  sources : List JsonDict
  metadata : JsonDict

structure AgentRunRequest where
  input : String
  context : JsonDict := []
  modelKey : Option String := none
  routingKey : Option String := none
  maxTokens : Option Nat := some 1024
  mcpServerKeys : Option (List String) := none

structure AgentRunResponse where
  answer : String
  usage : LLMUsageResponse
  modelKey : String
  requestId : String
  sources : List JsonDict
  metadata : JsonDict

inductive AgentEvent
  | delta (content : String)
  | done (response : Option AgentRunResponse)

structure AgentConcurrencyDecision where
  enabled : Bool
  acquired : Bool
  tenantLimit : Nat
  userLimit : Nat
  agentLimit : Nat
  active : List (String × Nat)

structure LLMAnswer where
  content : String
  metadata : JsonDict
  modelKey : String
  providerKey : String
  requestId : String
  usage : LLMUsageResponse

def dictMetadataValue : Json → JsonDict
  | .obj entries => entries
  | _ => []

def isTrue : Json → Bool
  | .bool b => b
  | _ => false

def asDict? : Json → Option JsonDict
  | .obj entries => some entries
  | _ => none

def dictItems : Json → List JsonDict
  | .arr items => items.filterMap asDict?
  | _ => []

def getOr (d : JsonDict) (key : String) (default : Json) : Json := (d.lookup key).getD default

def optionalText : Option String → Json
  | some s => .str s
  | none => .null

def strOr (texts : ChatTexts) (value : Json) (default : String) : String :=
  if value.truthy then texts.str value else default

end AgentHive.Chat
