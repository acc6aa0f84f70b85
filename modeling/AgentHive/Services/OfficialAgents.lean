import AgentHive.Services.AgentRuntime

/-!
Official agents: what is made of a model's answer before it is returned, and the
streams of the agents that have one.

The deltas of a stream are those of the model; only the assembled content is processed.
-/

namespace AgentHive.Chat

open Process (Generator)
open Rag (Json JsonDict)

def brandReplacements : List (String × String) :=
  [("AgentH Hive", "AgentHive"), ("Agent Hive", "AgentHive"), ("AI Hive", "AgentHive"),
    ("Hive Enterprise AI Platform", "AgentHive Enterprise AI Platform")]

def normalizeAgenthiveBrand (text : List Char) : List Char :=
  brandReplacements.foldl (fun text entry =>
    CharText.replaceAll entry.1.toList entry.2.toList text) text

section Patterns

variable (table : CharTable)

open CharPattern

def spaces : CharPattern := .many table.isSpace

def separator : CharPattern := opt (.one fun c => c == '_' || c == '-' || table.isSpace c)

def colon : CharPattern := .one fun c => c == ':' || c == '：'

def text (word_ : String) : CharPattern := CharPattern.word table word_.toList

def joined (first second : String) : CharPattern :=
  sequence [text table first, separator table, text table second]

def oneWord (first : String) (rest : List String) : CharPattern :=
  anyOf (text table first) (rest.map (text table))

def internalDiagnosticPatterns : List CharPattern :=
  [sequence [spaces table,
      anyOf (joined table "request" "id") [joined table "trace" "id", joined table "run" "id"],
      spaces table, colon],
    sequence [spaces table,
      anyOf (joined table "model" "key")
        [joined table "provider" "key", joined table "deployment" "id"],
      spaces table, colon],
    sequence [spaces table, opt (oneWord table "input" ["output", "total"]), spaces table,
      text table "token", opt (text table "s"), spaces table, colon],
    sequence [spaces table,
      anyOf (joined table "fallback" "attempt")
        [joined table "route" "attempt", joined table "selected" "route"],
      .many table.isWord, spaces table, colon],
    sequence [spaces table, oneWord table "请求" ["追踪", "运行"], spaces table, text table "ID",
      spaces table, colon],
    sequence [spaces table, oneWord table "模型" ["供应商", "部署", "路由"], spaces table,
      oneWord table "Key" ["ID", "键", "标识"], spaces table, colon],
    sequence [spaces table, opt (oneWord table "输入" ["输出", "总"]), spaces table,
      text table "Token", spaces table, colon],
    sequence [spaces table, oneWord table "检索分数" ["检索得分", "内部策略", "系统提示词"],
      spaces table, colon]]

def isInternalDiagnosticLine (line : List Char) : Bool :=
  let stripped := CharText.strip table line
  !stripped.isEmpty &&
    (internalDiagnosticPatterns table).any fun pattern => pattern.isMatch stripped

def sanitizeOfficialAgentAnswer (answer fallback : String) : String :=
  let normalized := CharText.strip table (normalizeAgenthiveBrand answer.toList)
  if normalized.isEmpty then fallback
  else
    let keptLines := ((CharText.splitlines table normalized).filter fun line =>
      !isInternalDiagnosticLine table line).map (CharText.rstrip table)
    let sanitized := CharText.strip table (CharText.joinLines keptLines)
    if sanitized.isEmpty then fallback else String.ofList sanitized

end Patterns

structure AgentDefinition where
  agentKey : String
  version : String
  requiredModule : String
  orchestrationRuntime : String
  orchestrationFeatures : List String

/-- What the agents ask: the gateway with the prompt rendered from the payload, the media
gateway, the steps of the customer service graph, and how a run at once ends. -/
structure OfficialServices (W : Type) where
  texts : AgentTexts
  definitionOf : String → AgentDefinition
  hasPromptConfig : String → Bool
  runGatewayChatStream : String → AgentRunRequest → Principal → Option String →
    Generator String Exc W Unit
  runMediaGatewayAgent : String → AgentRunRequest → Principal → Option String →
    W → Except Exc AgentRunResponse × W
  runAtOnce : String → AgentRunRequest → Principal → Option String →
    W → Except Exc AgentRunResponse × W
  runCustomerServicePrep : String → List JsonDict → JsonDict
  mockKnowledgeAnswer : String → List JsonDict → String
  uuid4 : W → String × W

variable {W : Type}

/-- `_llm_runtime_evidence` of a streamed answer. -/
def streamedEvidence (definition : AgentDefinition) (modelKey requestId : String)
    (mock : Bool) : JsonDict :=
  [("execution", .str "llm_gateway"), ("llm_gateway_called", .bool true),
    ("agent_key", .str definition.agentKey),
    ("orchestration_runtime", .str definition.orchestrationRuntime),
    ("provider_key", .null), ("model_key", .str modelKey), ("deployment_id", .null),
    ("request_id", .str requestId), ("finish_reason", .str "stop"), ("input_tokens", .num 0),
    ("output_tokens", .num 0), ("total_tokens", .num 0), ("cost_usd", .str "0"),
    ("fallback_attempt_count", .num 0), ("selected_route_reason", .null),
    ("route_attempts", .arr []), ("mock_adapter", .bool mock)]

def streamedMetadata (definition : AgentDefinition) (evidence : JsonDict) : JsonDict :=
  [("streamed", .bool true), ("agent_key", .str definition.agentKey),
    ("agent_version", .str definition.version),
    ("required_module", .str definition.requiredModule), ("provider_key", .null),
    ("deployment_id", .null),
    ("orchestration_runtime", .str definition.orchestrationRuntime),
    ("orchestration_features", .arr (definition.orchestrationFeatures.map .str)),
    ("runtime_evidence", .obj evidence)]

def knowledgeSources (payload : AgentRunRequest) : List JsonDict :=
  dictItems (payload.context.get "knowledge_sources")

def sendDelta (collected : List String) (delta : String) : AgentCall W (List String) := do
  Generator.yielding (.delta delta)
  pure (collected ++ [delta])

def streamedRequestId (services : OfficialServices W) (requestId : Option String)
    (start : String) : AgentCall W String := fun w =>
  if truthy requestId then (pure (requestId.getD "") : AgentCall W String) w
  else (Generator.awaiting fun w =>
    (.ok (start ++ (services.uuid4 w).1), (services.uuid4 w).2)) w

def officialAgentKeys : List String :=
  ["hr_screening", "copywriting", "image_generation", "video_generation", "content_analysis",
    "report_writer", "product_design", "finance", "store_operations", "data_analyst"]

def mediaAgentKeys : List String := ["image_generation", "video_generation"]

def configuredFallbackAnswer : String :=
  "我已收到需求，但当前没有生成可用内容。请补充更具体的业务信息后重试。"

def configuredAnswer (texts : AgentTexts) (content : String) : String :=
  sanitizeOfficialAgentAnswer texts.chars content configuredFallbackAnswer

def configuredResponse (services : OfficialServices W) (agentKey : String)
    (payload : AgentRunRequest) (content responseId : String) : AgentRunResponse :=
  let definition := services.definitionOf agentKey
  let modelKey := modelKeyOr payload "streamed-chat"
  { answer := configuredAnswer services.texts content
    usage := noUsage
    modelKey := modelKey
    requestId := responseId
    sources := knowledgeSources payload
    metadata := (streamedMetadata definition
      (streamedEvidence definition modelKey responseId false)).set "prompt_source"
        (.str (if services.hasPromptConfig agentKey then "prompt_registry" else "fallback")) }

def configuredMediaStream (services : OfficialServices W) (agentKey : String)
    (payload : AgentRunRequest) (principal : Principal) (requestId : Option String) :
    AgentCall W Unit := do
  let response ← Generator.awaiting
    (services.runMediaGatewayAgent agentKey payload principal requestId)
  Generator.yielding (.delta response.answer)
  Generator.yielding (.done (some response))

def configuredTextStream (services : OfficialServices W) (agentKey : String)
    (payload : AgentRunRequest) (principal : Principal) (requestId : Option String) :
    AgentCall W Unit := do
  let collected ← Generator.forEach
    (services.runGatewayChatStream agentKey payload principal requestId) sendDelta []
  let responseId ← streamedRequestId services requestId "agent-stream-"
  Generator.yielding
    (.done (some (configuredResponse services agentKey payload (String.join collected)
      responseId)))

def configuredRunStream (services : OfficialServices W) (agentKey : String)
    (payload : AgentRunRequest) (principal : Principal) (requestId : Option String) :
    AgentCall W Unit :=
  if mediaAgentKeys.contains agentKey then
    configuredMediaStream services agentKey payload principal requestId
  else configuredTextStream services agentKey payload principal requestId

def customerContextKeywords : List String :=
  ["订单", "商品", "售后", "退款", "退货", "换货", "物流", "发货", "签收", "赔付", "价格", "优惠", "库存",
    "地址", "发票", "保修", "尺码", "质量", "平台", "店铺"]

def diagnosticNoteKeywords : List String :=
  ["知识库", "来源", "检索", "SOP", "无关", "无需引用", "未引用", "不涉及此问题"]

def inputNeedsCustomerContext (input : String) : Bool :=
  customerContextKeywords.any fun keyword => textIn keyword input

def noteIsDiagnostic (note : List Char) : Bool :=
  diagnosticNoteKeywords.any fun keyword => CharText.contains keyword.toList note

def generalReadyReply : String := "我在线，随时可以协助处理客户服务问题。"

def splitMarker : String := "客服备注："

def cleanAnswer (texts : AgentTexts) (input answer : String) : String :=
  let cleaned := sanitizeOfficialAgentAnswer texts.chars answer generalReadyReply
  match CharText.splitOnce splitMarker.toList cleaned.toList with
  | none => cleaned
  | some (customerReply, note) =>
    if !inputNeedsCustomerContext input && noteIsDiagnostic note then
      let reply := CharText.strip texts.chars customerReply
      if reply.isEmpty then generalReadyReply else String.ofList reply
    else cleaned

def isMockContent (texts : AgentTexts) (content : String) : Bool :=
  textIn "adapter mock response" (texts.lower content)

def customerServiceAnswer (services : OfficialServices W) (input : String)
    (sources : List JsonDict) (content : String) : String :=
  if isMockContent services.texts content && !sources.isEmpty then
    services.mockKnowledgeAnswer input sources
  else cleanAnswer services.texts input content

def prepEvidence (prep : JsonDict) : JsonDict :=
  [("langgraph_intent", prep.get "intent"), ("langgraph_confidence", prep.get "confidence"),
    ("langgraph_requires_human", prep.get "requires_human"),
    ("langgraph_trace", .arr (listItems (prep.get "graph_trace")))]

def customerServiceResponse (services : OfficialServices W) (payload : AgentRunRequest)
    (content responseId : String) : AgentRunResponse :=
  let definition := services.definitionOf "customer_service"
  let modelKey := modelKeyOr payload "streamed-chat"
  let sources := knowledgeSources payload
  { answer := customerServiceAnswer services payload.input sources content
    usage := noUsage
    modelKey := modelKey
    requestId := responseId
    sources := sources
    metadata := streamedMetadata definition
      (JsonDict.merge
        (streamedEvidence definition modelKey responseId (isMockContent services.texts content))
        (prepEvidence (services.runCustomerServicePrep payload.input sources))) }

def customerServiceRunStream (services : OfficialServices W) (payload : AgentRunRequest)
    (principal : Principal) (requestId : Option String) : AgentCall W Unit := do
  let collected ← Generator.forEach
    (services.runGatewayChatStream "customer_service" payload principal requestId) sendDelta []
  let responseId ← streamedRequestId services requestId "customer-service-stream-"
  Generator.yielding
    (.done (some (customerServiceResponse services payload (String.join collected) responseId)))

def runStreamOf (services : OfficialServices W) (agentKey : String) :
    Option (AgentRunRequest → Principal → Option String → AgentCall W Unit) :=
  if agentKey = "customer_service" then some (customerServiceRunStream services)
  else if officialAgentKeys.contains agentKey then some (configuredRunStream services agentKey)
  else none

def registeredKeys : List String := "customer_service" :: "custom_builder" :: officialAgentKeys

def agentRegistry (services : OfficialServices W) (agentKey : String) : Option (Agent W) :=
  if registeredKeys.contains agentKey then
    some
      { agentKey := agentKey
        requiredModule := (services.definitionOf agentKey).requiredModule
        run := services.runAtOnce agentKey
        runStream := runStreamOf services agentKey }
  else none

end AgentHive.Chat
