import AgentHive.Services.ChatSchemas
import AgentHive.Store.CharText

/-!
Runtime diagnostics of agents and what is made of retrieved knowledge.
-/

namespace AgentHive.Chat

open Rag (Json JsonDict)

/-- What the constructors and methods of texts and numbers make of values. -/
structure AgentTexts extends ChatTexts where
  chars : CharTable
  lower : String → String
  uuidOf : String → Option UUID
  intOf : String → Option Int
  floatOf : Json → Option ℚ
  /-- `round(value, 6)`. -/
  round6 : ℚ → ℚ

variable (texts : AgentTexts)

/-- `text.strip()`. -/
def AgentTexts.strip (text : String) : String :=
  String.ofList (CharText.strip texts.chars text.toList)

def textIn (needle text : String) : Bool := CharText.contains needle.toList text.toList

def knowledgeConfidenceHighThreshold : ℚ := 75 / 100

def knowledgeConfidenceMediumThreshold : ℚ := 35 / 100

def knowledgeGuardrailRequiredKeywords : List String :=
  ["赔偿", "补偿", "退款", "退货", "换货", "售后", "发票", "订单", "物流", "运费", "平台规则", "店铺规则",
    "政策", "规则", "合同", "承诺", "处罚", "投诉", "维权", "customer", "refund", "return",
    "compensation", "policy", "order"]

def coerceScore (value : Json) : Option ℚ :=
  if value.isNull then none else texts.floatOf value

def confidence (level : String) (maxScore minScore : Json) (review : Bool) (reason : String) :
    JsonDict :=
  [("confidence_level", .str level), ("max_score", maxScore), ("min_score", minScore),
    ("requires_human_review", .bool review), ("review_reason", .str reason)]

def knowledgeConfidenceDiagnostics (sources : List JsonDict) : JsonDict :=
  if sources.isEmpty then confidence "no_match" .null .null true "no_matching_sources"
  else match sources.filterMap fun source => coerceScore texts (source.get "score") with
    | [] => confidence "unscored" .null .null true "retrieval_sources_are_unscored"
    | score :: scores =>
      let maxScore := scores.foldl max score
      let highest : Json := .num (texts.round6 maxScore)
      let lowest : Json := .num (texts.round6 (scores.foldl min score))
      if knowledgeConfidenceHighThreshold ≤ maxScore then
        confidence "high" highest lowest false "strong_source_match"
      else if knowledgeConfidenceMediumThreshold ≤ maxScore then
        confidence "medium" highest lowest false "usable_source_match"
      else confidence "low" highest lowest true "low_retrieval_score"

def guardrailModeOf (normalized : String) : String :=
  if ["0", "disabled", "false", "none", "off"].contains normalized then "off"
  else if ["advisory", "warn", "warning"].contains normalized then "advisory"
  else "strict"

def knowledgeGuardrailMode (context : JsonDict) : String :=
  match getOr context "knowledge_guardrail_mode" (context.get "knowledge_guardrail") with
  | .null => "strict"
  | .bool b => if b then "strict" else "off"
  | value => guardrailModeOf (texts.lower (texts.strip (texts.str value)))

def inputRequiresStrictKnowledge (value : String) : Bool :=
  let normalized := texts.lower (texts.strip value)
  normalized != "" &&
    knowledgeGuardrailRequiredKeywords.any fun keyword => textIn keyword normalized

structure GuardrailDecision where
  mode : String
  triggered : Bool
  reason : Json
  requiresStrictKnowledge : Bool

def knowledgeGuardrailDecision (context : JsonDict) (input : String) (diagnostics : JsonDict) :
    GuardrailDecision :=
  let mode := knowledgeGuardrailMode texts context
  let requiresStrictKnowledge := inputRequiresStrictKnowledge texts input
  { mode := mode
    triggered :=
      isTrue (diagnostics.get "enabled") && isTrue (diagnostics.get "requires_human_review") &&
        mode == "strict" && requiresStrictKnowledge
    reason := diagnostics.firstOf ["review_reason", "reason"]
    requiresStrictKnowledge := requiresStrictKnowledge }

def GuardrailDecision.toDict (decision : GuardrailDecision) : JsonDict :=
  [("mode", .str decision.mode), ("triggered", .bool decision.triggered),
    ("skipped_model_call", .bool decision.triggered), ("reason", decision.reason),
    ("requires_strict_knowledge", .bool decision.requiresStrictKnowledge),
    ("keyword_matched", .bool decision.requiresStrictKnowledge)]

def agentRuntimeAdapterMode (execution : String) (gatewayCalled mockAdapter : Bool) : String :=
  if execution = "media_gateway" then "media_gateway"
  else if gatewayCalled then if mockAdapter then "mock_gateway" else "live_gateway"
  else "local_runtime"

def agentRuntimeStatus (adapterMode : String) : String :=
  if adapterMode = "live_gateway" then "real_model_call"
  else if adapterMode = "mock_gateway" then "mock_model_call"
  else if adapterMode = "media_gateway" then "media_generation_task"
  else "local_runtime"

def agentRunRuntimeSummary (response : AgentRunResponse) : JsonDict :=
  let metadata := response.metadata
  let evidence := dictMetadataValue (metadata.get "runtime_evidence")
  let knowledge := dictMetadataValue (metadata.get "knowledge")
  let gatewayCalled := isTrue (evidence.get "llm_gateway_called")
  let mockAdapter := isTrue (evidence.get "mock_adapter")
  let execution := strOr texts.toChatTexts (evidence.get "execution") "-"
  let adapterMode := agentRuntimeAdapterMode execution gatewayCalled mockAdapter
  [("status", .str (agentRuntimeStatus adapterMode)),
    ("adapter_mode", .str adapterMode),
    ("execution", .str execution),
    ("gateway_called", .bool gatewayCalled),
    ("mock_adapter", .bool mockAdapter),
    ("provider_key",
      if (evidence.get "provider_key").truthy then evidence.get "provider_key"
      else metadata.get "provider_key"),
    ("model_key",
      if (evidence.get "model_key").truthy then evidence.get "model_key"
      else .str response.modelKey),
    ("request_id", .str response.requestId),
    ("total_tokens", .num response.usage.totalTokens),
    ("route_attempt_count", .num (dictItems (evidence.get "route_attempts")).length),
    ("fallback_attempt_count", getOr evidence "fallback_attempt_count" (.num 0)),
    ("selected_route_reason", evidence.get "selected_route_reason"),
    ("knowledge_source_count",
      getOr knowledge "source_count" (.num response.sources.length)),
    ("knowledge_confidence", knowledge.get "confidence_level"),
    ("requires_human_review", .bool (isTrue (knowledge.get "requires_human_review")))]

def agentInstanceFields : List (String × String) :=
  [("agent_instance_slug", "slug"), ("agent_instance_name", "name"),
    ("module_key", "module_key"), ("department_id", "department_id"),
    ("visibility", "visibility"), ("channel_id", "channel_id")]

def isBlank : Json → Bool
  | .null => true
  | .str s => s == ""
  | _ => false

def agentInstanceDiagnosticsFromContext (context : JsonDict) : JsonDict :=
  if (context.get "agent_id").truthy then
    agentInstanceFields.foldl
      (fun diagnostics field =>
        if isBlank (context.get field.1) then diagnostics
        else diagnostics.set field.2 (.str (texts.str (context.get field.1))))
      [("enabled", .bool true), ("agent_id", .str (texts.str (context.get "agent_id")))]
  else [("enabled", .bool false), ("reason", .str "no_agent_instance_context")]

def greetings : List String :=
  ["hi", "hello", "hey", "你好", "您好", "在吗", "嗨", "哈喽", "hello there", "hi there"]

def stripPunctuation (text : String) : String :=
  let drop := fun c : Char => "!！。.,，?？~～ ".toList.contains c
  String.ofList ((text.toList.dropWhile drop).reverse.dropWhile drop).reverse

def isGreetingIntent (value : String) : Bool :=
  greetings.contains (stripPunctuation (texts.lower (texts.strip value)))

def joinTexts (separator : String) : List String → String
  | [] => ""
  | [text] => text
  | text :: rest => text ++ separator ++ joinTexts separator rest

def knowledgeBaseNamesFromDiagnostics (diagnostics : JsonDict) : String :=
  let names := (dictItems (diagnostics.get "per_base")).filterMap fun item =>
    let name := item.firstOf ["knowledge_base_name", "knowledge_base_id"]
    if name.truthy then some (texts.str name) else none
  joinTexts "、" (names.take 5)

def guardrailReasonText (reason : String) : String :=
  if reason = "low_retrieval_score" then "当前检索结果相关性偏低。"
  else if reason = "no_matching_sources" then "当前没有检索到足够匹配的知识库片段。"
  else if reason = "retrieval_sources_are_unscored" then "当前检索结果缺少可信分数。"
  else "当前知识库证据不足。"

def knowledgeGuardrailAnswer (diagnostics : JsonDict) : String :=
  let reason :=
    strOr texts.toChatTexts (diagnostics.firstOf ["review_reason", "reason"]) "unknown"
  let names := knowledgeBaseNamesFromDiagnostics texts diagnostics
  let baseText := if names = "" then "已检查已绑定的企业知识库。" else "已检查知识库：" ++ names ++ "。"
  "您好，已经收到您的问题。为了避免给客户错误承诺，" ++ baseText ++ guardrailReasonText reason ++
    "请客服先人工确认订单、商品状态和店铺政策后再回复客户。\n\n客服备注：资料匹配不足，建议人工确认后再发送。"

def truncateKnowledgeSourceText (text : String) : String :=
  if text.length ≤ 2000 then text else (text.take 2000).toString ++ "..."

def knowledgeContextEntry (source : JsonDict) (index : Nat) : String :=
  let name := texts.str (source.firstOf ["source_name", "document_id", "chunk_id"])
  let text := truncateKnowledgeSourceText
    (texts.strip (strOr texts.toChatTexts (source.get "text") ""))
  "[" ++ toString (index + 1) ++ "] 来源：" ++ name ++ "；相关度：" ++ texts.str (source.get "score") ++
    "\n" ++ text

def formatKnowledgeContext (sources : List JsonDict) : String :=
  if sources.isEmpty then "未检索到匹配的企业知识库片段。"
  else joinTexts "\n\n" (sources.mapIdx fun index source =>
    knowledgeContextEntry texts source index)

inductive HashKey
  | none
  | num (q : ℚ)
  | str (s : String)
deriving DecidableEq

def hashKey : Json → Except Exc HashKey
  | .null => .ok .none
  | .bool b => .ok (.num (if b then 1 else 0))
  | .num q => .ok (.num q)
  | .str s => .ok (.str s)
  | .arr _ => .error (.other "TypeError" "unhashable type: 'list'")
  | .obj _ => .error (.other "TypeError" "unhashable type: 'dict'")

def sourceKey (source : JsonDict) : Except Exc (List HashKey) :=
  ["knowledge_base_id", "document_id", "chunk_id"].mapM fun key => hashKey (source.get key)

def dedupeFrom : List (List HashKey) → List JsonDict → Except Exc (List JsonDict)
  | _, [] => .ok []
  | seen, source :: rest => do
    let key ← sourceKey source
    if seen.contains key then dedupeFrom seen rest
    else do
      let others ← dedupeFrom (key :: seen) rest
      pure (source :: others)

def dedupeSources (sources : List JsonDict) : Except Exc (List JsonDict) := dedupeFrom [] sources

section Dedupe

variable {sources : List JsonDict} {key : JsonDict → List HashKey} {seen : List (List HashKey)}

theorem dedupeFrom_cons {source : JsonDict} (keyed : sourceKey source = .ok (key source))
    (rest : List JsonDict) :
    dedupeFrom seen (source :: rest) = if key source ∈ seen then dedupeFrom seen rest
      else (dedupeFrom (key source :: seen) rest).map (source :: ·) := by
  rw [dedupeFrom, keyed]
  simp only [bind, Except.bind, List.contains_eq_mem, decide_eq_true_iff]
  split
  · rfl
  · cases dedupeFrom (key source :: seen) rest with
    | error x => rfl
    | ok others => rfl

variable (keyed : ∀ source ∈ sources, sourceKey source = .ok (key source))

include keyed

theorem dedupeFrom_distinct :
    ∃ listed, dedupeFrom seen sources = .ok listed ∧ (listed.map key).Nodup ∧
      ∀ source ∈ listed, key source ∉ seen := by
  induction sources generalizing seen with
  | nil => exact ⟨[], rfl, List.nodup_nil, fun _ mem => absurd mem List.not_mem_nil⟩
  | cons source rest ih =>
    obtain ⟨keyed, later⟩ := List.forall_mem_cons.mp keyed
    rw [dedupeFrom_cons keyed]
    split
    · exact ih later
    · rename_i unknown
      obtain ⟨listed, eq, distinct, fresh⟩ := @ih (key source :: seen) later
      refine ⟨source :: listed, by rw [eq]; rfl, List.nodup_cons.mpr ⟨?_, distinct⟩, ?_⟩
      · intro mem
        obtain ⟨other, found, same⟩ := List.mem_map.mp mem
        exact fresh other found (same ▸ List.mem_cons_self)
      · exact List.forall_mem_cons.mpr ⟨unknown, fun other mem known =>
          fresh other mem (List.mem_cons_of_mem _ known)⟩

theorem dedupeFrom_known
    (known : ∀ source ∈ sources, key source ∈ seen) : dedupeFrom seen sources = .ok [] := by
  induction sources with
  | nil => rfl
  | cons source rest ih =>
    obtain ⟨keyed, later⟩ := List.forall_mem_cons.mp keyed
    obtain ⟨known, others⟩ := List.forall_mem_cons.mp known
    rw [dedupeFrom_cons keyed, if_pos known]
    exact ih later others

omit keyed in
theorem dedupeFrom_append (more : List JsonDict)
    (keyed : ∀ source ∈ sources, sourceKey source = .ok (key source))
    (distinct : (sources.map key).Nodup) (fresh : ∀ source ∈ sources, key source ∉ seen) :
    dedupeFrom seen (sources ++ more) =
      (dedupeFrom ((sources.map key).reverse ++ seen) more).map (sources ++ ·) := by
  induction sources generalizing seen with
  | nil =>
    rw [List.map_nil, List.reverse_nil, List.nil_append, List.nil_append]
    cases dedupeFrom seen more with
    | error x => rfl
    | ok listed => rfl
  | cons source rest ih =>
    obtain ⟨keyed, later⟩ := List.forall_mem_cons.mp keyed
    obtain ⟨new, distinct⟩ := List.nodup_cons.mp distinct
    obtain ⟨unknown, fresh⟩ := List.forall_mem_cons.mp fresh
    have apart : ∀ other ∈ rest, key other ∉ key source :: seen := by
      intro other mem known
      cases List.mem_cons.mp known with
      | inl same => exact new (same ▸ List.mem_map_of_mem mem)
      | inr known => exact fresh other mem known
    rw [List.cons_append, dedupeFrom_cons keyed, if_neg unknown, ih later distinct apart,
      List.map_cons, List.reverse_cons, List.append_assoc, List.singleton_append]
    cases dedupeFrom ((rest.map key).reverse ++ key source :: seen) more with
    | error x => rfl
    | ok listed => rfl

theorem dedupeSources_twice
    (distinct : (sources.map key).Nodup) : dedupeSources (sources ++ sources) = .ok sources := by
  rw [dedupeSources, dedupeFrom_append sources keyed distinct fun _ _ => List.not_mem_nil,
    dedupeFrom_known keyed]
  · exact congrArg Except.ok (List.append_nil sources)
  · intro source mem
    exact List.mem_append_left _ (List.mem_reverse.mpr (List.mem_map_of_mem mem))

end Dedupe

def greetingMarkers : List String :=
  ["你好", "您好", "hi", "hello", "hey", "在吗", "在么", "早上好", "下午好", "晚上好", "good morning",
    "good afternoon"]

def looksLikeGreeting (text : String) : Bool :=
  let normalized := texts.lower (texts.strip text)
  decide (normalized.length ≤ 30) && greetingMarkers.any fun marker => textIn marker normalized

/-- The answer `ConfigurableAgent.run` gives without a model. -/
def greetingShortcut (greetingMessage : Option String) (input : String) : Option String :=
  greetingMessage.filter fun message => message ≠ "" && looksLikeGreeting texts input

def markedGreetings : List String :=
  ["hi", "hello", "hey", "你好", "您好", "在吗", "hello there", "hi there"]

/-- No marker begins or ends with what is stripped. -/
theorem textIn_stripPunctuation {marker : String} (mem : marker ∈ greetingMarkers)
    (text : String) : textIn marker (stripPunctuation text) = textIn marker text := by
  have bare : ∀ marker ∈ greetingMarkers, marker.toList ≠ [] ∧
      marker.toList.head?.all (!"!！。.,，?？~～ ".toList.contains ·) = true ∧
      marker.toList.reverse.head?.all (!"!！。.,，?？~～ ".toList.contains ·) = true := by decide
  obtain ⟨some, first, last⟩ := bare marker mem
  simp only [Option.all_eq_true, Bool.not_eq_true'] at first last
  unfold textIn CharText.contains stripPunctuation
  rw [decide_eq_decide, String.toList_ofList, ← List.reverse_infix, List.reverse_reverse,
    CharText.infix_dropWhile
    (by simpa using some) last, List.reverse_infix, CharText.infix_dropWhile some first]

theorem mem_greetings_iff {text : String}
    (marked : ∃ marker ∈ greetingMarkers, textIn marker text) :
    text ∈ greetings ↔ text ∈ markedGreetings := by
  have unmarked : ∀ text ∈ greetings, text ∉ markedGreetings →
      ∀ marker ∈ greetingMarkers, textIn marker text = false := by decide
  have within : ∀ text ∈ markedGreetings, text ∈ greetings := by decide
  refine ⟨fun greets => ?_, within text⟩
  by_contra other
  obtain ⟨marker, mem, found⟩ := marked
  rw [unmarked text greets other marker mem] at found
  exact absurd found (by simp)

theorem greetingShortcut_isSome (greetingMessage : Option String) (input : String) :
    let normalized := texts.lower (texts.strip input)
    (greetingShortcut texts greetingMessage input).isSome ↔
      greetingMessage.getD "" ≠ "" ∧ normalized.length ≤ 30 ∧
        ∃ marker ∈ greetingMarkers, textIn marker (stripPunctuation normalized) := by
  dsimp only
  have stripped : (∃ marker ∈ greetingMarkers,
      textIn marker (stripPunctuation (texts.lower (texts.strip input))) = true) ↔
      ∃ marker ∈ greetingMarkers, textIn marker (texts.lower (texts.strip input)) = true :=
    exists_congr fun marker => and_congr_right fun mem => by rw [textIn_stripPunctuation mem]
  rw [stripped]
  cases greetingMessage <;> simp [greetingShortcut, looksLikeGreeting]

/-- The shortcut answers greetings alone, unless a short text has a marker
beside something else. -/
theorem greetingShortcut_greets_iff (greetingMessage : Option String) (input : String) :
    let normalized := texts.lower (texts.strip input)
    let said := stripPunctuation normalized
    ((greetingShortcut texts greetingMessage input).isSome → isGreetingIntent texts input) ↔
      greetingMessage.getD "" = "" ∨ 30 < normalized.length ∨
        (∀ marker ∈ greetingMarkers, textIn marker said = false) ∨ said ∈ markedGreetings := by
  have taken := greetingShortcut_isSome texts greetingMessage input
  dsimp only at taken ⊢
  rw [taken, isGreetingIntent, List.contains_iff_mem]
  by_cases marked : ∃ marker ∈ greetingMarkers,
      textIn marker (stripPunctuation (texts.lower (texts.strip input)))
  · have some : ¬ ∀ marker ∈ greetingMarkers,
        textIn marker (stripPunctuation (texts.lower (texts.strip input))) = false := by
      simpa using marked
    rw [mem_greetings_iff marked, eq_true marked, eq_false some, ← not_le, and_true,
      false_or, and_imp, ne_eq, ← or_iff_not_imp_left, imp_iff_not_or]
  · have none : ∀ marker ∈ greetingMarkers,
        textIn marker (stripPunctuation (texts.lower (texts.strip input))) = false := by
      simpa using marked
    exact iff_of_true (fun taken => absurd taken.2.2 marked) (.inr (.inr (.inl none)))

theorem greetingShortcut_in_question : ¬ ∀ (texts : AgentTexts) (greetingMessage : Option String)
    (input : String), (greetingShortcut texts greetingMessage input).isSome →
      isGreetingIntent texts input := by
  intro greets
  have taken := greets
    { str := fun _ => "", uuid := fun _ => "", decimal := fun _ => ""
      lower := fun text => String.ofList (text.toList.map Char.toLower)
      uuidOf := fun _ => none, intOf := fun _ => none, floatOf := fun _ => none
      round6 := fun q => q
      chars := { isSpace := Char.isWhitespace, isWord := Char.isAlphanum
                 isLineEnd := fun c => c == '\n', foldCase := Char.toLower } }
    (some "Welcome!") "This is broken"
  revert taken
  decide +kernel

end AgentHive.Chat
