import AgentHive.Process.Fallible
import AgentHive.Services.AgentDiagnostics
import AgentHive.Store.StableSort
import Mathlib.Data.Finset.Dedup
import Mathlib.Data.Finset.Card
import Mathlib.Data.Prod.Lex

/-!
The steps of the customer service graph, and the preparation that runs them without a
draft.

What `float` makes of a score is given. Merging what a node returns into the state is the
update of the fields it sets.
-/

namespace AgentHive.CustomerService

open Chat (AgentTexts textIn strOr)
open Rag (Json JsonDict)

inductive CustomerServiceIntent
  | knowledgeQuery
  | general
  | escalationRisk
  | complaint
deriving DecidableEq

structure TraceEntry where
  node : String
  detail : String

structure GraphState where
  query : String
  sources : List JsonDict
  intent : CustomerServiceIntent := .knowledgeQuery
  selectedSource : JsonDict := []
  relevanceScore : Nat := 0
  answer : String := ""
  requiresHuman : Bool := false
  confidence : ℚ := 0
  graphTrace : List TraceEntry := []

def escalationKeywords : List String := ["投诉", "律师", "起诉", "赔偿", "12315", "差评", "举报", "工商"]

def complaintKeywords : List String := ["不满", "太差", "骗人", "假货", "态度差", "生气", "愤怒"]

def generalKeywords : List String := ["你好", "在吗", "您好", "有人吗", "hello", "hi"]

def knowledgeKeywords : List String :=
  ["订单", "商品", "售后", "退款", "退货", "换货", "物流", "发货", "签收", "赔付", "价格", "优惠", "库存",
    "地址", "发票", "保修", "尺码", "质量", "平台", "店铺"]

def GraphState.traced (state : GraphState) (node detail : String) : GraphState :=
  { state with graphTrace := state.graphTrace ++ [⟨node, detail⟩] }

variable (texts : AgentTexts) (toFloat : Json → Except Exc ℚ)

def anyIn (keywords : List String) (text : String) : Bool :=
  keywords.any fun keyword => textIn keyword text

def classify (query : String) : CustomerServiceIntent × String :=
  if anyIn escalationKeywords query then (.escalationRisk, "检测到高风险或监管类诉求，优先建议人工介入。")
  else if anyIn complaintKeywords query then (.complaint, "检测到投诉情绪，回复需更谨慎并保留升级空间。")
  else if anyIn knowledgeKeywords query ||
      anyIn ["order", "refund", "shipping", "return"] (texts.lower query) then
    (.knowledgeQuery, "识别为业务知识查询，优先检索知识库。")
  else if anyIn generalKeywords query && decide ((texts.strip query).length ≤ 12) then
    (.general, "识别为寒暄或开场，无需强制引用知识库。")
  else (.knowledgeQuery, "默认按业务问答处理，尝试匹配知识库。")

def classifyIntent (state : GraphState) : GraphState :=
  let found := classify texts state.query
  { state.traced "classify_intent" found.2 with intent := found.1 }

/-- `re.findall` of the class of characters, repeated. -/
def runsOf (inClass : Char → Bool) (text : List Char) : List (List Char) :=
  (text.splitOnP fun c => !inClass c).filter fun run => !run.isEmpty

def characterNgrams (value : List Char) (size : Nat) : List (List Char) :=
  if value.length < size then []
  else (List.range (value.length - size + 1)).map fun index => (value.drop index).take size

def relevanceTokens (value : String) : Finset (List Char) :=
  let normalized := (texts.lower value).toList
  let words := runsOf (fun c => ('a' ≤ c && c ≤ 'z') || ('0' ≤ c && c ≤ '9')) normalized
  let sequences := runsOf (fun c => 0x4e00 ≤ c.toNat && c.toNat ≤ 0x9fff) normalized
  (words ++ sequences.flatMap fun sequence =>
    characterNgrams sequence 2 ++ characterNgrams sequence 3).toFinset

def sourceRelevanceScore (query text : String) : Nat :=
  (relevanceTokens texts query ∩ relevanceTokens texts text).card

def sourceText (source : JsonDict) : String := strOr texts.toChatTexts (source.get "text") ""

def scoreOf (source : JsonDict) : Except Exc ℚ :=
  toFloat (if (source.get "score").truthy then source.get "score" else .num 0)

structure Candidate where
  index : Nat
  source : JsonDict
  relevance : Nat
  score : ℚ

/-- By relevance, then by score, then the earlier one. -/
def Candidate.key (candidate : Candidate) : ℕ ×ₗ ℚ ×ₗ ℤ :=
  toLex (candidate.relevance, toLex (candidate.score, -(candidate.index : ℤ)))

def Candidate.Before (a b : Candidate) : Prop := b.key ≤ a.key

instance : DecidableRel Candidate.Before := fun a b => inferInstanceAs (Decidable (b.key ≤ a.key))

instance : Std.Total Candidate.Before := ⟨fun a b => le_total b.key a.key⟩

instance : IsTrans Candidate Candidate.Before := ⟨fun _ _ _ first second => second.trans first⟩

def candidatesOf (query : String) (sources : List JsonDict) : Except Exc (List Candidate) :=
  sources.zipIdx.mapM fun entry => do
    let score ← scoreOf toFloat entry.1
    pure ⟨entry.2, entry.1, sourceRelevanceScore texts query (sourceText texts entry.1), score⟩

def sourceName (source : JsonDict) : String :=
  strOr texts.toChatTexts (source.firstOf ["source_name", "document_id"]) "企业知识库"

def selectKnowledgeSource (state : GraphState) : Except Exc GraphState :=
  if state.intent = .general then
    .ok { state.traced "select_knowledge_source" "寒暄场景跳过知识库检索。" with
      selectedSource := [], relevanceScore := 0 }
  else do
    let candidates ← candidatesOf texts toFloat state.query state.sources
    match candidates.insertionSort Candidate.Before with
    | [] => pure { state.traced "select_knowledge_source" "未找到可用知识库片段。" with
        selectedSource := [], relevanceScore := 0, requiresHuman := true }
    | best :: _ => pure { state.traced "select_knowledge_source"
          ("选中来源 " ++ sourceName texts best.source ++ "（相关度 " ++ toString best.relevance ++
            "，候选 #" ++ toString (best.index + 1) ++ "）。") with
        selectedSource := best.source, relevanceScore := best.relevance }

def draftText (text : String) : String :=
  if text.length ≤ 360 then text else (text.take 360).toString ++ "..."

def draftAnswer (state : GraphState) : GraphState :=
  if state.intent = .general then
    { state.traced "draft_answer" "生成寒暄回复。" with
      answer := "您好，我在线，随时可以协助处理客户服务问题。请问今天需要我帮您处理哪类咨询？" }
  else if state.selectedSource = [] then
    { state.traced "draft_answer" "无匹配知识，生成保守兜底回复。" with
      answer := "您好，已经收到您的问题。当前知识库没有找到足够明确的规则，" ++
        "请客服先补充订单号、商品状态和具体诉求，再按店铺政策处理。"
      requiresHuman := true }
  else
    { state.traced "draft_answer" "基于最佳知识片段生成回复草稿。" with
      answer := "您好，已经收到您的问题。根据店铺当前规则，" ++
        draftText (texts.strip (sourceText texts state.selectedSource)) ++
        "\n\n您可以先安抚客户，并请客户提供订单号、商品状态照片和具体诉求，再按店铺政策协助处理。\n\n" ++
        "客服备注：本回复参考企业知识库来源 1（" ++ sourceName texts state.selectedSource ++ "）。" }

structure Verdict where
  confidence : ℚ
  shown : String
  requiresHuman : Bool
  detail : String

def verdict (state : GraphState) : Verdict :=
  match state.intent with
  | .escalationRisk => ⟨18 / 100, "0.18", true, "高风险诉求，建议升级人工复核。"⟩
  | .complaint =>
    if state.selectedSource ≠ [] then ⟨42 / 100, "0.42", true, "投诉场景需人工关注，自动回复仅作初稿。"⟩
    else ⟨28 / 100, "0.28", true, "投诉场景需人工关注，自动回复仅作初稿。"⟩
  | .general => ⟨9 / 10, "0.90", state.requiresHuman, "寒暄场景，无需人工升级。"⟩
  | .knowledgeQuery =>
    if state.sources = [] then ⟨25 / 100, "0.25", true, "知识库为空，无法支撑自动答复。"⟩
    else if state.selectedSource = [] then ⟨32 / 100, "0.32", true, "未匹配到相关知识片段。"⟩
    else if state.relevanceScore < 2 then
      ⟨48 / 100, "0.48", true, "知识相关度偏低，建议人工确认后发送。"⟩
    else ⟨82 / 100, "0.82", state.requiresHuman, "置信度良好，可直接发送。"⟩

def checkConfidence (state : GraphState) : GraphState :=
  let found := verdict state
  { state.traced "check_confidence" (found.detail ++ "（confidence=" ++ found.shown ++ "）") with
    confidence := found.confidence, requiresHuman := found.requiresHuman }

def escalates (state : GraphState) : Bool :=
  state.requiresHuman && decide (state.confidence < 55 / 100)

def escalateToHuman (state : GraphState) : GraphState :=
  let answer := if state.answer ≠ "" then state.answer else
    "您好，已经收到您的问题。当前情况建议由人工客服继续跟进，" ++
      "请先记录客户诉求、订单号和联系方式，再按店铺升级流程处理。"
  { state.traced "escalate_to_human" "已附加人工升级提示。" with
    answer := if textIn "客服备注" answer then answer
      else answer ++ "\n\n客服备注：系统判断该问题置信度不足或存在升级风险，请人工复核后再发送给客户。"
    requiresHuman := true }

def runCustomerServicePrep (query : String) (sources : List JsonDict) : Except Exc GraphState := do
  let state ← selectKnowledgeSource texts toFloat (classifyIntent texts { query, sources })
  pure (checkConfidence state)

def runCustomerServiceMockGraph (query : String) (sources : List JsonDict) :
    Except Exc GraphState := do
  let state ← selectKnowledgeSource texts toFloat (classifyIntent texts { query, sources })
  let state := checkConfidence (draftAnswer texts state)
  pure (if escalates state then escalateToHuman state else state)

structure GateHolds (query : String) (sources : List JsonDict) : Prop where
  answered : (∀ source ∈ sources, ∃ score, scoreOf toFloat source = .ok score) →
    ∃ prep, runCustomerServicePrep texts toFloat query sources = .ok prep
  failing : ∀ x, runCustomerServicePrep texts toFloat query sources = .error x ↔
    runCustomerServiceMockGraph texts toFloat query sources = .error x
  same : ∀ prep, runCustomerServicePrep texts toFloat query sources = .ok prep →
    ∃ graph, runCustomerServiceMockGraph texts toFloat query sources = .ok graph ∧
      graph.intent = prep.intent ∧ graph.selectedSource = prep.selectedSource ∧
      graph.relevanceScore = prep.relevanceScore ∧ graph.confidence = prep.confidence ∧
      graph.requiresHuman = prep.requiresHuman
  gated : ∀ prep, runCustomerServicePrep texts toFloat query sources = .ok prep →
    prep.requiresHuman = false → prep.intent = .general ∨ prep.intent = .knowledgeQuery ∧
      ∃ candidates, candidatesOf texts toFloat query sources = .ok candidates ∧
        ∃ best ∈ candidates, (∀ other ∈ candidates, other.key ≤ best.key) ∧
          prep.selectedSource = best.source ∧
          2 ≤ sourceRelevanceScore texts query (sourceText texts best.source)
  escalated : ∀ graph, runCustomerServiceMockGraph texts toFloat query sources = .ok graph →
    ("escalate_to_human" ∉ graph.graphTrace.map TraceEntry.node ↔ graph.requiresHuman = false)

variable {texts toFloat} {query : String} {sources : List JsonDict} {state : GraphState}

theorem verdict_draftAnswer (state : GraphState) :
    verdict (draftAnswer texts state) = verdict state := by
  unfold draftAnswer
  split
  · rfl
  · split
    · rename_i unsourced
      unfold verdict
      cases intent : state.intent with
      | escalationRisk => simp [GraphState.traced, intent]
      | complaint => simp [GraphState.traced, intent]
      | general => contradiction
      | knowledgeQuery => simp [GraphState.traced, intent, unsourced]
    · rfl

structure Selected (texts : AgentTexts) (toFloat : Json → Except Exc ℚ) (query : String)
    (sources : List JsonDict) (state : GraphState) : Prop where
  trace : state.graphTrace.map TraceEntry.node = ["classify_intent", "select_knowledge_source"]
  query_eq : state.query = query
  unasked : state.requiresHuman = true → state.intent ≠ .general ∧ state.selectedSource = []
  best : state.selectedSource ≠ [] → ∃ candidates,
    candidatesOf texts toFloat query sources = .ok candidates ∧
      ∃ best ∈ candidates, (∀ other ∈ candidates, other.key ≤ best.key) ∧
        state.selectedSource = best.source ∧ state.relevanceScore = best.relevance

theorem candidate_relevance {candidates : List Candidate}
    (found : candidatesOf texts toFloat query sources = .ok candidates) {candidate : Candidate}
    (mem : candidate ∈ candidates) :
    candidate.relevance = sourceRelevanceScore texts query (sourceText texts candidate.source) := by
  have read : candidates.map (fun candidate => (candidate.source, candidate.relevance)) =
      sources.zipIdx.map fun entry =>
        (entry.1, sourceRelevanceScore texts query (sourceText texts entry.1)) := by
    refine Process.Fallible.map_of_mapM found fun entry candidate made => ?_
    obtain ⟨score, _, made⟩ := Process.Fallible.bind_ok.mp made
    cases made
    rfl
  have there := List.mem_map_of_mem
    (f := fun candidate : Candidate => (candidate.source, candidate.relevance)) mem
  rw [read] at there
  obtain ⟨entry, _, same⟩ := List.mem_map.mp there
  obtain ⟨same, relevance⟩ := Prod.mk.inj same
  rw [← relevance, ← same]

theorem selected_of_ok
    (found : selectKnowledgeSource texts toFloat (classifyIntent texts { query, sources }) =
      .ok state) : Selected texts toFloat query sources state := by
  unfold selectKnowledgeSource at found
  split at found
  · cases found
    exact ⟨rfl, rfl, fun asked => Bool.noConfusion asked, fun other => absurd rfl other⟩
  · rename_i specific
    obtain ⟨candidates, listed, found⟩ := Process.Fallible.bind_ok.mp found
    split at found
    · cases found
      exact ⟨rfl, rfl, fun _ => ⟨specific, rfl⟩, fun other => absurd rfl other⟩
    · rename_i best rest sorted
      cases found
      refine ⟨rfl, rfl, fun asked => Bool.noConfusion asked,
        fun _ => ⟨candidates, listed, best, ?_, ?_, rfl, rfl⟩⟩
      · exact (List.mem_insertionSort Candidate.Before).mp (sorted ▸ List.mem_cons_self)
      · intro other mem
        have ordered := List.pairwise_insertionSort Candidate.Before candidates
        have there := (List.mem_insertionSort Candidate.Before).mpr mem
        rw [sorted] at ordered there
        cases List.mem_cons.mp there with
        | inl same => exact same ▸ le_refl _
        | inr later => exact (List.pairwise_cons.mp ordered).1 other later

theorem prep_eq (query : String) (sources : List JsonDict) :
    runCustomerServicePrep texts toFloat query sources =
      (selectKnowledgeSource texts toFloat (classifyIntent texts { query, sources })).map
        checkConfidence := by
  unfold runCustomerServicePrep
  cases selectKnowledgeSource texts toFloat (classifyIntent texts { query, sources }) with
  | error x => rfl
  | ok state => rfl

theorem exists_selected (scored : ∀ source ∈ sources, ∃ score, scoreOf toFloat source = .ok score) :
    ∃ state, selectKnowledgeSource texts toFloat (classifyIntent texts { query, sources }) =
      .ok state := by
  obtain ⟨candidates, listed⟩ : ∃ candidates,
      candidatesOf texts toFloat query sources = .ok candidates := by
    refine Process.Fallible.mapM_ok_iff.mpr fun entry mem => ?_
    obtain ⟨score, eq⟩ := scored entry.1 (List.fst_mem_of_mem_zipIdx mem)
    exact ⟨_, Process.Fallible.bind_ok.mpr ⟨score, eq, rfl⟩⟩
  unfold selectKnowledgeSource
  split
  · exact ⟨_, rfl⟩
  · refine (exists_congr fun state => Process.Fallible.bind_ok).mpr ?_
    cases sorted : candidates.insertionSort Candidate.Before with
    | nil => exact ⟨_, candidates, listed, by rw [sorted]; rfl⟩
    | cons best rest => exact ⟨_, candidates, listed, by rw [sorted]; rfl⟩

def concluded (state : GraphState) : GraphState :=
  if escalates state then escalateToHuman state else state

theorem graph_eq (query : String) (sources : List JsonDict) :
    runCustomerServiceMockGraph texts toFloat query sources =
      (selectKnowledgeSource texts toFloat (classifyIntent texts { query, sources })).map
        fun state => concluded (checkConfidence (draftAnswer texts state)) := by
  unfold runCustomerServiceMockGraph
  cases selectKnowledgeSource texts toFloat (classifyIntent texts { query, sources }) with
  | error x => rfl
  | ok state => rfl

theorem verdict_cases (state : GraphState) :
    (verdict state).requiresHuman = true ∧ (verdict state).confidence < 55 / 100 ∨
      (verdict state).requiresHuman = state.requiresHuman ∧ (state.intent = .general ∨
        state.intent = .knowledgeQuery ∧ state.selectedSource ≠ [] ∧ 2 ≤ state.relevanceScore) := by
  have small : (18 / 100 : ℚ) < 55 / 100 ∧ (42 / 100 : ℚ) < 55 / 100 ∧ (28 / 100 : ℚ) < 55 / 100 ∧
      (25 / 100 : ℚ) < 55 / 100 ∧ (32 / 100 : ℚ) < 55 / 100 ∧ (48 / 100 : ℚ) < 55 / 100 := by
    decide +kernel
  unfold verdict
  cases intent : state.intent with
  | escalationRisk => exact .inl ⟨rfl, small.1⟩
  | complaint =>
    refine .inl ?_
    dsimp only
    split
    · exact ⟨rfl, small.2.1⟩
    · exact ⟨rfl, small.2.2.1⟩
  | general => exact .inr ⟨rfl, .inl rfl⟩
  | knowledgeQuery =>
    dsimp only
    split
    · exact .inl ⟨rfl, small.2.2.2.1⟩
    · split
      · exact .inl ⟨rfl, small.2.2.2.2.1⟩
      · split
        · exact .inl ⟨rfl, small.2.2.2.2.2⟩
        · rename_i sourced near
          exact .inr ⟨rfl, .inr ⟨rfl, sourced, Nat.not_lt.mp near⟩⟩

theorem Selected.unsure (selected : Selected texts toFloat query sources state)
    (asked : (verdict state).requiresHuman = true) : (verdict state).confidence < 55 / 100 := by
  cases verdict_cases state with
  | inl sure => exact sure.2
  | inr kept =>
    have unasked := selected.unasked (kept.1.symm.trans asked)
    cases kept.2 with
    | inl greeting => exact absurd greeting unasked.1
    | inr known => exact absurd unasked.2 known.2.1

theorem draftAnswer_fields (state : GraphState) :
    (draftAnswer texts state).intent = state.intent ∧
      (draftAnswer texts state).selectedSource = state.selectedSource ∧
      (draftAnswer texts state).relevanceScore = state.relevanceScore ∧
      (draftAnswer texts state).graphTrace.map TraceEntry.node =
        state.graphTrace.map TraceEntry.node ++ ["draft_answer"] := by
  unfold draftAnswer
  split
  · simp [GraphState.traced]
  · split
    · simp [GraphState.traced]
    · simp [GraphState.traced]

theorem Selected.concluded_eq (selected : Selected texts toFloat query sources state) :
    let final := concluded (checkConfidence (draftAnswer texts state))
    final.intent = state.intent ∧ final.selectedSource = state.selectedSource ∧
      final.relevanceScore = state.relevanceScore ∧ final.confidence = (verdict state).confidence ∧
      final.requiresHuman = (verdict state).requiresHuman ∧
      final.graphTrace.map TraceEntry.node =
        ["classify_intent", "select_knowledge_source", "draft_answer", "check_confidence"] ++
          if (verdict state).requiresHuman = true then ["escalate_to_human"] else [] := by
  obtain ⟨intent, source, relevance, trace⟩ := @draftAnswer_fields texts state
  have checked : (verdict (draftAnswer texts state)) = verdict state := verdict_draftAnswer state
  have traced : ∀ detail : String, (((draftAnswer texts state).traced "check_confidence"
      detail).graphTrace).map TraceEntry.node =
      ["classify_intent", "select_knowledge_source", "draft_answer", "check_confidence"] := by
    intro detail
    rw [GraphState.traced, List.map_append, trace, selected.trace]
    rfl
  cases asked : (verdict state).requiresHuman with
  | true =>
    have routed : escalates (checkConfidence (draftAnswer texts state)) = true := by
      simp [escalates, checkConfidence, checked, asked, selected.unsure asked]
    simp only [concluded, routed, if_true]
    refine ⟨intent, source, relevance, congrArg Verdict.confidence checked, rfl, ?_⟩
    exact List.map_append.trans (congrArg (· ++ _) (traced _))
  | false =>
    have routed : escalates (checkConfidence (draftAnswer texts state)) = false := by
      simp [escalates, checkConfidence, checked, asked]
    simp only [concluded, routed, Bool.false_eq_true, if_false, List.append_nil]
    refine ⟨intent, source, relevance, congrArg Verdict.confidence checked, ?_, traced _⟩
    exact (congrArg Verdict.requiresHuman checked).trans asked

theorem Selected.gated (selected : Selected texts toFloat query sources state)
    (kept : (verdict state).requiresHuman = false) :
    state.intent = .general ∨ state.intent = .knowledgeQuery ∧
      ∃ candidates, candidatesOf texts toFloat query sources = .ok candidates ∧
        ∃ best ∈ candidates, (∀ other ∈ candidates, other.key ≤ best.key) ∧
          state.selectedSource = best.source ∧
          2 ≤ sourceRelevanceScore texts query (sourceText texts best.source) := by
  cases verdict_cases state with
  | inl asked =>
    rw [asked.1] at kept
    cases kept
  | inr given =>
    cases given.2 with
    | inl greeting => exact .inl greeting
    | inr known =>
      obtain ⟨candidates, listed, best, mem, greatest, same, relevance⟩ :=
        selected.best known.2.1
      refine .inr ⟨known.1, candidates, listed, best, mem, greatest, same, ?_⟩
      rw [← candidate_relevance listed mem, ← relevance]
      exact known.2.2

theorem customer_service_gate (texts : AgentTexts) (toFloat : Json → Except Exc ℚ)
    (query : String) (sources : List JsonDict) : GateHolds texts toFloat query sources := by
  have prep := @prep_eq texts toFloat query sources
  have graph := @graph_eq texts toFloat query sources
  cases found : selectKnowledgeSource texts toFloat (classifyIntent texts { query, sources }) with
  | error y =>
    rw [found] at prep graph
    refine ⟨fun scored => ?_, fun x => by rw [prep, graph]; rfl, ?_, ?_, ?_⟩
    · obtain ⟨state, eq⟩ := @exists_selected texts toFloat query sources scored
      cases found.symm.trans eq
    · exact fun _ prepared => (nomatch prep.symm.trans prepared)
    · exact fun _ prepared => (nomatch prep.symm.trans prepared)
    · exact fun _ run => (nomatch graph.symm.trans run)
  | ok state =>
    have selected := selected_of_ok found
    obtain ⟨intent, source, relevance, confidence, human, trace⟩ := selected.concluded_eq
    rw [found] at prep graph
    refine ⟨fun _ => ⟨_, prep⟩, fun x => by rw [prep, graph]; exact ⟨nofun, nofun⟩, ?_, ?_, ?_⟩
    · intro final prepared
      cases prep.symm.trans prepared
      exact ⟨_, graph, intent, source, relevance, confidence, human⟩
    · intro final prepared kept
      cases prep.symm.trans prepared
      exact selected.gated kept
    · intro final run
      cases graph.symm.trans run
      rw [trace, human]
      cases (verdict state).requiresHuman with
      | true => decide
      | false => decide

end AgentHive.CustomerService
