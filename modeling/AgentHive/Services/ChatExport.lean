import AgentHive.Llm.Values
import AgentHive.Store.CsvText
import Mathlib.Data.Rat.Init

/-!
The history of a conversation as comma-separated text: rows about the conversation
that are put together by hand, and the messages through the writer of the library.
-/

namespace AgentHive.ChatExport

open CsvText (Text Plain csvReader writeRow quoted Separates)
open CsvText.Reader (feed)

/-- `str` of identifiers and amounts, and `isoformat`. -/
structure ExportTexts where
  uuid : UUID → Text
  isoformat : Nat → Text
  decimal : ℚ → Text
  uuid_plain : ∀ id, Plain (uuid id)
  isoformat_plain : ∀ instant, Plain (isoformat instant)
  isoformat_quotes : ∀ instant, '"' ∉ isoformat instant

structure ConversationSession where
  id : UUID
  title : Text
  agentId : Option UUID
  source : Text
  status : Text
  createdAt : Nat
  updatedAt : Nat
  source_le : source.length ≤ 40
  /-- No operation gives a conversation another status. -/
  active : status = "active".toList

structure ChatMessageResponse where
  id : UUID
  conversationId : UUID
  role : Text
  content : Text
  userId : Option UUID
  requestId : Option Text
  modelKey : Option Text
  providerKey : Option Text
  inputTokens : Int
  outputTokens : Int
  totalTokens : Int
  costUsd : ℚ
  createdAt : Nat

def exportFieldnames : List Text :=
  ["message_id", "conversation_id", "role", "content", "user_id", "request_id", "model_key",
    "provider_key", "input_tokens", "output_tokens", "total_tokens", "cost_usd",
    "created_at"].map String.toList

variable (texts : ExportTexts)

def messageRow (item : ChatMessageResponse) : List Text :=
  [texts.uuid item.id, texts.uuid item.conversationId, item.role, item.content,
    (item.userId.map texts.uuid).getD [], item.requestId.getD [], item.modelKey.getD [],
    item.providerKey.getD [], (toString item.inputTokens).toList,
    (toString item.outputTokens).toList, (toString item.totalTokens).toList,
    texts.decimal item.costUsd, texts.isoformat item.createdAt]

def csvEscape (value : Text) : Text :=
  if value.any [',', '"', '\n'].contains then quoted value else value

def metadataLine (key : String) (value : Text) : Text :=
  key.toList ++ ',' :: value ++ ['\n']

def chatHistoryToCsv (conversation : ConversationSession) (items : List ChatMessageResponse) :
    Text :=
  metadataLine "# conversation_id" (texts.uuid conversation.id) ++
    (metadataLine "# title" (csvEscape conversation.title) ++
    (metadataLine "# agent_id" ((conversation.agentId.map texts.uuid).getD []) ++
    (metadataLine "# source" conversation.source ++
    (metadataLine "# status" conversation.status ++
    (metadataLine "# created_at" (texts.isoformat conversation.createdAt) ++
    (metadataLine "# updated_at" (texts.isoformat conversation.updatedAt) ++
    (writeRow exportFieldnames ++ items.flatMap (writeRow ∘ messageRow texts))))))))

def chatHistoryRows (conversation : ConversationSession) (items : List ChatMessageResponse) :
    List (List Text) :=
  ["# conversation_id".toList, texts.uuid conversation.id] ::
    ["# title".toList, conversation.title] ::
    ["# agent_id".toList, (conversation.agentId.map texts.uuid).getD []] ::
    ["# source".toList, conversation.source] ::
    ["# status".toList, conversation.status] ::
    ["# created_at".toList, texts.isoformat conversation.createdAt] ::
    ["# updated_at".toList, texts.isoformat conversation.updatedAt] ::
    exportFieldnames :: items.map (messageRow texts)

variable {value rest : Text} {rows : List (List Text)}

/-- The key of a line is read without its value. -/
theorem feed_key {key : String} (plain : Plain key.toList) (first : key.toList.head? = some '#') :
    feed { rows := rows } (metadataLine key value ++ rest) =
      feed ⟨.startField, [], [key.toList], rows⟩ (value ++ '\n' :: rest) := by
  obtain ⟨more, eq⟩ := List.head?_eq_some_iff.mp first
  have read := CsvText.readAs_plain plain [] rows ',' (value ++ '\n' :: rest) (.inl rfl)
  have begun : metadataLine key value ++ rest = '#' :: (more ++ ',' :: (value ++ '\n' :: rest)) := by
    simp [metadataLine, eq]
  rw [begun, CsvText.feed_startRecord (by decide), ← List.cons_append, ← eq, read,
    CsvText.feed_cons_of_plain (by decide) (by simp)]
  rfl

theorem feed_metadataLine {key : String} {written : Text} (plain : Plain key.toList)
    (first : key.toList.head? = some '#') (read : CsvText.ReadAs written value) :
    feed { rows := rows } (metadataLine key written ++ rest) =
      feed { rows := rows ++ [[key.toList, value]] } rest := by
  rw [feed_key plain first]
  have line := @CsvText.feed_row _ _ rest _ rows _ (.inl rfl) _ read .nil [key.toList]
  simpa using line

theorem feed_messages (items : List ChatMessageResponse) (rows : List (List Text)) :
    (feed { rows } (items.flatMap (writeRow ∘ messageRow texts))).finish =
      rows ++ items.map (messageRow texts) := by
  induction items generalizing rows with
  | nil => simp [feed, CsvText.Reader.finish]
  | cons item items ih =>
    rw [List.flatMap_cons, Function.comp_apply, messageRow, CsvText.feed_writeRow, ih]
    simp [messageRow]

/-- A title is written in quotes, or has none of the characters that call for them. -/
def TitleKept (title : Text) : Prop :=
  title.any [',', '"', '\n'].contains = true ∨ '\r' ∉ title

theorem readAs_csvEscape {title : Text} (kept : TitleKept title) :
    CsvText.ReadAs (csvEscape title) title := by
  rw [csvEscape]
  split
  · exact CsvText.readAs_quoted title
  · next plain =>
    have carriage := kept.resolve_left plain
    refine CsvText.readAs_plain ⟨fun c mem => ?_, fun first => ?_⟩
    · simp only [Separates, CsvText.isNewline]
      grind
    · have mem := List.mem_of_mem_head? first
      exact plain (List.any_eq_true.mpr ⟨_, mem, by decide⟩)

/-- A title with a bare carriage return ends its row there. -/
theorem title_ne {title : Text} (kept : ¬ TitleKept title) (more : List (List Text)) :
    (feed { rows := rows }
        (metadataLine "# title" (csvEscape title) ++ rest)).finish ≠
      rows ++ ["# title".toList, title] :: more := by
  obtain ⟨plain, carriage⟩ := not_or.mp kept
  rw [feed_key (by decide) rfl, csvEscape, if_neg plain]
  refine CsvText.raw_ne (fun first => ?_) ⟨'\r', not_not.mp carriage, .inr rfl⟩ more
  have mem := List.mem_of_mem_head? first
  exact plain (List.any_eq_true.mpr ⟨_, mem, by decide⟩)

theorem source_ne (conversation : ConversationSession) (kept : ¬ Plain conversation.source)
    (more : List (List Text)) :
    (feed { rows := rows } (metadataLine "# source" conversation.source ++
        (metadataLine "# status" conversation.status ++
        (metadataLine "# created_at" (texts.isoformat conversation.createdAt) ++
        (metadataLine "# updated_at" (texts.isoformat conversation.updatedAt) ++ rest))))).finish ≠
      rows ++ ["# source".toList, conversation.source] :: more := by
  rw [feed_key (by decide) rfl]
  by_cases raw : conversation.source.head? = some '"'
  · obtain ⟨text, eq⟩ := List.head?_eq_some_iff.mp raw
    have short := conversation.source_le
    -- The lines after the one of the source have no quote, and more than forty characters.
    have swallowed : conversation.source ++ '\n' :: (metadataLine "# status" conversation.status ++
        (metadataLine "# created_at" (texts.isoformat conversation.createdAt) ++
        (metadataLine "# updated_at" (texts.isoformat conversation.updatedAt) ++ rest))) =
        '"' :: (text ++ '\n' :: ((metadataLine "# status" "active".toList ++
          metadataLine "# created_at" (texts.isoformat conversation.createdAt) ++
          "# updated_at,".toList) ++
          (texts.isoformat conversation.updatedAt ++ '\n' :: rest))) := by
      simp [eq, conversation.active, metadataLine]
    rw [swallowed, CsvText.feed_cons_of_plain (by decide) (by simp)]
    refine CsvText.opened_quote_ne (.inr (.inl rfl)) ?_ ?_ ?_ more
    · simp [eq]
    · simp [metadataLine]
      omega
    · simp [metadataLine, texts.isoformat_quotes]
  · refine CsvText.raw_ne raw ?_ more
    by_contra none
    exact kept ⟨fun c mem separates => none ⟨c, mem, separates⟩, raw⟩

theorem titleKept_of_read {conversation : ConversationSession} {items : List ChatMessageResponse}
    (read : csvReader (chatHistoryToCsv texts conversation items) =
      chatHistoryRows texts conversation items) : TitleKept conversation.title := by
  by_contra title
  rw [csvReader, chatHistoryToCsv, chatHistoryRows, feed_metadataLine (by decide) rfl
    (CsvText.readAs_plain (texts.uuid_plain _))] at read
  exact title_ne title _ read

/-- The file reads back just where the title and the source are read as they are written. -/
theorem csvReader_chatHistoryToCsv (conversation : ConversationSession)
    (items : List ChatMessageResponse) :
    csvReader (chatHistoryToCsv texts conversation items) =
        chatHistoryRows texts conversation items ↔
      TitleKept conversation.title ∧ Plain conversation.source := by
  have agent : Plain ((conversation.agentId.map texts.uuid).getD []) := by
    cases conversation.agentId with
    | none => exact ⟨by simp, by simp⟩
    | some id => exact texts.uuid_plain id
  by_cases title : TitleKept conversation.title
  swap
  · exact iff_of_false (fun read => title (titleKept_of_read texts read)) fun both => title both.1
  rw [csvReader, chatHistoryToCsv, chatHistoryRows, feed_metadataLine (by decide) rfl
    (CsvText.readAs_plain (texts.uuid_plain _)),
    feed_metadataLine (by decide) rfl (readAs_csvEscape title), feed_metadataLine (by decide) rfl
    (CsvText.readAs_plain agent)]
  by_cases source : Plain conversation.source
  swap
  · exact iff_of_false (source_ne texts conversation source _) fun both => source both.2
  refine iff_of_true ?_ ⟨title, source⟩
  have status : Plain conversation.status := by
    rw [conversation.active]
    decide
  rw [feed_metadataLine (by decide) rfl (CsvText.readAs_plain source),
    feed_metadataLine (by decide) rfl (CsvText.readAs_plain status),
    feed_metadataLine (by decide) rfl (CsvText.readAs_plain (texts.isoformat_plain _)),
    feed_metadataLine (by decide) rfl (CsvText.readAs_plain (texts.isoformat_plain _)),
    exportFieldnames, List.map_cons, List.map_cons, CsvText.feed_writeRow, feed_messages]
  rfl

def plainTexts : ExportTexts where
  uuid _ := ['0']
  isoformat _ := ['0']
  decimal _ := ['0']
  uuid_plain _ := by decide
  isoformat_plain _ := by decide
  isoformat_quotes _ := by decide

/-- A title with a bare carriage return. -/
def brokenTitle : ConversationSession where
  id := 0
  title := ['a', '\r', 'b']
  agentId := none
  source := "chat_console".toList
  status := "active".toList
  createdAt := 0
  updatedAt := 0
  source_le := by decide
  active := rfl

theorem broken_title_read_as_two_rows :
    ¬ ∀ texts conversation items,
      csvReader (chatHistoryToCsv texts conversation items) =
        chatHistoryRows texts conversation items := by
  intro claimed
  have kept := titleKept_of_read plainTexts (claimed _ brokenTitle [])
  exact absurd kept (by unfold TitleKept; decide)

end AgentHive.ChatExport
