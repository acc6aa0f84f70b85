import AgentHive.Process.Fallible
import AgentHive.Services.ChatService

/-!
How the stream of a chat turn ends.

A block either goes on, or has sent its error event, or raises. The stream
raises exactly when some exception leaves the block it is raised in, and then
no event has ended it.
-/

namespace AgentHive.Chat

open Process (Generator)
open Process.Generator (Silent)
open Rag (Json JsonDict)
open Process.Generator (answers_bind mem_run_bind returns_attempting returns_bind
  run_attempting_of_none run_attempting_of_ok run_attempting_of_some run_awaiting
  run_bind_of_answers run_bind_of_error run_bind_of_ok run_pure yielding yields_awaiting
  yields_bind yields_forEach yields_pure yields_raising yields_yielding)

variable {W ω : Type}

def completedEvents (result : ChatMessageCreateResponse) : List StreamEvent :=
  (knowledgeStatus result).toList ++
    [.status (.persisted result.assistantMessage.id result.requestId), metadataEvent result,
      .done result.assistantMessage.id]

inductive Ends : List StreamEvent → Prop
  | completed (result : ChatMessageCreateResponse) : Ends (completedEvents result)
  | failed (statusCode : Nat) (detail : HttpDetail) (requestId : Option String) :
      Ends [.status (.runtimeFailed requestId), .error statusCode detail requestId]

def WellFormed (events : List StreamEvent) : Prop :=
  ∃ (deltas : List String) (ending : List StreamEvent), Ends ending ∧
    events = .status .accepted :: .status .runtimeStarted :: (deltas.map .delta ++ ending)

def StreamEvent.isTerminal : StreamEvent → Bool
  | .error _ _ _ | .done _ => true
  | _ => false

theorem Ends.exists_terminal {ending : List StreamEvent} (ends : Ends ending) :
    ∃ event ∈ ending, event.isTerminal = true := by
  cases ends with
  | completed result =>
    refine ⟨.done result.assistantMessage.id, ?_, rfl⟩
    exact List.mem_append_right _ (by simp)
  | failed statusCode detail requestId =>
    exact ⟨.error statusCode detail requestId, by simp, rfl⟩

variable {events : List StreamEvent}

theorem WellFormed.exists_terminal (formed : WellFormed events) :
    ∃ event ∈ events, event.isTerminal = true := by
  obtain ⟨deltas, ending, ends, rfl⟩ := formed
  obtain ⟨event, mem, terminal⟩ := ends.exists_terminal
  exact ⟨event, by simp [mem], terminal⟩

inductive BlockEnds {α : Type} : List StreamEvent → Except Exc (Option α) → Prop
  | goesOn (deltas : List String) (a : α) : BlockEnds (deltas.map .delta) (.ok (some a))
  | ended (deltas : List String) (statusCode : Nat) (detail : HttpDetail)
      (requestId : Option String) :
      BlockEnds (deltas.map .delta ++
        [.status (.runtimeFailed requestId), .error statusCode detail requestId]) (.ok none)
  | raised (deltas : List String) (x : Exc) : BlockEnds (deltas.map .delta) (.error x)

inductive RestEnds : List StreamEvent → Except Exc Unit → Prop
  | returned (deltas : List String) {ending : List StreamEvent} (ends : Ends ending) :
      RestEnds (deltas.map .delta ++ ending) (.ok ())
  | raised {events : List StreamEvent} (x : Exc)
      (open_ : ∀ event ∈ events, event.isTerminal = false) : RestEnds events (.error x)

variable {event : StreamEvent}

theorem not_terminal_of_mem_deltas {deltas : List String}
    (mem : event ∈ deltas.map StreamEvent.delta) : event.isTerminal = false := by
  obtain ⟨content, _, rfl⟩ := List.mem_map.mp mem
  rfl

theorem RestEnds.after_deltas {result : Except Exc Unit} (ends : RestEnds events result)
    (deltas : List String) : RestEnds (deltas.map .delta ++ events) result := by
  cases ends with
  | returned later ends =>
    rw [← List.append_assoc, ← List.map_append]
    exact .returned (deltas ++ later) ends
  | raised x still =>
    refine .raised x fun event mem => ?_
    cases List.mem_append.mp mem with
    | inl before => exact not_terminal_of_mem_deltas before
    | inr after => exact still event after

variable {α : Type} {s : W × ChatStore}
  {block : ChatSession W StreamEvent (Option α)} {rest : α → ChatSession W StreamEvent Unit}

theorem restEnds_unlessEnded (first : BlockEnds (block.run s).values (block.run s).result)
    (later : ∀ a s', RestEnds ((rest a).run s').values ((rest a).run s').result) :
    RestEnds ((unlessEnded block rest).run s).values ((unlessEnded block rest).run s).result := by
  generalize sent : (block.run s).values = values at first
  generalize ended : (block.run s).result = result at first
  cases first with
  | goesOn deltas a =>
    rw [unlessEnded, run_bind_of_ok ended, sent]
    exact (later a _).after_deltas deltas
  | ended deltas statusCode detail requestId =>
    rw [unlessEnded, run_bind_of_ok ended, sent]
    simp only [run_pure, List.append_nil]
    exact .returned deltas (.failed statusCode detail requestId)
  | raised deltas x =>
    rw [unlessEnded, run_bind_of_error ended, sent]
    exact .raised x fun event mem => not_terminal_of_mem_deltas mem

def StreamEvent.isDelta : StreamEvent → Prop
  | .delta _ => True
  | _ => False

theorem exists_deltas (h : ∀ event ∈ events, event.isDelta) :
    ∃ deltas : List String, events = deltas.map StreamEvent.delta := by
  induction events with
  | nil => exact ⟨[], rfl⟩
  | cons event events ih =>
    obtain ⟨deltas, eq⟩ := ih fun e mem => h e (List.mem_cons_of_mem _ mem)
    cases event with
    | delta content => exact ⟨content :: deltas, by rw [eq, List.map_cons]⟩
    | _ => exact (h _ List.mem_cons_self).elim

theorem blockEnds_guarded {block : ChatSession W StreamEvent α}
    (sends : Generator.Yields StreamEvent.isDelta block) (requestId : Option String)
    (s : W × ChatStore) :
    BlockEnds ((guarded requestId block).run s).values
      ((guarded requestId block).run s).result := by
  obtain ⟨deltas, sent⟩ := exists_deltas (sends s)
  cases ended : (block.run s).result with
  | ok a =>
    rw [guarded, run_attempting_of_ok ended, sent]
    exact .goesOn deltas a
  | error x =>
    cases x with
    | http statusCode detail =>
      rw [guarded, run_attempting_of_some ended rfl, sent]
      exact .ended deltas statusCode detail requestId
    | _ =>
      rw [guarded, run_attempting_of_none ended rfl, sent]
      exact .raised deltas _

theorem silent_statement (runtime : ChatRuntime W) (kind : ChatStatement) (answer : ChatStore → α)
    (after : ChatStore → ChatStore) :
    Silent (statement runtime kind answer after : ChatSession W ω α) :=
  yields_awaiting _

theorem silent_principalDepartmentIds (runtime : ChatRuntime W) (principal : Principal) :
    Silent (principalDepartmentIds runtime principal : ChatSession W ω (List UUID)) := by
  rw [principalDepartmentIds]
  split
  · exact yields_pure _
  · exact silent_statement runtime _ _ _

theorem silent_assertAccess (runtime : ChatRuntime W) (principal : Principal)
    (conversation : ConversationSession) :
    Silent (assertAccess runtime principal conversation :
      ChatSession W ω ConversationSession) := by
  refine yields_bind (silent_principalDepartmentIds runtime principal) ?_
  intro departmentIds
  split
  · exact yields_pure _
  · exact yields_raising _

theorem silent_getAccessibleConversationSession (runtime : ChatRuntime W)
    (principal : Principal) (conversationId : UUID) :
    Silent (getAccessibleConversationSession runtime principal conversationId :
      ChatSession W ω ConversationSession) := by
  refine yields_bind (silent_statement runtime _ _ _) ?_
  intro row
  cases row with
  | none => exact yields_raising _
  | some conversation => exact silent_assertAccess runtime principal conversation

theorem silent_listChatMessages (runtime : ChatRuntime W) (principal : Principal)
    (conversationId : UUID) :
    Silent (listChatMessagesForConversation runtime principal conversationId :
      ChatSession W ω (List ChatMessageResponse)) := by
  refine Generator.yields_catching (silent_statement runtime _ _ _) ?_
  intro x handle taken
  split at taken
  · cases taken
    exact yields_awaiting _
  · cases taken

theorem yields_onAgentEvent (turn : AgentTurn) (event : AgentEvent) :
    Generator.Yields StreamEvent.isDelta
      (onAgentEvent turn event : ChatSession W StreamEvent AgentTurn) := by
  cases event with
  | delta chunk =>
    simp only [onAgentEvent]
    split
    · exact yields_pure _
    · exact yields_bind (yields_yielding trivial)
        fun _ => yields_pure _
  | done response => exact yields_pure _

theorem yields_onDelta (collected : List String) (delta : String) :
    Generator.Yields StreamEvent.isDelta
      (onDelta collected delta : ChatSession W StreamEvent (List String)) := by
  rw [onDelta]
  split
  · exact yields_pure _
  · exact yields_bind (yields_yielding trivial)
      fun _ => yields_pure _

theorem yields_runTurn (runtime : ChatRuntime W) (principal : Principal)
    (conversation : ConversationSession) (conversationId : UUID)
    (payload : ChatMessageCreateRequest) (messages : List Message) (requestId : Option String) :
    Generator.Yields StreamEvent.isDelta
      (runTurn runtime principal conversation conversationId payload messages requestId) := by
  refine yields_bind (yields_awaiting _) ?_
  intro decision
  refine Generator.yields_ensuring ?_ _
  cases conversation.agentId with
  | some agentId =>
    exact yields_bind (yields_forEach _ yields_onAgentEvent _)
      fun turn => Generator.yields_computing _
  | none =>
    exact yields_bind (yields_forEach _ yields_onDelta _)
      fun collected => yields_pure _

theorem silent_persistRows (runtime : ChatRuntime W) (principal : Principal)
    (conversation : ConversationSession) (conversationId : UUID)
    (payload : ChatMessageCreateRequest) (answer : LLMAnswer) :
    Silent (persistRows runtime principal conversation conversationId payload answer :
      ChatSession W ω ChatMessageCreateResponse) :=
  yields_bind (silent_statement runtime _ _ _) fun _ =>
    yields_bind (silent_statement runtime _ _ _) fun _ => yields_pure _

theorem blockEnds_onStorageFault (runtime : ChatRuntime W) (principal : Principal)
    (conversationId : UUID) (payload : ChatMessageCreateRequest) (answer : LLMAnswer)
    (requestId : Option String) (s : W × ChatStore) :
    BlockEnds
      ((onStorageFault runtime principal conversationId payload answer requestId).run s).values
      ((onStorageFault runtime principal conversationId payload answer requestId).run s).result := by
  have silent := (silent_statement (ω := StreamEvent) runtime .rollback (fun _ => ()) id).values_eq s
  cases ended : ((statement runtime .rollback (fun _ => ()) id :
      ChatSession W StreamEvent Unit).run s).result with
  | error x =>
    rw [onStorageFault, run_bind_of_error ended, silent]
    exact .raised [] x
  | ok u =>
    rw [onStorageFault, run_bind_of_ok ended, silent, List.nil_append]
    cases runtime.isDevelopmentEnvironment with
    | true => exact .goesOn [] _
    | false => exact .ended [] 503 (.text "Chat message persistence failed.") requestId

theorem blockEnds_persist (runtime : ChatRuntime W) (principal : Principal)
    (conversation : ConversationSession) (conversationId : UUID)
    (payload : ChatMessageCreateRequest) (answer : LLMAnswer) (requestId : Option String)
    (s : W × ChatStore) :
    BlockEnds
      ((persist runtime principal conversation conversationId payload answer requestId).run
        s).values
      ((persist runtime principal conversation conversationId payload answer requestId).run
        s).result := by
  have silent := (silent_persistRows (ω := StreamEvent) runtime principal conversation
    conversationId payload answer).values_eq s
  cases ended : ((persistRows runtime principal conversation conversationId payload answer :
      ChatSession W StreamEvent ChatMessageCreateResponse).run s).result with
  | ok result =>
    rw [persist, run_attempting_of_ok ended, silent]
    exact .goesOn [] result
  | error x =>
    cases fault : isStorageFault x with
    | true =>
      rw [persist, run_attempting_of_some ended (if_pos fault), silent,
        List.nil_append]
      exact blockEnds_onStorageFault runtime principal conversationId payload answer
        requestId _
    | false =>
      rw [persist, run_attempting_of_none ended
        (if_neg (by rw [fault]; exact Bool.false_ne_true)), silent]
      exact .raised [] x

variable {runtime : ChatRuntime W}

theorem run_sse_of_ok (h : runtime.dumps event = .ok ()) (s : W × ChatStore) :
    (sse runtime event).run s = ⟨[event], s, .ok ()⟩ := by
  rw [sse, run_bind_of_ok (a := ()) (by exact h)]
  rfl

theorem run_sse_of_error {x : Exc} (h : runtime.dumps event = .error x) (s : W × ChatStore) :
    (sse runtime event).run s = ⟨[], s, .error x⟩ := by
  rw [sse, run_bind_of_error (x := x) (by exact h)]
  rfl

/-- The events of a response that `json.dumps` is asked for. -/
def announced (result : ChatMessageCreateResponse) : List StreamEvent :=
  (knowledgeStatus result).toList ++ [metadataEvent result]

def reportStored (runtime : ChatRuntime W) (result : ChatMessageCreateResponse) :
    ChatSession W StreamEvent Unit := do
  yielding (.status (.persisted result.assistantMessage.id result.requestId))
  sse runtime (metadataEvent result)
  yielding (.done result.assistantMessage.id)

theorem report_eq (runtime : ChatRuntime W) (result : ChatMessageCreateResponse) :
    report runtime result = reportKnowledge runtime result >>= fun _ =>
      reportStored runtime result :=
  rfl

variable {result : ChatMessageCreateResponse}

theorem run_reportStored_of_ok (h : runtime.dumps (metadataEvent result) = .ok ())
    (s : W × ChatStore) :
    (reportStored runtime result).run s =
      ⟨[.status (.persisted result.assistantMessage.id result.requestId), metadataEvent result,
        .done result.assistantMessage.id], s, .ok ()⟩ := by
  rw [reportStored, run_bind_of_ok (a := ()) rfl,
    run_bind_of_ok (a := ()) (by rw [run_sse_of_ok h]), run_sse_of_ok h]
  rfl

theorem run_reportStored_of_error {x : Exc} (h : runtime.dumps (metadataEvent result) = .error x)
    (s : W × ChatStore) :
    (reportStored runtime result).run s =
      ⟨[.status (.persisted result.assistantMessage.id result.requestId)], s, .error x⟩ := by
  rw [reportStored, run_bind_of_ok (a := ()) rfl,
    run_bind_of_error (x := x) (by rw [run_sse_of_error h]), run_sse_of_error h]
  rfl

theorem run_reportKnowledge_of_ok
    (h : ∀ event ∈ knowledgeStatus result, runtime.dumps event = .ok ()) (s : W × ChatStore) :
    (reportKnowledge runtime result).run s = ⟨(knowledgeStatus result).toList, s, .ok ()⟩ := by
  rw [reportKnowledge]
  cases status : knowledgeStatus result with
  | none => rfl
  | some event => exact run_sse_of_ok (h event (by rw [status]; rfl)) s

theorem run_reportKnowledge_of_error {x : Exc} (status : knowledgeStatus result = some event)
    (h : runtime.dumps event = .error x) (s : W × ChatStore) :
    (reportKnowledge runtime result).run s = ⟨[], s, .error x⟩ := by
  rw [reportKnowledge, status]
  exact run_sse_of_error h s

theorem not_terminal_of_knowledgeStatus (status : knowledgeStatus result = some event) :
    event.isTerminal = false := by
  rw [knowledgeStatus] at status
  split at status
  · cases status
    rfl
  · cases status

theorem run_report_of_ok (h : ∀ event ∈ announced result, runtime.dumps event = .ok ())
    (s : W × ChatStore) : (report runtime result).run s = ⟨completedEvents result, s, .ok ()⟩ := by
  have first := run_reportKnowledge_of_ok (s := s) fun event mem =>
    h event (List.mem_append_left _ (by simpa using mem))
  have later := run_reportStored_of_ok
    (h (metadataEvent result) (List.mem_append_right _ List.mem_cons_self)) s
  rw [report_eq, run_bind_of_ok (a := ()) (by rw [first]), first, later]
  rfl

theorem report_raises (h : ¬ ∀ event ∈ announced result, runtime.dumps event = .ok ())
    (s : W × ChatStore) :
    ∃ x, ((report runtime result).run s).result = .error x ∧
      ∀ event ∈ ((report runtime result).run s).values, event.isTerminal = false := by
  by_cases knowledge : ∀ event ∈ knowledgeStatus result, runtime.dumps event = .ok ()
  · have first := run_reportKnowledge_of_ok knowledge s
    cases dumped : runtime.dumps (metadataEvent result) with
    | ok u =>
      refine absurd (fun event mem => ?_) h
      cases List.mem_append.mp mem with
      | inl before => exact knowledge event (by simpa using before)
      | inr last => rw [List.mem_singleton.mp last, dumped]
    | error x =>
      have later := run_reportStored_of_error dumped s
      rw [report_eq, run_bind_of_ok (a := ()) (by rw [first]), first, later]
      refine ⟨x, rfl, fun event mem => ?_⟩
      cases List.mem_append.mp mem with
      | inl before =>
        exact not_terminal_of_knowledgeStatus (by simpa using before)
      | inr last =>
        rw [List.mem_singleton.mp last]
        rfl
  · obtain ⟨event, mem, failed⟩ : ∃ event, event ∈ knowledgeStatus result ∧
        runtime.dumps event ≠ .ok () := by
      simpa using knowledge
    cases dumped : runtime.dumps event with
    | ok u => exact absurd dumped failed
    | error x =>
      have first := run_reportKnowledge_of_error mem dumped s
      rw [report_eq, run_bind_of_error (x := x) (by rw [first]), first]
      refine ⟨x, rfl, fun e sent => ?_⟩
      cases sent

theorem restEnds_report (runtime : ChatRuntime W) (result : ChatMessageCreateResponse)
    (s : W × ChatStore) :
    RestEnds ((report runtime result).run s).values ((report runtime result).run s).result := by
  by_cases h : ∀ event ∈ announced result, runtime.dumps event = .ok ()
  · rw [run_report_of_ok h]
    exact .returned [] (.completed result)
  · obtain ⟨x, raised, still⟩ := report_raises h s
    rw [raised]
    exact .raised x still

theorem returns_report :
    Generator.Returns (report runtime result) s ↔
      ∀ event ∈ announced result, runtime.dumps event = .ok () := by
  constructor
  · intro returned
    obtain ⟨u, ok⟩ := returned
    by_contra h
    obtain ⟨x, raised, _⟩ := report_raises h s
    rw [raised] at ok
    cases ok
  · intro h
    exact ⟨(), by rw [run_report_of_ok h]⟩

theorem restEnds_streamTurn (runtime : ChatRuntime W) (principal : Principal)
    (conversation : ConversationSession) (conversationId : UUID)
    (payload : ChatMessageCreateRequest) (requestId : Option String) (s : W × ChatStore) :
    RestEnds
      ((streamTurn runtime principal conversation conversationId payload requestId).run s).values
      ((streamTurn runtime principal conversation conversationId payload requestId).run
        s).result := by
  have none_terminal : ∀ event ∈ ([] : List StreamEvent), event.isTerminal = false := by
    intro event mem
    cases mem
  have silent := (silent_listChatMessages (ω := StreamEvent) runtime principal
    conversationId).values_eq s
  cases listed : ((listChatMessagesForConversation runtime principal conversationId :
      ChatSession W StreamEvent (List ChatMessageResponse)).run s).result with
  | error x =>
    rw [streamTurn, run_bind_of_error listed, silent]
    exact .raised x none_terminal
  | ok items =>
    rw [streamTurn, run_bind_of_ok listed, silent, List.nil_append]
    cases read : historyMessages items payload with
    | error x =>
      rw [run_bind_of_error (x := x) rfl]
      exact .raised x none_terminal
    | ok messages =>
      rw [run_bind_of_ok (a := messages) rfl]
      refine restEnds_unlessEnded (blockEnds_guarded (yields_runTurn _ _ _ _ _ _ _) _ _) ?_
      intro answer s'
      refine restEnds_unlessEnded (blockEnds_persist _ _ _ _ _ _ _ _) ?_
      exact fun result s'' => restEnds_report runtime result s''

theorem run_streamChatMessage (runtime : ChatRuntime W) (principal : Principal)
    (conversationId : UUID) (payload : ChatMessageCreateRequest) (requestId : Option String)
    (s : W × ChatStore) :
    (streamChatMessage runtime principal conversationId payload requestId).run s =
      ⟨.status .accepted :: .status .runtimeStarted ::
          ((streamAccepted runtime principal conversationId payload requestId).run s).values,
        ((streamAccepted runtime principal conversationId payload requestId).run s).state,
        ((streamAccepted runtime principal conversationId payload requestId).run s).result⟩ := by
  rw [streamChatMessage, run_bind_of_ok (a := ()) rfl,
    run_bind_of_ok (a := ()) rfl]
  rfl

theorem restEnds_streamAccepted (runtime : ChatRuntime W) (principal : Principal)
    (conversationId : UUID) (payload : ChatMessageCreateRequest) (requestId : Option String)
    (s : W × ChatStore) :
    RestEnds
      ((streamAccepted runtime principal conversationId payload requestId).run s).values
      ((streamAccepted runtime principal conversationId payload requestId).run s).result := by
  refine restEnds_unlessEnded (blockEnds_guarded
    ((silent_getAccessibleConversationSession _ _ _).yields _) _ _) ?_
  exact fun conversation s' => restEnds_streamTurn runtime principal conversation _ _ _ s'

theorem wellFormed_iff_returns (runtime : ChatRuntime W) (principal : Principal)
    (conversationId : UUID) (payload : ChatMessageCreateRequest) (requestId : Option String)
    (s : W × ChatStore) :
    WellFormed ((streamChatMessage runtime principal conversationId payload requestId).run
        s).values ↔
      Generator.Returns (streamAccepted runtime principal conversationId payload requestId)
        s := by
  have ends := restEnds_streamAccepted runtime principal conversationId payload requestId s
  simp only [run_streamChatMessage, Generator.Returns]
  generalize ((streamAccepted runtime principal conversationId payload requestId).run
    s).values = values at ends
  generalize ((streamAccepted runtime principal conversationId payload requestId).run
    s).result = result at ends
  cases ends with
  | returned deltas ends => exact ⟨fun _ => ⟨(), rfl⟩, fun _ => ⟨deltas, _, ends, rfl⟩⟩
  | raised x still =>
    constructor
    · intro formed
      obtain ⟨event, mem, terminal⟩ := formed.exists_terminal
      have open_ : ∀ event ∈ StreamEvent.status .accepted :: .status .runtimeStarted :: values,
          event.isTerminal = false := by
        simp only [List.forall_mem_cons]
        exact ⟨rfl, rfl, still⟩
      rw [open_ event mem] at terminal
      cases terminal
    · intro returned
      obtain ⟨u, eq⟩ := returned
      cases eq

open Process.Generator (Answers Raises Returns)

/-- Once there is an answer: the storage raises what is caught there, and can
then be rolled back, and the events about what is stored have texts. -/
structure StorageCaught (runtime : ChatRuntime W) (principal : Principal)
    (conversation : ConversationSession) (conversationId : UUID)
    (payload : ChatMessageCreateRequest) (answer : LLMAnswer) (requestId : Option String)
    (s : W × ChatStore) : Prop where
  stored : ∀ x s',
    Raises (ω := StreamEvent)
      (persistRows runtime principal conversation conversationId payload answer) s x s' →
    isStorageFault x = true ∧ (runtime.raises .rollback s'.1).1 = none
  texts : ∀ result s',
    Answers (persist runtime principal conversation conversationId payload answer requestId) s
      (some result) s' →
    ∀ event ∈ announced result, runtime.dumps event = .ok ()

/-- Once the conversation is accessible: the history load raises what is caught
there, no message of the history is empty, and only `HTTPException`s leave the
limiter, the agent and the gateway. -/
structure TurnCaught (runtime : ChatRuntime W) (principal : Principal)
    (conversation : ConversationSession) (conversationId : UUID)
    (payload : ChatMessageCreateRequest) (requestId : Option String) (s : W × ChatStore) :
    Prop where
  history : ∀ x s',
    Raises (ω := StreamEvent) (messageRows runtime principal conversationId) s x s' →
    isStorageFault x = true
  readable : ∀ items s',
    Answers (ω := StreamEvent) (listChatMessagesForConversation runtime principal conversationId)
      s items s' →
    ∀ item ∈ items, historyRoles.contains item.role = true → item.content ≠ ""
  turn : ∀ items s' messages,
    Answers (ω := StreamEvent) (listChatMessagesForConversation runtime principal conversationId)
      s items s' →
    historyMessages items payload = .ok messages →
    ∀ x s'',
      Raises (runTurn runtime principal conversation conversationId payload messages requestId)
        s' x s'' →
      x.isHttp = true
  storage : ∀ items s' messages,
    Answers (ω := StreamEvent) (listChatMessagesForConversation runtime principal conversationId)
      s items s' →
    historyMessages items payload = .ok messages →
    ∀ answer s'',
      Answers (runTurn runtime principal conversation conversationId payload messages requestId)
        s' answer s'' →
      StorageCaught runtime principal conversation conversationId payload answer requestId s''

/-- Every exception that an awaited call raises is of a kind that the `except`
around the call names. -/
structure ExceptionsCaught (runtime : ChatRuntime W) (principal : Principal)
    (conversationId : UUID) (payload : ChatMessageCreateRequest) (requestId : Option String)
    (s : W × ChatStore) : Prop where
  access : ∀ x s',
    Raises (ω := StreamEvent) (getAccessibleConversationSession runtime principal conversationId)
      s x s' →
    x.isHttp = true
  accessed : ∀ conversation s',
    Answers (ω := StreamEvent)
      (getAccessibleConversationSession runtime principal conversationId) s conversation s' →
    TurnCaught runtime principal conversation conversationId payload requestId s'

theorem returns_unlessEnded :
    Returns (unlessEnded block rest) s ↔
      Returns block s ∧ ∀ a s', Answers block s (some a) s' → Returns (rest a) s' := by
  rw [unlessEnded, returns_bind]
  constructor
  · intro both
    exact ⟨both.1, fun a s' answered => both.2 (some a) s' answered⟩
  · intro both
    refine ⟨both.1, fun result s' answered => ?_⟩
    cases result with
    | none => exact Generator.returns_pure _ _
    | some a => exact both.2 a s' answered

variable {requestId : Option String}

theorem returns_guarded {block : ChatSession W StreamEvent α} :
    Returns (guarded requestId block) s ↔ ∀ x s', Raises block s x s' → x.isHttp = true := by
  rw [guarded, returns_attempting]
  refine forall_congr' fun x => forall_congr' fun s' => imp_congr_right fun _ => ?_
  cases x with
  | http statusCode detail =>
    exact ⟨fun _ => rfl, fun _ => ⟨_, rfl, ⟨none, rfl⟩⟩⟩
  | _ =>
    constructor
    · intro found
      obtain ⟨handle, taken, _⟩ := found
      cases taken
    · intro http
      cases http

variable {s' : W × ChatStore}

theorem answers_guarded {block : ChatSession W StreamEvent α} {a : α} :
    Answers (guarded requestId block) s (some a) s' ↔ Answers block s a s' := by
  refine Generator.answers_attempting fun x handle s a s' taken answered => ?_
  cases x with
  | http statusCode detail =>
    cases taken
    cases answered.1
  | _ => cases taken

variable {principal : Principal} {conversationId : UUID}

theorem returns_listChatMessages :
    Returns (ω := StreamEvent) (listChatMessagesForConversation runtime principal conversationId)
        s ↔
      ∀ x s', Raises (ω := StreamEvent) (messageRows runtime principal conversationId) s x s' →
        isStorageFault x = true := by
  rw [listChatMessagesForConversation, Generator.returns_catching]
  refine forall_congr' fun x => forall_congr' fun s' => imp_congr_right fun _ => ?_
  cases fault : isStorageFault x with
  | true => exact ⟨fun _ => rfl, fun _ => ⟨_, rfl, ⟨_, rfl⟩⟩⟩
  | false =>
    constructor
    · intro found
      obtain ⟨handle, taken, _⟩ := found
      cases taken
    · intro eq
      cases eq

theorem llmMessageRequest_ok_iff {role content : String} (known : role ∈ historyRoles) :
    (∃ message, llmMessageRequest role content = .ok message) ↔ content ≠ "" := by
  have named : role ≠ "" ∧ ¬ 40 < role.length := by
    simp only [historyRoles, List.mem_cons, List.not_mem_nil, or_false] at known
    obtain rfl | rfl | rfl := known <;> decide
  rw [llmMessageRequest]
  by_cases empty : content = ""
  · simp [empty]
  · simp [empty, named]

variable {payload : ChatMessageCreateRequest}

theorem historyMessages_ok_iff {items : List ChatMessageResponse} :
    (∃ messages, historyMessages items payload = .ok messages) ↔
      ∀ item ∈ items, historyRoles.contains item.role = true → item.content ≠ "" := by
  have last : ∃ message, llmMessageRequest "user" payload.content = .ok message :=
    (llmMessageRequest_ok_iff (by decide)).mpr payload.content_nonempty
  obtain ⟨message, last⟩ := last
  have whole : (∃ messages, historyMessages items payload = .ok messages) ↔
      ∃ earlier, (items.filter fun item => historyRoles.contains item.role).mapM
        (fun item => llmMessageRequest item.role item.content) = .ok earlier := by
    rw [historyMessages, last]
    constructor
    · intro found
      obtain ⟨messages, eq⟩ := found
      obtain ⟨earlier, first, _⟩ := Process.Fallible.bind_ok.mp eq
      exact ⟨earlier, first⟩
    · intro found
      obtain ⟨earlier, eq⟩ := found
      exact ⟨earlier ++ [message], by rw [eq]; rfl⟩
  rw [whole, Process.Fallible.mapM_ok_iff]
  constructor
  · intro readable item mem known
    exact (llmMessageRequest_ok_iff (by simpa using known)).mp
      (readable item (List.mem_filter.mpr ⟨mem, known⟩))
  · intro readable item mem
    obtain ⟨mem, known⟩ := List.mem_filter.mp mem
    exact (llmMessageRequest_ok_iff (by simpa using known)).mpr (readable item mem known)

variable {answer : LLMAnswer}

theorem returns_onStorageFault :
    Returns (onStorageFault runtime principal conversationId payload answer requestId) s ↔
      (runtime.raises .rollback s.1).1 = none := by
  rw [onStorageFault, returns_bind]
  have rolled : ((statement runtime .rollback (fun _ => ()) id :
      ChatSession W StreamEvent Unit).run s).result =
        (runtime.raises .rollback s.1).1.elim (.ok ()) .error := by
    simp only [statement, run_awaiting]
    obtain ⟨found, w⟩ := runtime.raises .rollback s.1
    cases found <;> rfl
  constructor
  · intro both
    obtain ⟨u, ok⟩ := both.1
    rw [rolled] at ok
    cases found : (runtime.raises .rollback s.1).1 with
    | none => rfl
    | some x =>
      rw [found] at ok
      cases ok
  · intro none_
    refine ⟨⟨(), by rw [rolled, none_, Option.elim_none]⟩, fun u s' _ => ?_⟩
    cases runtime.isDevelopmentEnvironment with
    | true => exact ⟨_, rfl⟩
    | false => exact ⟨none, rfl⟩

variable {conversation : ConversationSession}

theorem returns_persist :
    Returns (persist runtime principal conversation conversationId payload answer requestId) s ↔
      ∀ x s',
        Raises (ω := StreamEvent)
          (persistRows runtime principal conversation conversationId payload answer) s x s' →
        isStorageFault x = true ∧ (runtime.raises .rollback s'.1).1 = none := by
  rw [persist, returns_attempting]
  refine forall_congr' fun x => forall_congr' fun s' => imp_congr_right fun _ => ?_
  cases fault : isStorageFault x with
  | true =>
    constructor
    · intro found
      obtain ⟨handle, taken, returned⟩ := found
      cases taken
      exact ⟨rfl, returns_onStorageFault.mp returned⟩
    · intro both
      exact ⟨_, rfl, returns_onStorageFault.mpr both.2⟩
  | false =>
    constructor
    · intro found
      obtain ⟨handle, taken, _⟩ := found
      cases taken
    · intro both
      cases both.1

theorem returns_stored_iff :
    Returns
        (unlessEnded
          (persist runtime principal conversation conversationId payload answer requestId)
          fun result => report runtime result) s ↔
      StorageCaught runtime principal conversation conversationId payload answer requestId s := by
  simp only [returns_unlessEnded, returns_persist, returns_report]
  constructor
  · intro both
    exact ⟨both.1, both.2⟩
  · intro caught
    exact ⟨caught.stored, caught.texts⟩

theorem returns_streamTurn :
    Returns (streamTurn runtime principal conversation conversationId payload requestId) s ↔
      TurnCaught runtime principal conversation conversationId payload requestId s := by
  simp only [streamTurn, returns_bind, returns_listChatMessages, returns_unlessEnded,
    returns_guarded, answers_guarded]
  constructor
  · intro returned
    obtain ⟨history, later⟩ := returned
    refine ⟨history, ?_, ?_, ?_⟩
    · intro items s' listed
      exact historyMessages_ok_iff.mp (later items s' listed).1
    · intro items s' messages listed read
      exact ((later items s' listed).2 messages s' ⟨read, rfl⟩).1
    · intro items s' messages listed read answer s'' answered
      refine returns_stored_iff.mp (returns_unlessEnded.mpr ?_)
      exact ((later items s' listed).2 messages s' ⟨read, rfl⟩).2 answer s'' answered
  · intro caught
    refine ⟨caught.history, fun items s' listed => ⟨?_, ?_⟩⟩
    · exact historyMessages_ok_iff.mpr (caught.readable items s' listed)
    · intro messages s'' read
      obtain ⟨read, rfl⟩ := read
      refine ⟨caught.turn items _ messages listed read, fun answer s'' answered => ?_⟩
      refine returns_unlessEnded.mp (returns_stored_iff.mpr ?_)
      exact caught.storage items _ messages listed read answer s'' answered

theorem returns_streamAccepted :
    Returns (streamAccepted runtime principal conversationId payload requestId) s ↔
      ExceptionsCaught runtime principal conversationId payload requestId s := by
  simp only [streamAccepted, returns_unlessEnded, returns_guarded, answers_guarded,
    returns_streamTurn]
  constructor
  · intro both
    exact ⟨both.1, both.2⟩
  · intro caught
    exact ⟨caught.access, caught.accessed⟩

def keptMessages (store : ChatStore) (conversationId : UUID) : List ChatMessageResponse :=
  (store.messages.filter fun row => row.conversationId == conversationId).map messageResponse ++
    memoryOf store conversationId

theorem answers_statement {kind : ChatStatement} {answer : ChatStore → α}
    {after : ChatStore → ChatStore} {a : α}
    (answered : Answers (statement runtime kind answer after : ChatSession W ω α) s a s') :
    a = answer s.2 ∧ s'.2 = after s.2 := by
  obtain ⟨eq, rfl⟩ := answered
  simp only [statement, run_awaiting] at eq ⊢
  generalize runtime.raises kind s.1 = met at eq ⊢
  obtain ⟨found, w⟩ := met
  cases found with
  | some x => cases eq
  | none =>
    cases eq
    exact ⟨rfl, rfl⟩

theorem mem_keptMessages_withTurn {store : ChatStore} {rows : List ConversationMessage}
    {row : ConversationMessage} (mem : row ∈ rows) (of : row.conversationId = conversationId) :
    messageResponse row ∈ keptMessages (store.withTurn conversation rows) conversationId := by
  refine List.mem_append_left _ (List.mem_map.mpr ⟨row, List.mem_filter.mpr ⟨?_, ?_⟩, rfl⟩)
  · exact List.mem_append_right _ mem
  · simpa using of

theorem lookup_remember (memory : List (UUID × List ChatMessageResponse)) (conversationId : UUID)
    (pair : List ChatMessageResponse) :
    ((remember memory conversationId pair).lookup conversationId).getD [] =
      (memory.lookup conversationId).getD [] ++ pair := by
  induction memory with
  | nil => simp [remember]
  | cons entry rest ih =>
    obtain ⟨id, items⟩ := entry
    rw [remember]
    by_cases same : id = conversationId
    · rw [if_pos same]
      simp [same]
    · rw [if_neg same]
      have other : (conversationId == id) = false := by simpa using fun eq => same eq.symm
      simpa only [List.lookup_cons, other] using ih

structure TurnKept (payload : ChatMessageCreateRequest) (answer : LLMAnswer)
    (conversationId : UUID) (store : ChatStore) (result : ChatMessageCreateResponse) : Prop where
  user : result.userMessage ∈ keptMessages store conversationId
  user_role : result.userMessage.role = "user"
  user_content : result.userMessage.content = payload.content
  assistant : result.assistantMessage ∈ keptMessages store conversationId
  assistant_role : result.assistantMessage.role = "assistant"
  assistant_content : result.assistantMessage.content = answer.content

theorem answers_persistRows (answered : Answers (ω := ω)
      (persistRows runtime principal conversation conversationId payload answer) s result s') :
    TurnKept payload answer conversationId s'.2 result := by
  obtain ⟨_, s₁, _, later⟩ := answers_bind.mp answered
  obtain ⟨_, s₂, committed, done⟩ := answers_bind.mp later
  have store := (answers_statement committed).2
  obtain ⟨eq, rfl⟩ := done
  cases eq
  change TurnKept payload answer conversationId s₂.2 _
  rw [store]
  exact ⟨mem_keptMessages_withTurn List.mem_cons_self rfl, rfl, rfl,
    mem_keptMessages_withTurn (List.mem_cons_of_mem _ List.mem_cons_self) rfl, rfl, rfl⟩

theorem answers_memoryMessagePair
    (answered : Answers (ω := ω) (memoryMessagePair runtime principal conversationId payload answer)
      s (some result) s') : TurnKept payload answer conversationId s'.2 result := by
  obtain ⟨eq, rfl⟩ := answered
  cases eq
  refine ⟨List.mem_append_right _ ?_, rfl, rfl, List.mem_append_right _ ?_, rfl, rfl⟩
  all_goals
    simp only [memoryMessagePair, run_awaiting, memoryOf, lookup_remember,
      createResponse]
    exact List.mem_append_right _ (by simp)

theorem answers_persist (answered : Answers
      (persist runtime principal conversation conversationId payload answer requestId) s
      (some result) s') : TurnKept payload answer conversationId s'.2 result := by
  cases ended : ((persistRows runtime principal conversation conversationId payload answer :
      ChatSession W StreamEvent ChatMessageCreateResponse).run s).result with
  | ok stored =>
    rw [Answers, persist, run_attempting_of_ok ended] at answered
    obtain ⟨eq, rfl⟩ := answered
    cases eq
    exact answers_persistRows ⟨ended, rfl⟩
  | error x =>
    cases fault : isStorageFault x with
    | false =>
      rw [Answers, persist, run_attempting_of_none ended
        (if_neg (by rw [fault]; exact Bool.false_ne_true))] at answered
      cases answered.1
    | true =>
      rw [Answers, persist, run_attempting_of_some ended (if_pos fault)]
        at answered
      obtain ⟨_, s₁, _, later⟩ := answers_bind.mp answered
      cases development : runtime.isDevelopmentEnvironment with
      | true =>
        rw [development] at later
        exact answers_memoryMessagePair later
      | false =>
        rw [development] at later
        cases later.1

def StreamEvent.isDone : StreamEvent → Bool
  | .done _ => true
  | _ => false

variable {messageId : UUID}

theorem BlockEnds.not_done {result : Except Exc (Option α)} (ends : BlockEnds events result) :
    .done messageId ∉ events := by
  intro mem
  cases ends with
  | goesOn deltas a => cases not_terminal_of_mem_deltas mem
  | ended deltas statusCode detail requestId =>
    cases List.mem_append.mp mem with
    | inl before => cases not_terminal_of_mem_deltas before
    | inr last => simp at last
  | raised deltas x => cases not_terminal_of_mem_deltas mem

theorem done_of_unlessEnded (first : BlockEnds (block.run s).values (block.run s).result)
    (mem : .done messageId ∈ ((unlessEnded block rest).run s).values) :
    ∃ a s', Answers block s (some a) s' ∧ .done messageId ∈ ((rest a).run s').values := by
  cases mem_run_bind mem with
  | inl before => exact absurd before first.not_done
  | inr found =>
    obtain ⟨result, s', answered, later⟩ := found
    cases result with
    | none => cases later
    | some a => exact ⟨a, s', answered, later⟩

theorem run_unlessEnded {a : α} (answered : Answers block s (some a) s') :
    (unlessEnded block rest).run s =
      ⟨(block.run s).values ++ ((rest a).run s').values, ((rest a).run s').state,
        ((rest a).run s').result⟩ :=
  run_bind_of_answers answered

theorem done_of_report (mem : .done messageId ∈ ((report runtime result).run s).values) :
    messageId = result.assistantMessage.id ∧ ((report runtime result).run s).state = s := by
  by_cases h : ∀ event ∈ announced result, runtime.dumps event = .ok ()
  · rw [run_report_of_ok h] at mem ⊢
    refine ⟨?_, rfl⟩
    cases List.mem_append.mp mem with
    | inl before =>
      have status : knowledgeStatus result = some (.done messageId) := by simpa using before
      cases not_terminal_of_knowledgeStatus status
    | inr last =>
      simp only [List.mem_cons, List.not_mem_nil, or_false, metadataEvent, reduceCtorEq,
        false_or, StreamEvent.done.injEq] at last
      exact last
  · obtain ⟨x, _, still⟩ := report_raises h s
    cases still _ mem

theorem run_guarded {block : ChatSession W StreamEvent α} {a : α} (answered : Answers block s a s') :
    (guarded requestId block).run s = ⟨(block.run s).values, s', .ok (some a)⟩ := by
  rw [guarded, run_attempting_of_ok answered.1, answered.2]

theorem turn_of_done (mem : .done messageId ∈
      ((streamAccepted runtime principal conversationId payload requestId).run s).values) :
    ∃ conversation messages answer result s₁ s₂ s₃ s₄,
      Answers (ω := StreamEvent)
        (getAccessibleConversationSession runtime principal conversationId) s conversation s₁ ∧
      Answers (runTurn runtime principal conversation conversationId payload messages requestId)
        s₂ answer s₃ ∧
      Answers (persist runtime principal conversation conversationId payload answer requestId)
        s₃ (some result) s₄ ∧
      messageId = result.assistantMessage.id ∧
      ((streamAccepted runtime principal conversationId payload requestId).run s).values =
        ((runTurn runtime principal conversation conversationId payload messages
            requestId).run s₂).values ++
          (((persist runtime principal conversation conversationId payload answer
              requestId).run s₃).values ++
            ((report runtime result).run s₄).values) ∧
      ((streamAccepted runtime principal conversationId payload requestId).run s).state =
        s₄ := by
  obtain ⟨conversation, s₁, reached, mem⟩ := done_of_unlessEnded (blockEnds_guarded
    ((silent_getAccessibleConversationSession _ _ _).yields _) _ _) mem
  have accessed := answers_guarded.mp reached
  rw [streamAccepted, run_unlessEnded reached, run_guarded accessed,
    (silent_getAccessibleConversationSession _ _ _).values_eq, List.nil_append]
  cases mem_run_bind mem with
  | inl listing => exact (silent_listChatMessages _ _ _ _ _ listing).elim
  | inr found =>
    obtain ⟨items, s₂, listed, mem⟩ := found
    rw [streamTurn, run_bind_of_answers listed,
      (silent_listChatMessages _ _ _).values_eq, List.nil_append]
    cases mem_run_bind mem with
    | inl reading => cases reading
    | inr found =>
      obtain ⟨messages, s₃, read, mem⟩ := found
      rw [run_bind_of_answers read, Generator.run_computing, List.nil_append]
      obtain ⟨answer, s₄, turned, mem⟩ := done_of_unlessEnded
        (blockEnds_guarded (yields_runTurn _ _ _ _ _ _ _) _ _) mem
      have answered := answers_guarded.mp turned
      obtain ⟨result, s₅, stored, mem⟩ := done_of_unlessEnded
        (blockEnds_persist _ _ _ _ _ _ _ _) mem
      obtain ⟨eq, reported⟩ := done_of_report mem
      refine ⟨conversation, messages, answer, result, s₁, s₃, s₄, s₅, accessed, answered,
        stored, eq, ?_, ?_⟩
      · rw [run_unlessEnded turned, run_guarded answered, run_unlessEnded stored]
      · rw [run_unlessEnded turned, run_unlessEnded stored, reported]

theorem kept_of_done (mem : .done messageId ∈
      ((streamAccepted runtime principal conversationId payload requestId).run s).values) :
    ∃ (answer : LLMAnswer) (result : ChatMessageCreateResponse),
      messageId = result.assistantMessage.id ∧
      TurnKept payload answer conversationId
        ((streamAccepted runtime principal conversationId payload requestId).run s).state.2
        result := by
  obtain ⟨_, _, answer, result, _, _, _, _, _, _, stored, eq, _, state⟩ := turn_of_done mem
  refine ⟨answer, result, eq, ?_⟩
  rw [state]
  exact answers_persist stored

/-- The user message and the assistant message of the turn are kept, the second
one under the announced identifier. -/
def TurnStored (payload : ChatMessageCreateRequest) (conversationId messageId : UUID)
    (store : ChatStore) : Prop :=
  ∃ user ∈ keptMessages store conversationId,
    user.role = "user" ∧ user.content = payload.content ∧
      ∃ assistant ∈ keptMessages store conversationId,
        assistant.role = "assistant" ∧ assistant.id = messageId

/-- The stream ends with one terminal event, and announces stored messages only,
exactly when every exception it meets is of a kind that is caught where it is raised. -/
theorem one_terminal_event_iff (runtime : ChatRuntime W) (principal : Principal)
    (conversationId : UUID) (payload : ChatMessageCreateRequest) (requestId : Option String)
    (s : W × ChatStore) :
    (WellFormed
        ((streamChatMessage runtime principal conversationId payload requestId).run s).values ∧
      ∀ messageId,
        .done messageId ∈
          ((streamChatMessage runtime principal conversationId payload requestId).run s).values →
        TurnStored payload conversationId messageId
          ((streamChatMessage runtime principal conversationId payload requestId).run
            s).state.2) ↔
      ExceptionsCaught runtime principal conversationId payload requestId s := by
  have stored : ∀ messageId,
      .done messageId ∈
        ((streamChatMessage runtime principal conversationId payload requestId).run s).values →
      TurnStored payload conversationId messageId
        ((streamChatMessage runtime principal conversationId payload requestId).run
          s).state.2 := by
    intro messageId mem
    rw [run_streamChatMessage] at mem ⊢
    simp only [List.mem_cons, reduceCtorEq, false_or] at mem
    obtain ⟨answer, result, rfl, kept⟩ := kept_of_done mem
    exact ⟨result.userMessage, kept.user, kept.user_role, kept.user_content,
      result.assistantMessage, kept.assistant, kept.assistant_role, rfl⟩
  rw [wellFormed_iff_returns, returns_streamAccepted]
  exact and_iff_left stored

def greetingRuntime (raises : ChatStatement → Option Exc) : ChatRuntime Unit :=
  { texts := { str := fun _ => "", uuid := fun _ => "", decimal := fun _ => "0" }
    isDevelopmentEnvironment := false
    raises := fun kind w => (raises kind, w)
    acquire := fun _ _ _ w =>
      (.ok
        { enabled := false, acquired := false, tenantLimit := 0, userLimit := 0, agentLimit := 0,
          active := [] }, w)
    release := fun _ _ _ w => (.ok (), w)
    runAgentStream := fun _ _ _ _ => pure ()
    runGatewayChatStream := fun _ _ => do
      yielding "Good "
      yielding "morning"
    dumps := fun _ => .ok ()
    utcNow := "2026-01-01T00:00:00Z"
    newRequestId := 40
    userMessageId := 41
    assistantMessageId := 42
    memoryUserMessageId := 43
    memoryAssistantMessageId := 44 }

def greetingPrincipal : Principal := { userId := 2, tenantId := 1, permissions := [] }

def greetingPayload : ChatMessageCreateRequest :=
  { content := "Hello"
    content_nonempty := by decide
    content_length := by decide
    maxTokens_bounds := defaultMaxTokens_bounds }

def greetingStore : ChatStore :=
  { conversations :=
      [{ id := 7, tenantId := 1, title := "Greetings", agentId := none, channelId := none,
         userId := some 2, departmentId := none, source := "chat_console", metadataJson := [] }]
    userDepartments := []
    messages := []
    memoryMessages := [] }

example :
    (((streamChatMessage (greetingRuntime fun _ => none) greetingPrincipal 7 greetingPayload
        none).run ((), greetingStore)).values.filter StreamEvent.isDone).length = 1 := by
  rfl

theorem access_check_failure_ends_no_stream :
    ((streamChatMessage
        (greetingRuntime fun kind =>
          if kind = .conversationRow then some (.sqlAlchemy "OperationalError" "connection refused")
          else none)
        greetingPrincipal 7 greetingPayload none).run ((), greetingStore)).values =
      [.status .accepted, .status .runtimeStarted] ∧
    ¬ WellFormed
      ((streamChatMessage
        (greetingRuntime fun kind =>
          if kind = .conversationRow then some (.sqlAlchemy "OperationalError" "connection refused")
          else none)
        greetingPrincipal 7 greetingPayload none).run ((), greetingStore)).values := by
  have sent : ((streamChatMessage
        (greetingRuntime fun kind =>
          if kind = .conversationRow then some (.sqlAlchemy "OperationalError" "connection refused")
          else none)
        greetingPrincipal 7 greetingPayload none).run ((), greetingStore)).values =
      [.status .accepted, .status .runtimeStarted] := rfl
  refine ⟨sent, fun formed => ?_⟩
  rw [sent] at formed
  obtain ⟨event, mem, terminal⟩ := formed.exists_terminal
  simp only [List.mem_cons, List.not_mem_nil, or_false] at mem
  cases mem with
  | inl eq =>
    rw [eq] at terminal
    cases terminal
  | inr eq =>
    rw [eq] at terminal
    cases terminal

end AgentHive.Chat
