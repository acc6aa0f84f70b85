import AgentHive.Services.AgentRuns
import AgentHive.Services.ChatEvents
import AgentHive.Services.OfficialAgents

/-!
What a chat turn has sent and what it stores.

The deltas of a turn are those of the model. An official agent stores what its
processing makes of them; where nothing is processed, what was sent is stored.
-/

namespace AgentHive.Chat

open Process (Generator Resumption)
open Process.Generator (Answers Returning Silent)
open Rag (Json JsonDict)
open Process.Generator (answers_bind answers_forEach answers_pure forEach returning_awaiting
  returning_bind returning_forEach returning_pure returning_yielding run_bind_of_answers
  run_ensuring run_forEach run_onFirst run_pure yielding yields_bind yields_pure yields_yielding)

variable {W : Type}

def Tells (finish : String → String) (events : List AgentEvent) : Prop :=
  ∃ deltas response,
    events = deltas.map AgentEvent.delta ++ [.done (some response)] ∧
      response.answer = finish (String.join deltas)

theorem looped_sendDelta {values collected collected' : List String} {sent : List AgentEvent}
    (looped : Resumption.Looped (σ := W) (sendDelta (W := W)) collected values sent collected') :
    sent = values.map AgentEvent.delta ∧ collected' = collected ++ values := by
  induction looped with
  | nil b => exact ⟨rfl, (List.append_nil b).symm⟩
  | cons now rest ih =>
    obtain ⟨first, _, s₁, second, rfl, yielded, returned⟩ := returning_bind now
    obtain ⟨rfl, _, rfl⟩ := returning_pure returned
    obtain ⟨rfl, eq⟩ := ih
    rw [returning_yielding yielded, eq]
    exact ⟨rfl, List.append_assoc _ _ _⟩

theorem silent_streamedRequestId (services : OfficialServices W) (requestId : Option String)
    (start : String) : Silent (streamedRequestId services requestId start) := by
  intro s w mem
  simp only [Generator.run, streamedRequestId] at mem
  split at mem
  · cases mem
  · cases mem

variable {services : OfficialServices W} {requestId : Option String} {events : List AgentEvent}

theorem tells_streamed {model : Generator String Exc W Unit} {start : String}
    {f : List String → String → AgentRunResponse} {finish : String → String}
    (finished : ∀ collected id, (f collected id).answer = finish (String.join collected)) {w w' : W}
    (traced : Returning
      (do
        let collected ← forEach model sendDelta []
        let responseId ← streamedRequestId services requestId start
        yielding (.done (some (f collected responseId))) : AgentCall W Unit)
      w events w' ()) : Tells finish events := by
  obtain ⟨first, collected, w₁, rest, rfl, streamed, later⟩ := returning_bind traced
  obtain ⟨values, _, looped⟩ := returning_forEach streamed
  obtain ⟨rfl, rfl⟩ := looped_sendDelta looped
  obtain ⟨named, id, w₂, last, rfl, drawn, done⟩ := returning_bind later
  have nothing := (silent_streamedRequestId services requestId start).returning drawn
  have one := returning_yielding done
  subst nothing one
  exact ⟨collected, _, rfl, finished _ id⟩

variable {payload : AgentRunRequest} {principal : Principal}

theorem tells_configuredText {agentKey : String} {w w' : W}
    (traced : Returning (configuredTextStream services agentKey payload principal requestId) w
      events w' ()) : Tells (configuredAnswer services.texts) events :=
  tells_streamed (f := fun collected =>
    configuredResponse services agentKey payload (String.join collected)) (fun _ _ => rfl) traced

theorem tells_customerService {w w' : W}
    (traced : Returning (customerServiceRunStream services payload principal requestId) w
      events w' ()) :
    Tells (customerServiceAnswer services payload.input (knowledgeSources payload)) events :=
  tells_streamed (f := fun collected =>
    customerServiceResponse services payload (String.join collected)) (fun _ _ => rfl) traced

theorem tells_configuredMedia {agentKey : String} {w w' : W}
    (traced : Returning (configuredMediaStream services agentKey payload principal requestId) w
      events w' ()) : Tells id events := by
  obtain ⟨first, response, w₁, rest, rfl, answered, later⟩ := returning_bind traced
  obtain ⟨rfl, _⟩ := returning_awaiting answered
  obtain ⟨delta, _, w₂, last, rfl, sent, done⟩ := returning_bind later
  have one := returning_yielding sent
  have final := returning_yielding done
  subst one final
  exact ⟨[response.answer], response, rfl, by simp [String.join]⟩

section Announcing

variable {runtime : AgentRuntime W} {principal : Principal} {agentKey : String}
  {requestId : Option String} {payload : AgentRunRequest}
  {authorization : AgentRunAuthorization}

theorem returning_announce {outcome : RunOutcome} {w w' : W} {events : List AgentEvent}
    (traced : Returning
      (announce runtime principal agentKey requestId payload authorization outcome) w events w'
      ()) :
    ∃ response, events = [.done (some response)] ∧
      response.answer = outcome.response.answer := by
  obtain ⟨first, response, w₁, rest, rfl, made, later⟩ := returning_bind traced
  obtain ⟨rfl, merged⟩ := Generator.returning_computing made
  obtain ⟨recorded, _, w₂, last, rfl, audit, done⟩ := returning_bind later
  obtain ⟨rfl, _⟩ := returning_awaiting audit
  have one := returning_yielding done
  subst one
  refine ⟨response, rfl, ?_⟩
  rw [mergeAgentStreamMetadata_eq] at merged
  cases sources : dedupeSources (outcome.response.sources ++ outcome.knowledgeSources) with
  | error x =>
    rw [sources] at merged
    cases merged
  | ok items =>
    rw [sources] at merged
    cases merged
    rfl

theorem tells_announceWhole {outcome : RunOutcome} {w w' : W} {events : List AgentEvent}
    (traced : Returning
      (announceWhole runtime principal agentKey requestId payload authorization outcome) w events
      w' ()) :
    Tells id events := by
  obtain ⟨delta, _, w₁, rest, rfl, sent, later⟩ := returning_bind traced
  obtain ⟨response, rfl, answer⟩ := returning_announce later
  have one := returning_yielding sent
  subst one
  exact ⟨[outcome.response.answer], response, rfl, by simp [String.join, answer]⟩

theorem tells_loop {sources : List JsonDict} {diagnostics : JsonDict}
    {finish : String → String} {values sent : List AgentEvent} (told : Tells finish values)
    (looped : Resumption.Looped (σ := W)
      (fun (_ : Unit) event => onRunStreamEvent runtime principal agentKey requestId payload
        authorization sources diagnostics event) () values sent ()) :
    Tells finish sent := by
  obtain ⟨deltas, response, rfl, answer⟩ := told
  have kept : ∀ (deltas : List String) (sent : List AgentEvent),
      Resumption.Looped (σ := W)
        (fun (_ : Unit) event => onRunStreamEvent runtime principal agentKey requestId payload
          authorization sources diagnostics event) ()
        (deltas.map AgentEvent.delta ++ [.done (some response)]) sent () →
      ∃ response', sent = deltas.map AgentEvent.delta ++ [.done (some response')] ∧
        response'.answer = response.answer := by
    intro deltas
    induction deltas with
    | nil =>
      intro sent looped
      cases looped with
      | cons now rest =>
        cases rest
        obtain ⟨response', rfl, same⟩ := returning_announce now
        exact ⟨response', rfl, same⟩
    | cons delta deltas ih =>
      intro sent looped
      cases looped with
      | cons now rest =>
        obtain ⟨response', rfl, same⟩ := ih _ rest
        have one := returning_yielding now
        subst one
        exact ⟨response', rfl, same⟩
  obtain ⟨response', rfl, same⟩ := kept deltas sent looped
  exact ⟨deltas, response', rfl, same.trans answer⟩

end Announcing

inductive AnswerPath
  | asSent
  | configured
  | customerService (sources : List JsonDict)

def AnswerPath.finish (services : OfficialServices W) (input : String) :
    AnswerPath → String → String
  | .asSent => id
  | .configured => configuredAnswer services.texts
  | .customerService sources => customerServiceAnswer services input sources

/-- The paths an answer to the input can take, from the agent under a key if there is one. -/
inductive Takes (texts : AgentTexts) (input : String) : Option String → AnswerPath → Prop
  | gateway : Takes texts input none .asSent
  | greeting (greets : isGreetingIntent texts input = true) :
      Takes texts input (some "customer_service") .asSent
  | guardrail {agentKey : String} (strict : inputRequiresStrictKnowledge texts input = true) :
      Takes texts input (some agentKey) .asSent
  | atOnce {agentKey : String}
      (whole : agentKey = "custom_builder" ∨ agentKey ∈ mediaAgentKeys) :
      Takes texts input (some agentKey) .asSent
  | configured {agentKey : String} (official : agentKey ∈ officialAgentKeys)
      (ofText : agentKey ∉ mediaAgentKeys) : Takes texts input (some agentKey) .configured
  | customerService (sources : List JsonDict) :
      Takes texts input (some "customer_service") (.customerService sources)

section Governed

variable {runtime : AgentRuntime W} {principal : Principal} {agentKey : String}
  {requestId : Option String} {payload : AgentRunRequest} {w w' : W} {events : List AgentEvent}

theorem input_canonicalize {payload' : AgentRunRequest}
    (traced : Returning (canonicalizeAgentGovernanceContext runtime payload principal) w events w'
      payload') :
    payload'.input = payload.input := by
  obtain ⟨_, _, _, _, _, _, later⟩ := returning_bind traced
  obtain ⟨_, _, _, _, _, _, last⟩ := returning_bind later
  obtain ⟨_, _, rfl⟩ := returning_pure last
  rfl

theorem input_applyDefaults {payload' : AgentRunRequest} {requiredModule : String}
    (traced : Returning
      (applyAgentInstanceDefaults runtime payload principal agentKey requiredModule) w events w'
      payload') :
    payload'.input = payload.input := by
  obtain ⟨_, agentId, _, _, _, _, later⟩ := returning_bind traced
  cases agentId with
  | none =>
    obtain ⟨_, _, rfl⟩ := returning_pure later
    rfl
  | some agentId =>
    obtain ⟨_, _, _, _, _, _, later⟩ := returning_bind later
    obtain ⟨_, _, _, _, _, _, later⟩ := returning_bind later
    obtain ⟨_, _, _, _, _, _, later⟩ := returning_bind later
    obtain ⟨_, _, _, _, _, _, last⟩ := returning_bind later
    obtain ⟨_, _, rfl⟩ := returning_pure last
    rfl

theorem input_governed {agent : Agent W} {settled : AgentRunAuthorization × AgentRunRequest}
    (traced : Returning (governed runtime agent agentKey payload principal) w events w'
      settled) :
    settled.2.input = payload.input := by
  obtain ⟨_, _, _, _, _, _, later⟩ := returning_bind traced
  obtain ⟨_, _, _, _, _, first, later⟩ := returning_bind later
  obtain ⟨_, _, _, _, _, second, later⟩ := returning_bind later
  obtain ⟨_, _, _, _, _, third, last⟩ := returning_bind later
  obtain ⟨_, _, rfl⟩ := returning_pure last
  exact ((input_canonicalize third).trans (input_applyDefaults second)).trans
    (input_canonicalize first)

theorem input_enriched {enriched : Enriched}
    (traced : Returning
      (enrichWithKnowledgeContext runtime payload principal agentKey requestId) w events w'
      enriched) :
    enriched.payload.input = payload.input := by
  obtain ⟨_, baseIds, _, _, _, _, later⟩ := returning_bind traced
  cases baseIds with
  | nil =>
    obtain ⟨_, _, rfl⟩ := returning_pure later
    rfl
  | cons id rest =>
    obtain ⟨_, _, _, _, _, _, later⟩ := returning_bind later
    obtain ⟨_, _, _, _, _, _, last⟩ := returning_bind later
    obtain ⟨_, _, rfl⟩ := returning_pure last
    rfl

theorem greeted_of_response {requiredModule : String} {response : AgentRunResponse}
    (traced : Returning
      (customerServiceGreetingResponse runtime agentKey payload requestId requiredModule) w events
      w' (some response)) :
    agentKey = "customer_service" ∧ isGreetingIntent runtime.texts payload.input = true := by
  rw [customerServiceGreetingResponse] at traced
  split at traced
  · obtain ⟨_, _, eq⟩ := returning_pure traced
    cases eq
  · rename_i greets
    simpa using greets

end Governed

def officialRuntime (agents : AgentRuntime W) (services : OfficialServices W) : AgentRuntime W :=
  { agents with
    texts := services.texts
    agents := agentRegistry services }

theorem agentRegistry_runStream {agentKey : String} {agent : Agent W}
    (known : agentRegistry services agentKey = some agent) :
    agentKey ∈ registeredKeys ∧ agent.runStream = runStreamOf services agentKey := by
  rw [agentRegistry] at known
  split at known
  · rename_i registered
    cases known
    exact ⟨by simpa using registered, rfl⟩
  · cases known

section Official

variable {agents : AgentRuntime W} {services : OfficialServices W} {principal : Principal}
  {agentKey : String} {requestId : Option String} {w w' : W} {events : List AgentEvent}
  {payload : AgentRunRequest}

theorem tells_runStreamOf
    {runStream : AgentRunRequest → Principal → Option String → AgentCall W Unit}
    (streams : runStreamOf services agentKey = some runStream)
    (traced : Returning (runStream payload principal requestId) w events w' ()) :
    ∃ path, Takes services.texts payload.input (some agentKey) path ∧
      Tells (path.finish services payload.input) events := by
  rw [runStreamOf] at streams
  split at streams
  · rename_i customer
    cases streams
    rw [customer]
    exact ⟨.customerService _, .customerService _, tells_customerService traced⟩
  · split at streams
    · rename_i official
      cases streams
      rw [configuredRunStream] at traced
      split at traced
      · rename_i ofMedia
        exact ⟨.asSent, .atOnce (.inr (by simpa using ofMedia)), tells_configuredMedia traced⟩
      · rename_i ofText
        exact ⟨.configured, .configured (by simpa using official) (by simpa using ofText),
          tells_configuredText traced⟩
    · cases streams

theorem tells_streamReached {agent : Agent W} {authorization : AgentRunAuthorization}
    {sources : List JsonDict} {diagnostics : JsonDict}
    (known : agentRegistry services agentKey = some agent) (traced : Returning
      (streamReached (officialRuntime agents services) agent principal agentKey requestId payload
        authorization sources diagnostics) w events w' ()) :
    ∃ path, Takes services.texts payload.input (some agentKey) path ∧
      Tells (path.finish services payload.input) events := by
  obtain ⟨registered, streams⟩ := agentRegistry_runStream known
  rw [streamReached] at traced
  cases own : agent.runStream with
  | some runStream =>
    simp only [own] at traced
    obtain ⟨values, streamed, looped⟩ := returning_forEach traced
    obtain ⟨path, takes, told⟩ := tells_runStreamOf (streams.symm.trans own) streamed
    exact ⟨path, takes, tells_loop told looped⟩
  | none =>
    simp only [own] at traced
    obtain ⟨first, response, w₁, rest, rfl, answered, later⟩ :=
      returning_bind traced
    obtain ⟨rfl, _⟩ := returning_awaiting answered
    refine ⟨.asSent, .atOnce (.inl ?_), tells_announceWhole later⟩
    rw [own, runStreamOf] at streams
    by_contra other
    simp only [registeredKeys, List.mem_cons, other, false_or] at registered
    split at streams
    · cases streams
    · rename_i notCustomer
      rw [if_pos (by simpa using registered.resolve_left notCustomer)] at streams
      cases streams

theorem tells_streamEnriched {agent : Agent W} {authorization : AgentRunAuthorization}
    {enriched : Enriched} (known : agentRegistry services agentKey = some agent)
    (traced : Returning
      (streamEnriched (officialRuntime agents services) agent principal agentKey requestId
        authorization enriched) w events w' ()) :
    ∃ path, Takes services.texts enriched.payload.input (some agentKey) path ∧
      Tells (path.finish services enriched.payload.input) events := by
  rw [streamEnriched] at traced
  split at traced
  · rename_i triggered
    obtain ⟨first, response, w₁, rest, rfl, made, later⟩ := returning_bind traced
    have nothing := (silent_guardrail _ _ _ _ _ _ _).returning made
    subst nothing
    refine ⟨.asSent, .guardrail ?_, tells_announceWhole later⟩
    exact (Bool.and_eq_true_iff.mp triggered).2
  · obtain ⟨first, payload, w₁, rest, rfl, mounted, later⟩ := returning_bind traced
    obtain ⟨_, servers, _, _, eq, _, last⟩ := returning_bind mounted
    have nothing := (silent_enrichWithMcp _ _ _).returning mounted
    obtain ⟨_, _, rfl⟩ := returning_pure last
    subst nothing
    have told := tells_streamReached known later
    exact told

theorem tells_runAgentStream (traced : Returning
      (runAgentStream (officialRuntime agents services) agentKey payload principal requestId) w
      events w' ()) :
    ∃ path, Takes services.texts payload.input (some agentKey) path ∧
      Tells (path.finish services payload.input) events := by
  cases known : agentRegistry services agentKey with
  | none =>
    have unknown : (officialRuntime agents services).agents agentKey = none := known
    rw [runAgentStream, unknown] at traced
    cases traced
  | some agent =>
    rw [runAgentStream_eq known] at traced
    obtain ⟨first, settled, w₁, rest, rfl, settles, later⟩ := returning_bind traced
    rw [← input_governed settles, (silent_governed _ _ _ _ _).returning settles]
    obtain ⟨second, greeting, w₂, last, rfl, greets, later⟩ := returning_bind later
    rw [(silent_greeting _ _ _ _ _).returning greets]
    cases greeting with
    | some response =>
      obtain ⟨rfl, greeted⟩ := greeted_of_response greets
      exact ⟨.asSent, .greeting greeted, tells_announceWhole later⟩
    | none =>
      obtain ⟨third, enriched, w₃, final, rfl, enriches, later⟩ :=
        returning_bind later
      rw [← input_enriched enriches,
        (silent_enrichWithKnowledge _ _ _ _ _).returning enriches]
      exact tells_streamEnriched known later

end Official

def withOfficialAgents (base : ChatRuntime W) (agents : AgentRuntime W)
    (services : OfficialServices W) : ChatRuntime W :=
  { base with
    texts := services.texts.toChatTexts
    runAgentStream := runAgentStream (officialRuntime agents services) }

def StreamEvent.delta? : StreamEvent → Option String
  | .delta content => some content
  | _ => none

/-- The contents of the `delta` events. -/
def sentDeltas (events : List StreamEvent) : List String := events.filterMap StreamEvent.delta?

theorem sentDeltas_append (events later : List StreamEvent) :
    sentDeltas (events ++ later) = sentDeltas events ++ sentDeltas later :=
  List.filterMap_append

theorem sentDeltas_eq_nil {events : List StreamEvent}
    (none_sent : ∀ event ∈ events, event.delta? = none) : sentDeltas events = [] :=
  List.filterMap_eq_nil_iff.mpr none_sent

def forwarded (delta : String) : List StreamEvent := if delta = "" then [] else [.delta delta]

def collect (collected : List String) (delta : String) : List String :=
  if delta = "" then collected else collected ++ [delta]

theorem run_onDelta (collected : List String) (delta : String) (s : W × ChatStore) :
    (onDelta collected delta).run s = ⟨forwarded delta, s, .ok (collect collected delta)⟩ := by
  rw [onDelta, forwarded, collect]
  split <;> rfl

theorem sentDeltas_forwarded (delta : String) (later : List StreamEvent) :
    sentDeltas (forwarded delta ++ later) =
      if delta = "" then sentDeltas later else delta :: sentDeltas later := by
  rw [forwarded]
  split <;> rfl

theorem collected_eq_sent (deltas collected : List String) :
    deltas.foldl collect collected =
      collected ++ sentDeltas
        (Resumption.handedOut (fun _ => forwarded) collect collected deltas) := by
  induction deltas generalizing collected with
  | nil => exact (List.append_nil collected).symm
  | cons delta deltas ih =>
    rw [List.foldl_cons, Resumption.handedOut, sentDeltas_forwarded, ih, collect]
    split
    · rfl
    · exact List.append_assoc _ _ _

def agentForwarded : AgentEvent → List StreamEvent
  | .delta chunk => forwarded chunk
  | .done _ => []

def AgentTurn.next (turn : AgentTurn) : AgentEvent → AgentTurn
  | .delta chunk => { turn with collectedChunks := collect turn.collectedChunks chunk }
  | .done response => { turn with finalAgentResponse := response }

theorem run_onAgentEvent (turn : AgentTurn) (event : AgentEvent) (s : W × ChatStore) :
    (onAgentEvent turn event).run s = ⟨agentForwarded event, s, .ok (turn.next event)⟩ := by
  cases event with
  | delta chunk =>
    simp only [onAgentEvent, agentForwarded, AgentTurn.next, forwarded, collect]
    split <;> rfl
  | done response => rfl

theorem sent_of_deltas (deltas : List String) (response : AgentRunResponse) (turn : AgentTurn) :
    String.join (sentDeltas (Resumption.handedOut (fun _ => agentForwarded) AgentTurn.next turn
      (deltas.map AgentEvent.delta ++ [.done (some response)]))) = String.join deltas := by
  induction deltas generalizing turn with
  | nil => rfl
  | cons delta deltas ih =>
    rw [List.map_cons, List.cons_append, Resumption.handedOut, agentForwarded,
      sentDeltas_forwarded]
    split
    · rename_i empty
      rw [ih, empty, String.join_cons, String.empty_append]
    · rw [String.join_cons, String.join_cons, ih]

theorem turn_of_tells {finish : String → String} (told : Tells finish events) (turn : AgentTurn) :
    ∃ response,
      (events.foldl AgentTurn.next turn).finalAgentResponse = some response ∧
      response.answer = finish (String.join (sentDeltas
        (Resumption.handedOut (fun _ => agentForwarded) AgentTurn.next turn events))) := by
  obtain ⟨deltas, response, rfl, answer⟩ := told
  refine ⟨response, ?_, ?_⟩
  · rw [List.foldl_append]
    rfl
  · rw [sent_of_deltas, answer]

section Turns

variable {base : ChatRuntime W} {agents : AgentRuntime W} {services : OfficialServices W}
  {principal : Principal} {conversation : ConversationSession} {conversationId : UUID}
  {payload : ChatMessageCreateRequest} {messages : List Message} {requestId : Option String}
  {decision : AgentConcurrencyDecision} {answer : LLMAnswer} {s s' : W × ChatStore}

theorem sent_of_gatewayTurn {runtime : ChatRuntime W}
    (answered : Answers (runGatewayTurn runtime principal conversation conversationId payload
      messages requestId decision) s answer s') :
    answer.content = String.join (sentDeltas
      ((runGatewayTurn runtime principal conversation conversationId payload messages requestId
        decision).run s).values) := by
  obtain ⟨collected, s₁, looped, made⟩ := answers_bind.mp answered
  have collects := ((answers_forEach run_onDelta).mp looped).2
  rw [collected_eq_sent, List.nil_append] at collects
  rw [runGatewayTurn, run_bind_of_answers looped,
    run_forEach _ run_onDelta, run_pure, List.append_nil, collects,
    ← (answers_pure.mp made).1]
  rfl

theorem content_of_agentAnswer {texts : ChatTexts} {turn : AgentTurn}
    {response : AgentRunResponse} (final : turn.finalAgentResponse = some response)
    (made : agentAnswer texts decision turn = .ok answer) : answer.content = response.answer := by
  rw [agentAnswer, final] at made
  cases made
  rfl

theorem sent_of_agentTurn
    (answered : Answers (runAgentTurn (withOfficialAgents base agents services) principal
      conversation conversationId payload requestId decision) s answer s') :
    ∃ path,
      Takes services.texts payload.content
        (some (agentKeyFromConversation services.texts.toChatTexts conversation)) path ∧
      answer.content = path.finish services payload.content (String.join (sentDeltas
        ((runAgentTurn (withOfficialAgents base agents services) principal conversation
          conversationId payload requestId decision).run s).values)) := by
  obtain ⟨turn, s₁, looped, made⟩ := answers_bind.mp answered
  obtain ⟨streamed, turned⟩ := (answers_forEach run_onAgentEvent).mp looped
  rw [runAgentTurn, run_bind_of_answers looped,
    run_forEach _ run_onAgentEvent, Generator.run_computing, List.append_nil]
  rw [run_onFirst] at turned ⊢
  have told := tells_runAgentStream (Generator.returning_of_run
    (by rw [Answers, run_onFirst] at streamed; exact streamed.1))
  obtain ⟨path, takes, told⟩ := told
  obtain ⟨response, final, eq⟩ := turn_of_tells told {}
  have answers : turn.finalAgentResponse = some response := by
    rw [← turned]
    exact final
  exact ⟨path, takes, (content_of_agentAnswer answers made.1).trans eq⟩

theorem result_of_lastly {ε α : Type} {last : Except ε Unit} {result : Except ε α} {a : α}
    (h : Process.Delivered.lastly last result = .ok a) : result = .ok a := by
  cases last with
  | ok u => exact h
  | error x => cases h

theorem sent_of_runTurn
    (answered : Answers (runTurn (withOfficialAgents base agents services) principal conversation
      conversationId payload messages requestId) s answer s') :
    ∃ path,
      Takes services.texts payload.content
        (conversation.agentId.map fun _ =>
          agentKeyFromConversation services.texts.toChatTexts conversation) path ∧
      answer.content = path.finish services payload.content (String.join (sentDeltas
        ((runTurn (withOfficialAgents base agents services) principal conversation
          conversationId payload messages requestId).run s).values)) := by
  obtain ⟨decision, s₁, acquired, turned⟩ := answers_bind.mp answered
  rw [runTurn, run_bind_of_answers acquired, acquire, Generator.run_awaiting,
    List.nil_append, run_ensuring]
  rw [Answers, run_ensuring] at turned
  have ended := result_of_lastly turned.1
  cases bound : conversation.agentId with
  | none =>
    simp only [bound] at ended ⊢
    exact ⟨.asSent, .gateway, sent_of_gatewayTurn ⟨ended, rfl⟩⟩
  | some agentId =>
    simp only [bound] at ended ⊢
    exact sent_of_agentTurn ⟨ended, rfl⟩

end Turns

theorem yields_persist (runtime : ChatRuntime W) (principal : Principal)
    (conversation : ConversationSession) (conversationId : UUID)
    (payload : ChatMessageCreateRequest) (answer : LLMAnswer) (requestId : Option String) :
    Generator.Yields (fun event => event.delta? = none)
      (persist runtime principal conversation conversationId payload answer requestId) := by
  refine Generator.yields_catching (yields_bind
    ((silent_persistRows runtime _ _ _ _ _).yields _) fun _ => yields_pure _) ?_
  intro x handle taken
  split at taken
  · cases taken
    refine yields_bind ((silent_statement runtime _ _ _).yields _) fun _ => ?_
    split
    · exact Generator.yields_awaiting _
    · exact yields_bind (yields_yielding rfl) fun _ =>
        yields_bind (yields_yielding rfl) fun _ => yields_pure _
  · cases taken

theorem yields_sse (runtime : ChatRuntime W) {event : StreamEvent} (other : event.delta? = none) :
    Generator.Yields (fun event => event.delta? = none) (sse runtime event) :=
  yields_bind (Generator.yields_computing _) fun _ => yields_yielding other

theorem yields_report (runtime : ChatRuntime W) (result : ChatMessageCreateResponse) :
    Generator.Yields (fun event => event.delta? = none) (report runtime result) := by
  refine yields_bind ?_ fun _ =>
    yields_bind (yields_yielding rfl) fun _ =>
      yields_bind (yields_sse runtime rfl) fun _ => yields_yielding rfl
  rw [reportKnowledge, knowledgeStatus]
  cases result.metadata.get "knowledge" with
  | obj knowledge => exact yields_sse runtime rfl
  | _ => exact yields_pure _

theorem mem_of_accessible {runtime : ChatRuntime W} {conversationId : UUID}
    {conversation : ConversationSession} {s s' : W × ChatStore}
    (answered : Answers (ω := StreamEvent)
      (getAccessibleConversationSession runtime principal conversationId) s conversation s') :
    conversation ∈ s.2.conversations ∧ conversation.id = conversationId ∧
      conversation.tenantId = principal.tenantId := by
  obtain ⟨row, s₁, found, later⟩ := answers_bind.mp answered
  have read := (answers_statement found).1
  cases row with
  | none => cases later.1
  | some row =>
    obtain ⟨departmentIds, s₂, _, last⟩ := answers_bind.mp later
    have eq : row = conversation := by
      split at last
      · exact (answers_pure.mp last).1
      · cases last.1
    rw [← eq]
    have satisfied := List.find?_some read.symm
    simp only [Bool.and_eq_true, beq_iff_eq] at satisfied
    exact ⟨List.mem_of_find?_eq_some read.symm, satisfied.1.2, satisfied.1.1⟩

def financeInstance : AgentInstance :=
  { id := 5, name := "Invoices", slug := "invoices", agentKey := "finance"
    moduleKey := "agent.finance", status := "active", visibility := "tenant"
    departmentId := none, modelKey := none, modelRoutingKey := none, config := [] }

def financeAgents : AgentRuntime Unit :=
  { builderRuntime with
    getAgentInstance := fun _ _ w => (.ok financeInstance, w)
    mountMcpServers := fun _ _ w => (.ok [], w) }

def financeTexts : AgentTexts :=
  { plainTexts with uuidOf := fun value => if value = "5" then some 5 else none }

def financeServices : OfficialServices Unit :=
  { texts := financeTexts
    definitionOf := fun key =>
      { agentKey := key, version := "1", requiredModule := "agent." ++ key
        orchestrationRuntime := "simple_graph", orchestrationFeatures := [] }
    hasPromptConfig := fun _ => true
    runGatewayChatStream := fun _ _ _ _ => do
      yielding "Paid."
      yielding "\nrequest id: 7"
    runMediaGatewayAgent := fun _ _ _ _ w => (.error (.other "Unused" ""), w)
    runAtOnce := fun _ _ _ _ w => (.error (.other "Unused" ""), w)
    runCustomerServicePrep := fun _ _ => []
    mockKnowledgeAnswer := fun _ _ => ""
    uuid4 := fun w => ("0", w) }

def financeRuntime : ChatRuntime Unit :=
  withOfficialAgents (greetingRuntime fun _ => none) financeAgents financeServices

def financePayload : ChatMessageCreateRequest :=
  { content := "Is the invoice paid?"
    content_nonempty := by decide
    content_length := by decide
    maxTokens_bounds := defaultMaxTokens_bounds }

def financeStore : ChatStore :=
  { conversations :=
      [{ id := 7, tenantId := 1, title := "Invoices", agentId := some 5, channelId := none
         userId := some 2, departmentId := none, source := "chat_console"
         metadataJson := [("agent_key", .str "finance")] }]
    userDepartments := []
    messages := []
    memoryMessages := [] }

def StreamEvent.doneId? : StreamEvent → Option UUID
  | .done messageId => some messageId
  | _ => none

theorem mem_of_doneId {events : List StreamEvent} {messageId : UUID}
    (mem : messageId ∈ events.filterMap StreamEvent.doneId?) : .done messageId ∈ events := by
  obtain ⟨event, there, eq⟩ := List.mem_filterMap.mp mem
  cases event with
  | done id =>
    cases eq
    exact there
  | _ => cases eq

end AgentHive.Chat
