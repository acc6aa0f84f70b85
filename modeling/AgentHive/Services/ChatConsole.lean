import AgentHive.Process.Machine
import AgentHive.Store.OrderedDict

/-!
The chat console of the admin pages: its state, what the user does to it, and
what the answers of the API make of it when they come back in any order.
-/

namespace AgentHive.ChatConsole

structure ChatSessionResponse where
  object : Nat
  id : String
  tenantId : String := ""
deriving DecidableEq

structure ChatStreamStatusResponse where
  stage : String
  state : String
  enabled : Option Bool := none
deriving DecidableEq

structure MessageMetadata where
  localState : Option String := none
  streamStatus : Option ChatStreamStatusResponse := none
  other : List (String × String) := []
deriving DecidableEq

structure ChatMessageResponse where
  id : String
  tenantId : String := ""
  conversationId : String
  role : String
  content : String
  requestId : Option String := none
  modelKey : Option String := none
  providerKey : Option String := none
  inputTokens : Nat := 0
  outputTokens : Nat := 0
  totalTokens : Nat := 0
  costUsd : String := "0"
  metadata : MessageMetadata := {}
deriving DecidableEq

structure ChatStreamMetadataResponse where
  userMessage : ChatMessageResponse
  requestId : String
  providerKey : String
  modelKey : String
  inputTokens : Nat := 0
  outputTokens : Nat := 0
  totalTokens : Nat := 0
  costUsd : String := "0"
  metadata : List (String × String) := []

structure AsyncSessions where
  data : Option (List ChatSessionResponse) := none
  error : Option String := none
  loading : Bool := true

structure Send where
  content : String
  clientMessageId : String
  streamMessageId : String
  activeSession : Option ChatSessionResponse
  aborted : Bool := false

inductive Call
  /-- `loadSessions` by the effect or the retry button -/
  | listing
  /-- `createSession` -/
  | creating
  /-- `loadMessages` of the effect -/
  | loading (session : ChatSessionResponse) (cancelled : Bool)
      (read : Option (List ChatMessageResponse))
  /-- `ensureSession` in a send -/
  | ensuring (send : Send)
  | streaming (send : Send) (session : ChatSessionResponse)
  /-- `getChatMessages` at the end of a send -/
  | refreshing (send : Send) (session : ChatSessionResponse)
      (read : Option (List ChatMessageResponse))
  /-- `loadSessions` at the end of a send -/
  | relisting (send : Send)
  /-- `getChatMessages` after a send was stopped -/
  | rescuing (send : Send) (session : ChatSessionResponse)
      (read : Option (List ChatMessageResponse))

structure ConsoleState where
  sessions : AsyncSessions := {}
  messages : List ChatMessageResponse := []
  activeSession : Option ChatSessionResponse := none
  sending : Bool := false
  actionError : Option String := none
  /-- the send whose controller `abortRef` holds -/
  abortRef : Option Nat := none
  calls : OrderedDict Nat Call
  nextCall : Nat
  /-- what the server has stored, by conversation -/
  stored : String → List ChatMessageResponse
  /-- the last list of messages that came back was not a failure -/
  loadsOk : Bool := true

namespace Call

def cancel : Call → Call
  | .loading session _ read => .loading session true read
  | call => call

def abort : Call → Call
  | .ensuring send => .ensuring { send with aborted := true }
  | .streaming send session => .streaming { send with aborted := true } session
  | .refreshing send session read => .refreshing { send with aborted := true } session read
  | .relisting send => .relisting { send with aborted := true }
  | .rescuing send session read => .rescuing { send with aborted := true } session read
  | call => call

def answerFrom (stored : String → List ChatMessageResponse) : Call → Call
  | .loading session cancelled _ => .loading session cancelled (some (stored session.id))
  | .refreshing send session _ => .refreshing send session (some (stored session.id))
  | .rescuing send session _ => .rescuing send session (some (stored session.id))
  | call => call

end Call

def pendingChatMessage (content id role : String) (session : ChatSessionResponse) :
    ChatMessageResponse where
  id := id
  tenantId := session.tenantId
  conversationId := session.id
  role := role
  content := content
  metadata := { localState := some "streaming" }

def placeholders (send : Send) (session : ChatSessionResponse) : List ChatMessageResponse :=
  [ pendingChatMessage send.content send.clientMessageId "user" session,
    pendingChatMessage "" send.streamMessageId "assistant" session ]

def onMetadata (send : Send) (metadata : ChatStreamMetadataResponse)
    (messages : List ChatMessageResponse) : List ChatMessageResponse :=
  messages.map fun item =>
    if item.id = send.clientMessageId then metadata.userMessage
    else if item.id = send.streamMessageId then
      { item with
        modelKey := some metadata.modelKey
        providerKey := some metadata.providerKey
        requestId := some metadata.requestId
        inputTokens := metadata.inputTokens
        outputTokens := metadata.outputTokens
        totalTokens := metadata.totalTokens
        costUsd := metadata.costUsd
        metadata := { item.metadata with other := metadata.metadata } }
    else item

def changeAnswer (send : Send) (change : ChatMessageResponse → ChatMessageResponse)
    (messages : List ChatMessageResponse) : List ChatMessageResponse :=
  messages.map fun item => if item.id = send.streamMessageId then change item else item

def onStatus (status : ChatStreamStatusResponse) (item : ChatMessageResponse) :
    ChatMessageResponse :=
  let metadata :=
    { item.metadata with localState := some "stream_status", streamStatus := some status }
  { item with metadata := metadata }

def onDelta (delta : String) (item : ChatMessageResponse) : ChatMessageResponse :=
  { item with
    content := item.content ++ delta
    metadata := { item.metadata with localState := some "streaming_response" } }

def onDone (messageId : String) (item : ChatMessageResponse) : ChatMessageResponse :=
  { item with id := messageId }

def stopped (chatStopped : String) (send : Send) (messages : List ChatMessageResponse) :
    List ChatMessageResponse :=
  let marked := messages.map fun item =>
    if item.id = send.streamMessageId ∧ item.content = "" then
      { item with
        content := chatStopped
        metadata := { item.metadata with localState := some "stopped" } }
    else item
  marked.filter fun item => item.id ≠ send.clientMessageId ∨ item.content ≠ ""

def withoutPlaceholders (send : Send) (messages : List ChatMessageResponse) :
    List ChatMessageResponse :=
  messages.filter fun item => item.id ≠ send.clientMessageId ∧ item.id ≠ send.streamMessageId

namespace ConsoleState

variable (s : ConsoleState)

def enter (call : Call) : ConsoleState :=
  { s with calls := s.calls.set s.nextCall call, nextCall := s.nextCall + 1 }

def await (id : Nat) (call : Call) : ConsoleState :=
  { s with calls := s.calls.set id call }

def finish (id : Nat) : ConsoleState := { s with calls := s.calls.erase id }

/-- `loadSessions` up to its request. -/
def loadSessions : ConsoleState :=
  { s with sessions := { s.sessions with error := none, loading := true } }

/-- `loadSessions` after its request. -/
def showSessions :
    Except String (List ChatSessionResponse) → ConsoleState
  | .ok listed =>
    { s with
      sessions := { data := some listed, error := none, loading := false }
      activeSession := s.activeSession.or listed.head? }
  | .error text => { s with sessions := { data := none, error := some text, loading := false } }

def openSession (created : ChatSessionResponse) : ConsoleState :=
  { s with
    activeSession := some created
    sessions := { data := some (created :: s.sessions.data.getD []), error := none, loading := false } }

/-- The `finally` of a send. -/
def finishSend (id : Nat) : ConsoleState :=
  { s.finish id with abortRef := none, sending := false }

def streamTo (id : Nat) (send : Send) (session : ChatSessionResponse) : ConsoleState :=
  { s.await id (.streaming send session) with
    messages := s.messages ++ placeholders send session }

/-- The `catch` of a send. -/
def catchSend (chatStopped : String) (id : Nat) (send : Send) (text : String) : ConsoleState :=
  if send.aborted then
    let s := { s with messages := stopped chatStopped send s.messages }
    match send.activeSession with
    | some session => s.await id (.rescuing send session none)
    | none => s.finishSend id
  else
    let s := { s with messages := withoutPlaceholders send s.messages, actionError := some text }
    s.finishSend id

def showMessages (messages : List ChatMessageResponse) : ConsoleState :=
  { s with messages := messages, loadsOk := true }

def runEffects (before s : ConsoleState) : ConsoleState :=
  if s.activeSession = before.activeSession then s
  else
    let s := { s with calls := s.calls.mapValues fun _ call => call.cancel }
    match s.activeSession with
    | none => { s with messages := [] }
    | some session => s.enter (.loading session false none)

end ConsoleState

inductive ConsoleEvent
  | select (session : Option ChatSessionResponse)
  | refetch
  | create
  /-- `sendMessage`, with the session of its options and the ids it draws -/
  | send (content : String) (session : Option ChatSessionResponse)
      (clientMessageId streamMessageId : String)
  | stop
  /-- The server reads what a request asks for. -/
  | read (call : Nat)
  /-- The server stores messages of a conversation. -/
  | store (conversationId : String) (messages : List ChatMessageResponse)
  | listed (call : Nat) (answer : Except String (List ChatSessionResponse))
  | created (call : Nat) (answer : Except String ChatSessionResponse)
  /-- A list of messages comes back, or its request fails. -/
  | loaded (call : Nat) (failure : Option String)
  | metadata (call : Nat) (metadata : ChatStreamMetadataResponse)
  | status (call : Nat) (status : ChatStreamStatusResponse)
  | delta (call : Nat) (content : String)
  | done (call : Nat) (messageId : String)
  /-- The stream is over, or fails. -/
  | streamed (call : Nat) (failure : Option String)

namespace ConsoleState

variable (chatStopped : String) (s : ConsoleState)

def send (content : String) (session : Option ChatSessionResponse)
    (clientMessageId streamMessageId : String) : ConsoleState :=
  let send :=
    { content := content
      clientMessageId := clientMessageId
      streamMessageId := streamMessageId
      activeSession := s.activeSession : Send }
  let id := s.nextCall
  let s := { s with sending := true, actionError := none, abortRef := some id }
  match session.or s.activeSession with
  | some session => (s.enter (.ensuring send)).streamTo id send session
  | none => s.enter (.ensuring send)

def stop : ConsoleState :=
  match s.abortRef with
  | some id =>
    { s with calls := s.calls.mapValues fun other call => if other = id then call.abort else call }
  | none => s

def listed (id : Nat) (answer : Except String (List ChatSessionResponse)) : ConsoleState :=
  match s.calls.get id with
  | some .listing => (s.showSessions answer).finish id
  | some (.relisting _) => (s.showSessions answer).finishSend id
  | _ => s

def created (id : Nat) (answer : Except String ChatSessionResponse) : ConsoleState :=
  match s.calls.get id, answer with
  | some .creating, .ok session => { s.openSession session with messages := [] }.finish id
  | some .creating, .error text => { s with actionError := some text }.finish id
  | some (.ensuring send), .ok session => (s.openSession session).streamTo id send session
  | some (.ensuring send), .error text => s.catchSend chatStopped id send text
  | _, _ => s

def loaded (id : Nat) (failure : Option String) : ConsoleState :=
  match s.calls.get id, failure with
  | some (.loading _ true _), _ => s.finish id
  | some (.loading _ false (some messages)), none => (s.showMessages messages).finish id
  | some (.loading _ false _), some _ =>
    { s with messages := [], loadsOk := false }.finish id
  | some (.refreshing send _ (some messages)), none =>
    (s.showMessages messages).loadSessions.await id (.relisting send)
  | some (.refreshing send _ _), some text =>
    { s with loadsOk := false }.catchSend chatStopped id send text
  | some (.rescuing _ _ (some messages)), none => (s.showMessages messages).finishSend id
  | some (.rescuing _ _ _), some _ => { s with loadsOk := false }.finishSend id
  | _, _ => s

def streamEvent (id : Nat)
    (change : Send → List ChatMessageResponse → List ChatMessageResponse) : ConsoleState :=
  match s.calls.get id with
  | some (.streaming send _) => { s with messages := change send s.messages }
  | _ => s

def streamed (id : Nat) (failure : Option String) : ConsoleState :=
  match s.calls.get id, failure with
  | some (.streaming send session), none => s.await id (.refreshing send session none)
  | some (.streaming send _), some text => s.catchSend chatStopped id send text
  | _, _ => s

def handle : ConsoleEvent → ConsoleState
  | .select session => { s with activeSession := session }
  | .refetch => s.loadSessions.enter .listing
  | .create => { s with actionError := none }.enter .creating
  | .send content session clientMessageId streamMessageId =>
    s.send content session clientMessageId streamMessageId
  | .stop => s.stop
  | .read id =>
    { s with
      calls := s.calls.mapValues fun other call =>
        if other = id then call.answerFrom s.stored else call }
  | .store conversationId messages =>
    { s with
      stored := fun other =>
        if other = conversationId then s.stored other ++ messages else s.stored other }
  | .listed id answer => s.listed id answer
  | .created id answer => s.created chatStopped id answer
  | .loaded id failure => s.loaded chatStopped id failure
  | .metadata id metadata => s.streamEvent id fun send => onMetadata send metadata
  | .status id status => s.streamEvent id fun send => changeAnswer send (onStatus status)
  | .delta id content => s.streamEvent id fun send => changeAnswer send (onDelta content)
  | .done id messageId => s.streamEvent id fun send => changeAnswer send (onDone messageId)
  | .streamed id failure => s.streamed chatStopped id failure

end ConsoleState

def console (chatStopped : String) : Process.Machine ConsoleState ConsoleEvent
    (List ChatMessageResponse × Option ChatSessionResponse) where
  step s event :=
    let after := ConsoleState.runEffects s (s.handle chatStopped event)
    ((after.messages, after.activeSession), after)

def mounted (stored : String → List ChatMessageResponse) : ConsoleState where
  calls := OrderedDict.empty.set 0 .listing
  nextCall := 1
  stored := stored

end AgentHive.ChatConsole
