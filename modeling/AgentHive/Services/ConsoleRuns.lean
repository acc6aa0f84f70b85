import AgentHive.Services.ChatConsole

/-!
What the chat console has on display: messages of the active session only, and
the stored ones once it comes to rest, as long as a session is changed and a
list of messages comes back at the right time.
-/

namespace AgentHive.ChatConsole

variable (s : ConsoleState)

def ConsoleState.Shows (session : Option ChatSessionResponse) : Prop :=
  ∀ active ∈ session, ∀ message ∈ s.messages, message.conversationId = active.id

instance (s : ConsoleState) (session : Option ChatSessionResponse) :
    Decidable (s.Shows session) :=
  inferInstanceAs (Decidable (∀ active ∈ session, ∀ message ∈ s.messages, _))

def ConsoleState.storedActive : List ChatMessageResponse :=
  (s.activeSession.map fun session => s.stored session.id).getD []

def Call.willWrite : Call → Bool
  | .loading _ cancelled _ => !cancelled
  | .streaming _ _ | .refreshing _ _ _ | .rescuing _ _ _ => true
  | .listing | .creating | .ensuring _ | .relisting _ => false

def Awaited (calls : OrderedDict Nat Call) : Prop :=
  ∃ entry ∈ calls.entries, entry.2.willWrite = true

instance (calls : OrderedDict Nat Call) : Decidable (Awaited calls) :=
  inferInstanceAs (Decidable (∃ entry ∈ calls.entries, _))

/-- Once no such request is in flight and the last list has come back, the
messages stored of the active session are on display. -/
def ConsoleState.Settled : Prop :=
  s.loadsOk = true → ¬ Awaited s.calls → s.messages = s.storedActive

def ConsoleState.OnDisplay (session : ChatSessionResponse) : Prop :=
  ∀ active ∈ s.activeSession, session.id = active.id

instance (s : ConsoleState) (session : ChatSessionResponse) : Decidable (s.OnDisplay session) :=
  inferInstanceAs (Decidable (∀ active ∈ s.activeSession, _))

def ConsoleState.UpToDate (id : Nat) (messages : List ChatMessageResponse) : Prop :=
  messages = s.storedActive ∨ Awaited (s.calls.erase id)

instance (s : ConsoleState) (id : Nat) (messages : List ChatMessageResponse) :
    Decidable (s.UpToDate id messages) :=
  inferInstanceAs (Decidable (_ ∨ _))

/-- A send that ends in an error leaves nothing on display that is not stored,
and nothing off it that is. A send that was stopped loads the messages of the
session that was active when it began. -/
def EndsClean (chatStopped : String) (s : ConsoleState) (id : Nat) (send : Send) : Prop :=
  if send.aborted then
    send.activeSession = none → s.UpToDate id (stopped chatStopped send s.messages)
  else s.UpToDate id (withoutPlaceholders send s.messages)

instance (chatStopped : String) (s : ConsoleState) (id : Nat) (send : Send) :
    Decidable (EndsClean chatStopped s id send) := by
  unfold EndsClean
  infer_instance

def LoadsInTime (id : Nat) : Option Call → Prop
  | some (.loading _ false (some messages)) => s.UpToDate id messages
  | some (.refreshing _ session (some messages)) =>
    s.OnDisplay session ∧ s.UpToDate id messages
  | some (.rescuing _ session (some messages)) => s.OnDisplay session ∧ s.UpToDate id messages
  | _ => True

instance (s : ConsoleState) (id : Nat) (call : Option Call) : Decidable (LoadsInTime s id call) := by
  unfold LoadsInTime
  split
  all_goals infer_instance

/-- A step under which the console keeps showing what it should: a session
becomes active while no message of another one is on display, a send puts
messages on display while its session is the active one, and what comes back
last is what is stored. -/
def InTime (chatStopped : String) (s : ConsoleState) : ConsoleEvent → Prop
  | .select session => s.Shows session
  | .listed _ (.ok listed) => s.Shows (s.activeSession.or listed.head?)
  | .send _ session _ _ => ∀ target ∈ session.or s.activeSession, s.OnDisplay target
  | .created id (.ok session) =>
    match s.calls.get id with
    | some (.ensuring _) => s.Shows (some session)
    | _ => True
  | .created id (.error _) =>
    match s.calls.get id with
    | some (.ensuring send) => EndsClean chatStopped s id send
    | _ => True
  | .store conversationId _ =>
    (∀ active ∈ s.activeSession, active.id ≠ conversationId) ∨ Awaited s.calls
  | .loaded id none => LoadsInTime s id (s.calls.get id)
  | .metadata id _ =>
    match s.calls.get id with
    | some (.streaming send session) =>
      (∀ message ∈ s.messages, message.id ≠ send.clientMessageId) ∨ s.OnDisplay session
    | _ => True
  | .streamed id (some _) =>
    match s.calls.get id with
    | some (.streaming send _) => EndsClean chatStopped s id send
    | _ => True
  | _ => True

/-- How the API answers: what it stores of a conversation, and the message of the
user that a stream brings, carry the id of the conversation; a session that was
created is a new object. -/
def Honest : ConsoleEvent → Prop
  | .store conversationId messages =>
    ∀ message ∈ messages, message.conversationId = conversationId
  | .metadata id metadata =>
    match s.calls.get id with
    | some (.streaming _ session) => metadata.userMessage.conversationId = session.id
    | _ => True
  | .created _ (.ok session) => s.activeSession ≠ some session
  | _ => True

section Requests

variable {calls : OrderedDict Nat Call} {id : Nat} {call : Call}

theorem awaited_of_get (id : Nat) {call : Call} (there : calls.get id = some call)
    (writes : call.willWrite = true) : Awaited calls :=
  ⟨(id, call), OrderedDict.mem_entries_of_get there, writes⟩

theorem get_of_awaited (awaited : Awaited calls) :
    ∃ id call, calls.get id = some call ∧ call.willWrite = true := by
  obtain ⟨entry, mem, writes⟩ := awaited
  exact ⟨entry.1, entry.2, OrderedDict.get_of_mem_entries mem, writes⟩

theorem awaited_set_self (writes : call.willWrite = true) : Awaited (calls.set id call) :=
  awaited_of_get id (calls.get_set_self id call) writes

theorem awaited_set (rest : Awaited (calls.erase id)) : Awaited (calls.set id call) := by
  obtain ⟨other, found, there, writes⟩ := get_of_awaited rest
  rw [OrderedDict.get_erase] at there
  split at there
  · cases there
  · rename_i apart
    refine awaited_of_get other ?_ writes
    rw [OrderedDict.get_set_of_ne _ _ apart]
    exact there

theorem awaited_erase (quiet : ∀ call, calls.get id = some call → call.willWrite = false)
    (awaited : Awaited calls) : Awaited (calls.erase id) := by
  obtain ⟨other, found, there, writes⟩ := get_of_awaited awaited
  refine awaited_of_get other ?_ writes
  rw [OrderedDict.get_erase, if_neg]
  · exact there
  · intro same
    rw [same] at there
    rw [quiet found there] at writes
    cases writes

theorem awaited_mapValues {f : Nat → Call → Call}
    (same : ∀ id call, (f id call).willWrite = call.willWrite) :
    Awaited (calls.mapValues f) ↔ Awaited calls := by
  constructor
  · intro awaited
    obtain ⟨id, found, there, writes⟩ := get_of_awaited awaited
    rw [OrderedDict.get_mapValues, Option.map_eq_some_iff] at there
    obtain ⟨call, there, rfl⟩ := there
    exact awaited_of_get id there (by rwa [same] at writes)
  · intro awaited
    obtain ⟨id, call, there, writes⟩ := get_of_awaited awaited
    have mapped : (calls.mapValues f).get id = some (f id call) := by
      rw [OrderedDict.get_mapValues, there]
      rfl
    exact awaited_of_get id mapped (by rwa [same])

def Call.brings : Call → Option (ChatSessionResponse × List ChatMessageResponse)
  | .loading session _ (some messages) => some (session, messages)
  | .refreshing _ session (some messages) => some (session, messages)
  | .rescuing _ session (some messages) => some (session, messages)
  | _ => none

def Call.loadsFor : Call → Option ChatSessionResponse
  | .loading session false _ => some session
  | _ => none

structure CallOk (active : Option ChatSessionResponse) (call : Call) : Prop where
  brings : ∀ session messages, call.brings = some (session, messages) →
    ∀ message ∈ messages, message.conversationId = session.id
  loads : ∀ session, call.loadsFor = some session → active = some session

structure CallsOk (active : Option ChatSessionResponse) (calls : OrderedDict Nat Call)
    (next : Nat) : Prop where
  fresh : ∀ id call, calls.get id = some call → id < next
  each : ∀ id call, calls.get id = some call → CallOk active call

variable {active : Option ChatSessionResponse} {next : Nat}

theorem CallOk.blank (brings : call.brings = none) (loads : call.loadsFor = none) :
    CallOk active call := by
  refine ⟨fun session messages eq => ?_, fun session eq => ?_⟩
  · rw [brings] at eq
    cases eq
  · rw [loads] at eq
    cases eq

variable (ok : CallsOk active calls next)

include ok

theorem CallsOk.set (bound : id < next)
    (new : CallOk active call) : CallsOk active (calls.set id call) next := by
  refine ⟨fun other found there => ?_, fun other found there => ?_⟩
  · rw [OrderedDict.get_set] at there
    split at there
    · rename_i same
      rw [same]
      exact bound
    · exact ok.fresh other found there
  · rw [OrderedDict.get_set] at there
    split at there
    · cases there
      exact new
    · exact ok.each other found there

theorem CallsOk.enter (new : CallOk active call) :
    CallsOk active (calls.set next call) (next + 1) := by
  have later : CallsOk active calls (next + 1) :=
    ⟨fun id call there => Nat.lt_succ_of_lt (ok.fresh id call there), ok.each⟩
  exact later.set (Nat.lt_succ_self next) new

theorem CallsOk.erase (id : Nat) :
    CallsOk active (calls.erase id) next := by
  refine ⟨fun other found there => ?_, fun other found there => ?_⟩
  all_goals
    rw [OrderedDict.get_erase] at there
    split at there
  · cases there
  · exact ok.fresh other found there
  · cases there
  · exact ok.each other found there

theorem CallsOk.mapValues {after : Option ChatSessionResponse}
    {f : Nat → Call → Call} (kept : ∀ id call, CallOk active call → CallOk after (f id call)) :
    CallsOk after (calls.mapValues f) next := by
  refine ⟨fun id found there => ?_, fun id found there => ?_⟩
  all_goals
    rw [OrderedDict.get_mapValues, Option.map_eq_some_iff] at there
    obtain ⟨call, there, rfl⟩ := there
  · exact ok.fresh id call there
  · exact kept id call (ok.each id call there)

theorem CallsOk.unused : calls.get next = none := by
  cases there : calls.get next with
  | none => rfl
  | some call => exact absurd (ok.fresh next call there) (Nat.lt_irrefl next)

theorem CallsOk.awaited_enter (awaited : Awaited calls) :
    Awaited (calls.set next call) := by
  refine awaited_set (awaited_erase (fun call there => ?_) awaited)
  rw [ok.unused] at there
  cases there

end Requests

/-- What the console keeps to: in each step up to its render, and between the steps. -/
structure Holds (before s : ConsoleState) : Prop where
  shows : s.Shows s.activeSession
  settled : s.activeSession = before.activeSession → s.Settled
  stored : ∀ id, ∀ message ∈ s.stored id, message.conversationId = id
  calls : CallsOk before.activeSession s.calls s.nextCall

abbrev ConsoleState.Sound : Prop := Holds s s

section Renders

variable {before s s' : ConsoleState} {id : Nat} {call : Call}

theorem Shows.none (s : ConsoleState) : s.Shows none := by
  intro active mem
  cases mem

theorem settled_of_awaited (awaited : Awaited s.calls) : s.Settled :=
  fun _ rest => absurd awaited rest

theorem settled_of_shown (shown : s.messages = s.storedActive) : s.Settled := fun _ _ => shown

theorem settled_of_failed (failed : s.loadsOk = false) : s.Settled := by
  intro ok
  rw [failed] at ok
  cases ok

theorem Holds.settled_self (sound : s.Sound) : s.Settled := sound.settled rfl

theorem Holds.congr (holds : Holds before s) (messages : s'.messages = s.messages)
    (active : s'.activeSession = s.activeSession) (calls : s'.calls = s.calls)
    (next : s'.nextCall = s.nextCall) (stored : s'.stored = s.stored)
    (loadsOk : s'.loadsOk = s.loadsOk) : Holds before s' := by
  refine ⟨?_, fun same => ?_, ?_, ?_⟩
  · rw [ConsoleState.Shows, messages, active]
    exact holds.shows
  · rw [ConsoleState.Settled, ConsoleState.storedActive, messages, active, calls, stored, loadsOk]
    exact holds.settled (active.symm.trans same)
  · rw [stored]
    exact holds.stored
  · rw [calls, next]
    exact holds.calls

theorem cancel_ok {active after : Option ChatSessionResponse} (ok : CallOk active call) :
    CallOk after call.cancel := by
  refine ⟨fun session messages eq => ?_, fun session eq => ?_⟩
  · refine ok.brings session messages ?_
    rw [← eq]
    cases call with
    | loading session cancelled read => cases read <;> rfl
    | _ => rfl
  · cases call with
    | _ => cases eq

theorem runEffects_sound (holds : Holds before s) : (ConsoleState.runEffects before s).Sound := by
  rw [ConsoleState.runEffects]
  split
  · rename_i same
    refine ⟨holds.shows, fun _ => holds.settled same, holds.stored, ?_⟩
    rw [same]
    exact holds.calls
  · have cancelled : CallsOk s.activeSession (s.calls.mapValues fun _ call => call.cancel)
        s.nextCall :=
      holds.calls.mapValues fun _ _ ok => cancel_ok ok
    dsimp only
    split
    · rename_i unset
      refine ⟨?_, fun _ => settled_of_shown ?_, holds.stored, cancelled⟩
      · rw [unset]
        exact Shows.none _
      · dsimp only [ConsoleState.storedActive]
        rw [unset]
        rfl
    · rename_i session set
      have new : CallOk s.activeSession (.loading session false none) := by
        refine ⟨fun other messages eq => ?_, fun other eq => ?_⟩
        · cases eq
        · rw [set]
          exact eq
      exact ⟨holds.shows, fun _ => settled_of_awaited (awaited_set_self rfl), holds.stored,
        cancelled.enter new⟩

theorem Holds.enter (holds : Holds before s) (brings : call.brings = none)
    (loads : call.loadsFor = none) : Holds before (s.enter call) := by
  refine ⟨holds.shows, fun same ok quiet => ?_, holds.stored,
    holds.calls.enter (.blank brings loads)⟩
  exact holds.settled same ok fun awaited => quiet (holds.calls.awaited_enter awaited)

theorem Holds.finish (id : Nat) (holds : Holds before s)
    (quiet : ∀ call, s.calls.get id = some call → call.willWrite = false) :
    Holds before (s.finish id) := by
  refine ⟨holds.shows, fun same ok rest => ?_, holds.stored, holds.calls.erase id⟩
  exact holds.settled same ok fun awaited => rest (awaited_erase quiet awaited)

theorem Holds.mapCalls (holds : Holds before s) {f : Nat → Call → Call}
    (same : ∀ id call, (f id call).willWrite = call.willWrite)
    (kept : ∀ id call, CallOk before.activeSession call →
      CallOk before.activeSession (f id call)) :
    Holds before { s with calls := s.calls.mapValues f } := by
  refine ⟨holds.shows, fun active ok quiet => ?_, holds.stored, holds.calls.mapValues kept⟩
  exact holds.settled active ok fun awaited => quiet ((awaited_mapValues same).mpr awaited)

end Renders

section Display

variable {before s : ConsoleState} {id : Nat} {send : Send} {session : ChatSessionResponse}
  {messages : List ChatMessageResponse} {chatStopped : String}

theorem Shows.of_same (shows : s.Shows s.activeSession)
    (same : ∀ message ∈ messages, ∃ old ∈ s.messages, message.conversationId = old.conversationId) :
    { s with messages := messages }.Shows s.activeSession := by
  intro active mem message there
  obtain ⟨old, shown, eq⟩ := same message there
  rw [eq]
  exact shows active mem old shown

theorem shows_list (owned : ∀ message ∈ messages, message.conversationId = session.id)
    (onDisplay : s.OnDisplay session) : { s with messages := messages }.Shows s.activeSession := by
  intro active mem message there
  rw [owned message there]
  exact onDisplay active mem

variable {message : ChatMessageResponse}

theorem conversation_of_stopped (mem : message ∈ stopped chatStopped send messages) :
    ∃ old ∈ messages, message.conversationId = old.conversationId := by
  obtain ⟨old, there, same⟩ := List.mem_map.mp (List.mem_of_mem_filter mem)
  refine ⟨old, there, ?_⟩
  rw [← same]
  split
  · rfl
  · rfl

theorem conversation_of_withoutPlaceholders (mem : message ∈ withoutPlaceholders send messages) :
    ∃ old ∈ messages, message.conversationId = old.conversationId :=
  ⟨message, List.mem_of_mem_filter mem, rfl⟩

theorem conversation_of_changeAnswer {change : ChatMessageResponse → ChatMessageResponse}
    (kept : ∀ item, (change item).conversationId = item.conversationId)
    (mem : message ∈ changeAnswer send change messages) :
    ∃ old ∈ messages, message.conversationId = old.conversationId := by
  obtain ⟨old, there, same⟩ := List.mem_map.mp mem
  refine ⟨old, there, ?_⟩
  rw [← same]
  split
  · exact kept old
  · rfl

theorem Holds.finishSend (id : Nat) (holds : Holds before s)
    (shows : { s with messages := messages }.Shows s.activeSession)
    (upToDate : s.loadsOk = true → s.UpToDate id messages) :
    Holds before ({ s with messages := messages }.finishSend id) := by
  refine ⟨shows, fun _ ok quiet => ?_, holds.stored, holds.calls.erase id⟩
  rcases upToDate ok with shown | awaited
  · exact shown
  · exact absurd awaited quiet

theorem catchSend_holds (holds : Holds before s) (bound : id < s.nextCall) (text : String)
    (clean : s.loadsOk = true → EndsClean chatStopped s id send) :
    Holds before (s.catchSend chatStopped id send text) := by
  have left := Shows.of_same holds.shows
    fun _ (mem : _ ∈ stopped chatStopped send s.messages) => conversation_of_stopped mem
  rw [ConsoleState.catchSend]
  split
  · rename_i aborted
    split
    · rename_i session loads
      refine ⟨left, fun _ => settled_of_awaited (awaited_set_self rfl), holds.stored,
        holds.calls.set bound (.blank rfl rfl)⟩
    · rename_i unset
      refine holds.finishSend id left fun ok => ?_
      have ends := clean ok
      rw [EndsClean, if_pos aborted] at ends
      exact ends unset
  · rename_i running
    have rest := Shows.of_same holds.shows
      fun _ (mem : _ ∈ withoutPlaceholders send s.messages) =>
        conversation_of_withoutPlaceholders mem
    refine (holds.finishSend id rest fun ok => ?_).congr rfl rfl rfl rfl rfl rfl
    have ends := clean ok
    rwa [EndsClean, if_neg running] at ends

theorem streamTo_holds (holds : Holds before s) (bound : id < s.nextCall)
    (onDisplay : s.OnDisplay session) : Holds before (s.streamTo id send session) := by
  refine ⟨?_, fun _ => settled_of_awaited (awaited_set_self rfl), holds.stored,
    holds.calls.set bound (.blank rfl rfl)⟩
  intro active mem message there
  rcases List.mem_append.mp there with old | new
  · exact holds.shows active mem message old
  · have owned : message.conversationId = session.id := by
      simp only [placeholders, List.mem_cons, List.not_mem_nil, or_false] at new
      rcases new with same | same
      · rw [same]
        rfl
      · rw [same]
        rfl
    rw [owned]
    exact onDisplay active mem

end Display

section Handlers

variable {chatStopped : String} {s : ConsoleState} {id : Nat} {session : Option ChatSessionResponse}

variable (sound : s.Sound)

include sound

theorem select_holds (inTime : s.Shows session) :
    Holds s { s with activeSession := session } := by
  refine ⟨inTime, fun same => ?_, sound.stored, sound.calls⟩
  subst same
  exact sound.settled_self

theorem send_holds {content clientMessageId streamMessageId : String}
    (inTime : ∀ target ∈ session.or s.activeSession, s.OnDisplay target) :
    Holds s (s.send content session clientMessageId streamMessageId) := by
  have begun : Holds s { s with
      sending := true, actionError := none, abortRef := some s.nextCall } :=
    sound.congr rfl rfl rfl rfl rfl rfl
  rw [ConsoleState.send]
  split
  · rename_i target isTarget
    refine streamTo_holds (begun.enter rfl rfl) (Nat.lt_succ_self _) ?_
    exact inTime target isTarget
  · exact begun.enter rfl rfl

theorem stop_holds : Holds s s.stop := by
  rw [ConsoleState.stop]
  split
  · refine sound.mapCalls (fun other call => ?_) fun other call ok => ?_
    · split
      · cases call <;> rfl
      · rfl
    · split
      · refine ⟨fun session messages eq => ok.brings session messages ?_,
          fun session eq => ok.loads session ?_⟩
        · rw [← eq]
          cases call with
          | refreshing send session read => cases read <;> rfl
          | rescuing send session read => cases read <;> rfl
          | _ => rfl
        · rw [← eq]
          cases call <;> rfl
      · exact ok
  · exact sound

theorem read_holds :
    Holds s { s with
      calls := s.calls.mapValues fun other call =>
        if other = id then call.answerFrom s.stored else call } := by
  refine sound.mapCalls (fun other call => ?_) fun other call ok => ?_
  · split
    · cases call <;> rfl
    · rfl
  · split
    · refine ⟨fun session messages eq => ?_, fun session eq => ok.loads session ?_⟩
      · cases call with
        | loading =>
          cases eq
          exact sound.stored session.id
        | refreshing =>
          cases eq
          exact sound.stored session.id
        | rescuing =>
          cases eq
          exact sound.stored session.id
        | _ => cases eq
      · rw [← eq]
        cases call with
        | loading session cancelled read => cases cancelled <;> rfl
        | _ => rfl
    · exact ok

variable {messages : List ChatMessageResponse}

theorem store_holds {conversationId : String}
    (honest : ∀ message ∈ messages, message.conversationId = conversationId)
    (inTime : (∀ active ∈ s.activeSession, active.id ≠ conversationId) ∨ Awaited s.calls) :
    Holds s { s with
      stored := fun other =>
        if other = conversationId then s.stored other ++ messages else s.stored other } := by
  refine ⟨sound.shows, fun _ => ?_, fun other message mem => ?_, sound.calls⟩
  · rcases inTime with elsewhere | awaited
    · intro ok quiet
      rw [sound.settled_self ok quiet, ConsoleState.storedActive, ConsoleState.storedActive]
      cases active : s.activeSession with
      | none => rfl
      | some session =>
        exact (if_neg (elsewhere session active)).symm
    · exact settled_of_awaited awaited
  · dsimp only at mem
    split at mem
    · rename_i same
      rcases List.mem_append.mp mem with old | new
      · exact sound.stored other message old
      · rw [same]
        exact honest message new
    · exact sound.stored other message mem

theorem showSessions_holds (answer : Except String (List ChatSessionResponse))
    (inTime : InTime chatStopped s (.listed id answer)) : Holds s (s.showSessions answer) := by
  cases answer with
  | error text => exact sound.congr rfl rfl rfl rfl rfl rfl
  | ok listed => exact (select_holds sound inTime).congr rfl rfl rfl rfl rfl rfl

theorem listed_holds (answer : Except String (List ChatSessionResponse))
    (inTime : InTime chatStopped s (.listed id answer)) : Holds s (s.listed id answer) := by
  have shown := showSessions_holds sound answer inTime
  have calls : (s.showSessions answer).calls = s.calls := by cases answer <;> rfl
  rw [ConsoleState.listed]
  split
  · rename_i found
    refine shown.finish id fun call there => ?_
    rw [calls, found] at there
    cases there
    rfl
  · rename_i send found
    refine (shown.finish id fun call there => ?_).congr rfl rfl rfl rfl rfl rfl
    rw [calls, found] at there
    cases there
    rfl
  · exact sound

theorem openSession_holds {session : ChatSessionResponse}
    (new : s.activeSession ≠ some session)
    (shows : { s with messages := messages }.Shows (some session)) :
    Holds s { s.openSession session with messages := messages } :=
  ⟨shows, fun same => absurd same.symm new, sound.stored, sound.calls⟩

theorem created_holds (answer : Except String ChatSessionResponse)
    (honest : Honest s (.created id answer)) (inTime : InTime chatStopped s (.created id answer)) :
    Holds s (s.created chatStopped id answer) := by
  unfold ConsoleState.created
  split
  · rename_i session found
    have empty : { s with messages := [] }.Shows (some session) := by
      intro active mem message there
      cases there
    refine (openSession_holds sound honest empty).finish id fun call there => ?_
    change s.calls.get id = some call at there
    rw [found] at there
    cases there
    rfl
  · rename_i text found
    refine (sound.congr rfl rfl rfl rfl rfl rfl : Holds s { s with actionError := some text }).finish
      id fun call there => ?_
    rw [found] at there
    cases there
    rfl
  · rename_i send session found
    simp only [InTime, found] at inTime
    refine streamTo_holds (openSession_holds sound honest inTime) (sound.calls.fresh id _ found) ?_
    intro active mem
    cases mem
    rfl
  · rename_i send text found
    simp only [InTime, found] at inTime
    exact catchSend_holds sound (sound.calls.fresh id _ found) text fun _ => inTime
  · exact sound

theorem failed_holds : Holds s { s with loadsOk := false } :=
  ⟨sound.shows, fun _ => settled_of_failed rfl, sound.stored, sound.calls⟩

theorem loaded_holds (failure : Option String)
    (inTime : InTime chatStopped s (.loaded id failure)) :
    Holds s (s.loaded chatStopped id failure) := by
  unfold ConsoleState.loaded
  split
  · rename_i session read found
    refine sound.finish id fun call there => ?_
    rw [found] at there
    cases there
    rfl
  · rename_i session messages found
    simp only [InTime, found, LoadsInTime] at inTime
    have ok := sound.calls.each id _ found
    have onDisplay : s.OnDisplay session := by
      intro active mem
      rw [ok.loads session rfl] at mem
      cases mem
      rfl
    refine ⟨shows_list (ok.brings session messages rfl) onDisplay, fun _ _ quiet => ?_,
      sound.stored, sound.calls.erase id⟩
    rcases inTime with shown | awaited
    · exact shown
    · exact absurd awaited quiet
  · rename_i session read text found
    refine ⟨?_, fun _ => settled_of_failed rfl, sound.stored, sound.calls.erase id⟩
    intro active mem message there
    cases there
  · rename_i send session messages found
    simp only [InTime, found, LoadsInTime] at inTime
    have ok := sound.calls.each id _ found
    refine ⟨shows_list (ok.brings session messages rfl) inTime.1, fun _ _ quiet => ?_,
      sound.stored, sound.calls.set (sound.calls.fresh id _ found) (.blank rfl rfl)⟩
    rcases inTime.2 with shown | awaited
    · exact shown
    · exact absurd (awaited_set awaited) quiet
  · rename_i send session read text found
    refine catchSend_holds (failed_holds sound) (sound.calls.fresh id _ found) text fun ok => ?_
    cases ok
  · rename_i send session messages found
    simp only [InTime, found, LoadsInTime] at inTime
    have ok := sound.calls.each id _ found
    have shows := shows_list (ok.brings session messages rfl) inTime.1
    refine ⟨shows, fun _ _ quiet => ?_, sound.stored, sound.calls.erase id⟩
    rcases inTime.2 with shown | awaited
    · exact shown
    · exact absurd awaited quiet
  · rename_i send session read text found
    refine ⟨sound.shows, fun _ => settled_of_failed rfl, sound.stored, sound.calls.erase id⟩
  · exact sound

theorem streamEvent_holds {change : Send → List ChatMessageResponse → List ChatMessageResponse}
    (shows : ∀ send session, s.calls.get id = some (.streaming send session) →
      { s with messages := change send s.messages }.Shows s.activeSession) :
    Holds s (s.streamEvent id change) := by
  rw [ConsoleState.streamEvent]
  split
  · rename_i send session found
    exact ⟨shows send session found, fun _ => settled_of_awaited (awaited_of_get id found rfl),
      sound.stored, sound.calls⟩
  · exact sound

theorem changeAnswer_holds {change : ChatMessageResponse → ChatMessageResponse}
    (kept : ∀ item, (change item).conversationId = item.conversationId) :
    Holds s (s.streamEvent id fun send => changeAnswer send change) :=
  streamEvent_holds sound fun _ _ _ =>
    Shows.of_same sound.shows fun _ mem => conversation_of_changeAnswer kept mem

theorem metadata_holds {metadata : ChatStreamMetadataResponse}
    (honest : Honest s (.metadata id metadata))
    (inTime : InTime chatStopped s (.metadata id metadata)) :
    Holds s (s.streamEvent id fun send => onMetadata send metadata) := by
  refine streamEvent_holds sound fun send session found => ?_
  simp only [Honest, found] at honest
  simp only [InTime, found] at inTime
  intro active mem message there
  obtain ⟨old, shown, same⟩ := List.mem_map.mp there
  rw [← same]
  split
  · rename_i isOwn
    rcases inTime with absent | onDisplay
    · exact absurd isOwn (absent old shown)
    · exact honest.trans (onDisplay active mem)
  · split
    · exact sound.shows active mem old shown
    · exact sound.shows active mem old shown

theorem streamed_holds (failure : Option String)
    (inTime : InTime chatStopped s (.streamed id failure)) :
    Holds s (s.streamed chatStopped id failure) := by
  unfold ConsoleState.streamed
  split
  · rename_i send session found
    exact ⟨sound.shows, fun _ => settled_of_awaited (awaited_set_self rfl), sound.stored,
      sound.calls.set (sound.calls.fresh id _ found) (.blank rfl rfl)⟩
  · rename_i send session text found
    simp only [InTime, found] at inTime
    exact catchSend_holds sound (sound.calls.fresh id _ found) text fun _ => inTime
  · exact sound

theorem step_sound {event : ConsoleEvent} (honest : Honest s event)
    (inTime : InTime chatStopped s event) : ((console chatStopped).next s event).Sound := by
  refine runEffects_sound ?_
  cases event with
  | select session => exact select_holds sound inTime
  | refetch => exact (sound.congr rfl rfl rfl rfl rfl rfl : Holds s s.loadSessions).enter rfl rfl
  | create =>
    exact (sound.congr rfl rfl rfl rfl rfl rfl : Holds s { s with actionError := none }).enter
      rfl rfl
  | send content session clientMessageId streamMessageId => exact send_holds sound inTime
  | stop => exact stop_holds sound
  | read id => exact read_holds sound
  | store conversationId messages => exact store_holds sound honest inTime
  | listed id answer => exact listed_holds sound answer inTime
  | created id answer => exact created_holds sound answer honest inTime
  | loaded id failure => exact loaded_holds sound failure inTime
  | metadata id metadata => exact metadata_holds sound honest inTime
  | status id status => exact changeAnswer_holds sound fun _ => rfl
  | delta id content => exact changeAnswer_holds sound fun _ => rfl
  | done id messageId => exact changeAnswer_holds sound fun _ => rfl
  | streamed id failure => exact streamed_holds sound failure inTime

end Handlers

instance (chatStopped : String) (s : ConsoleState) (event : ConsoleEvent) :
    Decidable (InTime chatStopped s event) := by
  unfold InTime
  split
  all_goals (try split)
  all_goals infer_instance

instance (s : ConsoleState) (event : ConsoleEvent) : Decidable (Honest s event) := by
  unfold Honest
  split
  all_goals (try split)
  all_goals infer_instance

theorem mounted_sound {stored : String → List ChatMessageResponse}
    (owned : ∀ id, ∀ message ∈ stored id, message.conversationId = id) :
    (mounted stored).Sound := by
  refine ⟨Shows.none _, fun _ => settled_of_shown rfl, owned, ?_⟩
  have none_ : CallsOk none (OrderedDict.empty : OrderedDict Nat Call) 0 := by
    refine ⟨fun id call there => ?_, fun id call there => ?_⟩
    all_goals cases there
  exact none_.enter (.blank rfl rfl)

/-- A run whose steps are in time: only messages of the active session are on
display, and all that is stored of it once the console comes to rest. -/
theorem shows_stored_messages (chatStopped : String) {stored : String → List ChatMessageResponse}
    (owned : ∀ id, ∀ message ∈ stored id, message.conversationId = id)
    {events : List ConsoleEvent} (honest : (console chatStopped).Along Honest (mounted stored) events)
    (inTime : (console chatStopped).Along (InTime chatStopped) (mounted stored) events) :
    ((console chatStopped).after (mounted stored) events).Shows
        ((console chatStopped).after (mounted stored) events).activeSession ∧
      ((console chatStopped).after (mounted stored) events).Settled := by
  have sound : ((console chatStopped).after (mounted stored) events).Sound :=
    Process.Machine.keeps (P := ConsoleState.Sound)
      (fun _ _ sound asked => step_sound sound asked.1 asked.2) (mounted_sound owned)
      ((Process.Machine.along_and _ _).mpr ⟨honest, inTime⟩)
  exact ⟨sound.shows, sound.settled_self⟩

def messageOf (conversationId id role content : String) : ChatMessageResponse where
  id := id
  conversationId := conversationId
  role := role
  content := content

def greeting (conversationId : String) : List ChatMessageResponse :=
  if conversationId = "first" then [messageOf "first" "m1" "assistant" "Hello."] else []

theorem greeting_owned (id : String) : ∀ message ∈ greeting id, message.conversationId = id := by
  intro message mem
  rw [greeting] at mem
  split at mem
  · rename_i same
    cases List.mem_singleton.mp mem
    exact same.symm
  · cases mem

def sending : List ConsoleEvent :=
  [ .listed 0 (.ok [⟨1, "first", "t"⟩, ⟨2, "second", "t"⟩]), .read 1, .loaded 1 none,
    .send "Hi." none "client-1" "stream-1",
    .store "first" [messageOf "first" "m2" "user" "Hi."],
    .metadata 2
      { userMessage := messageOf "first" "m2" "user" "Hi.", requestId := "r", providerKey := "p",
        modelKey := "m" },
    .delta 2 "Good", .delta 2 " day.",
    .store "first" [messageOf "first" "m3" "assistant" "Good day."],
    .done 2 "m3", .streamed 2 none, .read 2 ]

def sessionsAgain : ConsoleEvent := .listed 2 (.ok [⟨3, "first", "t"⟩, ⟨4, "second", "t"⟩])

def undisturbed : List ConsoleEvent := sending ++ [.loaded 2 none, sessionsAgain]

def switched : List ConsoleEvent :=
  sending ++ [.create, .created 3 (.ok ⟨5, "third", "t"⟩), .read 4, .loaded 4 none,
    .loaded 2 none, sessionsAgain]

theorem sent_messages_shown :
    ((console "Stopped.").after (mounted greeting) undisturbed).messages =
      ((console "Stopped.").after (mounted greeting) undisturbed).storedActive :=
  (shows_stored_messages "Stopped." greeting_owned (by decide +kernel) (by decide +kernel)).2
    (by decide +kernel) (by decide +kernel)

theorem other_conversation_shown :
    (console "Stopped.").Along Honest (mounted greeting) switched ∧
      ¬ ((console "Stopped.").after (mounted greeting) switched).Shows
        ((console "Stopped.").after (mounted greeting) switched).activeSession ∧
      ¬ ((console "Stopped.").after (mounted greeting) switched).Settled := by
  refine ⟨by decide +kernel, by decide +kernel, fun settled => ?_⟩
  have shown := settled (by decide +kernel) (by decide +kernel)
  exact absurd shown (by decide +kernel)

end AgentHive.ChatConsole
