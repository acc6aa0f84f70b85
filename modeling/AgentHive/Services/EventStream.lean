import AgentHive.Store.JsonReading
import AgentHive.Store.TextStream
import Mathlib.Data.List.DropRight

/-!
The event stream of a chat, from the service that writes it to the page that reads it.

The page reads bytes as they come, cut anywhere, and hands on each event when the blank line after
it has come.
-/

namespace AgentHive.EventStream

open JsonText TextBytes TextStream

def isBlank (c : Nat) : Bool :=
  (0x09 ≤ c && c ≤ 0x0D) || c = 0x20 || c = 0xA0 || c = 0x1680 || (0x2000 ≤ c && c ≤ 0x200A) ||
    c = 0x2028 || c = 0x2029 || c = 0x202F || c = 0x205F || c = 0x3000 || c = 0xFEFF

def trim (text : List Nat) : List Nat := (text.dropWhile isBlank).rdropWhile isBlank

def eventField : List Nat := codes "event:"

def dataField : List Nat := codes "data:"

def blankLine : List Nat := [0x0A, 0x0A]

/-- An event as the service sends it: its name has no line breaks and no blanks around it, and
its data is a dictionary. -/
structure SseEvent (N : Type) where
  event : List Nat
  data : List (List Nat × Value N)
  oneLine : 0x0A ∉ event
  trimmed : trim event = event
  distinct : Distinct (.obj data)

inductive EventPayload (N : Type) where
  | json (value : Value N)
  | text (raw : List Nat)

inductive ApiError where
  | refused (status : Nat)
  | noBody (status : Nat)

structure StreamResponse where
  status : Nat
  body : Option (List (List Nat))

section Model

variable {N : Type} (numbers : NumberTexts N)

def sse (event : List Nat) (data : List (List Nat × Value N)) : List Nat :=
  eventField ++ 0x20 :: event ++ 0x0A :: dataField ++ 0x20 :: render numbers spaced 0 (.obj data) ++
    blankLine

/-- `line.replace(/^field\s?/, "")`, of a line that starts with the field. -/
def fieldValue (field line : List Nat) : List Nat :=
  if field.isPrefixOf line then
    match line.drop field.length with
    | [] => []
    | c :: rest => if isBlank c then rest else c :: rest
  else line

def jsonParse (text : List Nat) : Option (Value N) := (readDocument numbers text).map dictionaries

/-- `emitSseChunk`: what it hands on. -/
def emitSseChunk (chunk : List Nat) : List (List Nat × EventPayload N) :=
  let lines := chunk.splitOn 0x0A
  let dataLines := (lines.filter dataField.isPrefixOf).map (fieldValue dataField)
  match lines.find? eventField.isPrefixOf with
  | none => []
  | some eventLine =>
    if dataLines = [] then []
    else
      let event := trim (fieldValue eventField eventLine)
      let data := [0x0A].intercalate dataLines
      match jsonParse numbers data with
      | some value => [(event, .json value)]
      | none => [(event, .text data)]

/-- The loop of `apiPostSse`, and what it does at the end. -/
def readEvents (decoder : TextDecoder) (buffer : List Nat) :
    List (List Nat) → List (List Nat × EventPayload N)
  | [] =>
    let buffer := buffer ++ decoder.finish
    if trim buffer = [] then [] else emitSseChunk numbers buffer
  | value :: rest =>
    let (text, decoder) := decoder.decode value
    let (chunks, buffer) := drain blankLine buffer text
    chunks.flatMap (emitSseChunk numbers) ++ readEvents decoder buffer rest

/-- `apiPostSse`: the calls of `onEvent` in order. -/
def apiPostSse (response : StreamResponse) : Except ApiError (List (List Nat × EventPayload N)) :=
  if 200 ≤ response.status ∧ response.status ≤ 299 then
    match response.body with
    | none => .error (.noBody response.status)
    | some reads => .ok (readEvents numbers {} [] reads)
  else .error (.refused response.status)

end Model

variable {N : Type} {numbers : NumberTexts N}

def decodePieces : TextDecoder → List (List Nat) → List (List Nat) × TextDecoder
  | d, [] => ([], d)
  | d, bytes :: rest =>
    let (text, d') := d.decode bytes
    let (texts, last) := decodePieces d' rest
    (text :: texts, last)

theorem decode_nil (d : TextDecoder) : d.decode [] = ([], d) := by
  obtain ⟨utf8, bomSeen⟩ := d
  cases bomSeen with
  | true => rfl
  | false => rfl

theorem decodePieces_eq (d : TextDecoder) (pieces : List (List Nat)) :
    ((decodePieces d pieces).1.flatten, (decodePieces d pieces).2) = d.decode pieces.flatten := by
  induction pieces generalizing d with
  | nil => exact (decode_nil d).symm
  | cons bytes rest ih =>
    have later := ih (d.decode bytes).2
    rw [List.flatten_cons, decode_append, ← later]
    rfl

theorem readEvents_eq (d : TextDecoder) (buffer : List Nat) (reads : List (List Nat)) :
    readEvents numbers d buffer reads =
      (drainAll blankLine buffer (decodePieces d reads).1).1.flatMap (emitSseChunk numbers) ++
        readEvents numbers (decodePieces d reads).2
          (drainAll blankLine buffer (decodePieces d reads).1).2 [] := by
  induction reads generalizing d buffer with
  | nil => rfl
  | cons value rest ih =>
    have step : readEvents numbers d buffer (value :: rest) =
        (drain blankLine buffer (d.decode value).1).1.flatMap (emitSseChunk numbers) ++
          readEvents numbers (d.decode value).2 (drain blankLine buffer (d.decode value).1).2
            rest := rfl
    rw [step, ih, ← List.append_assoc, ← List.flatMap_append]
    rfl

theorem shortEscape_ne_newline {c x : Nat} (short : shortEscape c = some x) : x ≠ 0x0A := by
  unfold shortEscape at short
  split at short <;> cases short <;> decide

theorem escape_no_newline (c : Nat) : 0x0A ∉ escape c := by
  unfold escape
  split
  · rename_i x short
    simp [(shortEscape_ne_newline short).symm]
  · rename_i long
    have other : c ≠ 0x0A := by
      intro newline
      rw [newline] at long
      cases long
    split
    · have digit : ∀ d, hexDigit d ≠ 0x0A := by
        intro d
        unfold hexDigit
        split <;> omega
      simp [(digit _).symm]
    · simp [other.symm]

theorem quote_no_newline (text : List Nat) : 0x0A ∉ quote text := by
  intro mem
  rw [quote, List.mem_cons, List.mem_append, List.mem_flatMap, List.mem_singleton] at mem
  obtain open' | ⟨c, _, inside⟩ | close := mem
  · cases open'
  · exact escape_no_newline c inside
  · cases close

theorem comma_no_newline (first : Bool) : 0x0A ∉ comma spaced first := by
  cases first with
  | true => decide
  | false => decide

theorem closing_no_newline (level : Nat) (first : Bool) : 0x0A ∉ closing spaced level first := by
  cases first with
  | true => exact List.not_mem_nil
  | false => exact List.not_mem_nil

mutual

theorem render_no_newline : ∀ (v : Value N) (level : Nat), 0x0A ∉ render numbers spaced level v
  | .null, level => by
    rw [render]
    decide
  | .bool true, level => by
    rw [render]
    decide
  | .bool false, level => by
    rw [render]
    decide
  | .num n, level => by
    rw [render]
    intro mem
    exact absurd (numbers.plain mem) (by decide)
  | .str text, level => by
    rw [render]
    exact quote_no_newline text
  | .arr items, level => by
    rw [render, List.mem_cons, not_or]
    exact ⟨by decide, renderItems_no_newline items (level + 1) true⟩
  | .obj entries, level => by
    rw [render, List.mem_cons, not_or]
    exact ⟨by decide, renderEntries_no_newline entries (level + 1) true⟩

theorem renderItems_no_newline : ∀ (items : List (Value N)) (level : Nat) (first : Bool),
    0x0A ∉ renderItems numbers spaced level first items
  | [], level, first => by
    rw [renderItems, List.mem_append, not_or]
    exact ⟨closing_no_newline level first, by decide⟩
  | item :: rest, level, first => by
    rw [renderItems, List.mem_append, List.mem_append, List.mem_append, not_or, not_or, not_or]
    exact ⟨comma_no_newline first, List.not_mem_nil, render_no_newline item level,
      renderItems_no_newline rest level false⟩

theorem renderEntries_no_newline : ∀ (entries : List (List Nat × Value N)) (level : Nat)
    (first : Bool), 0x0A ∉ renderEntries numbers spaced level first entries
  | [], level, first => by
    rw [renderEntries, List.mem_append, not_or]
    exact ⟨closing_no_newline level first, by decide⟩
  | (key, item) :: rest, level, first => by
    rw [renderEntries]
    simp only [List.mem_append, List.mem_cons, not_or]
    exact ⟨comma_no_newline first, List.not_mem_nil, quote_no_newline key, by decide, by decide,
      render_no_newline item level, renderEntries_no_newline rest level false⟩

end

variable (e : SseEvent N)

def eventLine : List Nat := eventField ++ 0x20 :: e.event

def dataLine (numbers : NumberTexts N) (e : SseEvent N) : List Nat :=
  dataField ++ 0x20 :: render numbers spaced 0 (.obj e.data)

def eventText (numbers : NumberTexts N) (e : SseEvent N) : List Nat :=
  eventLine e ++ 0x0A :: dataLine numbers e

theorem sse_eq : sse numbers e.event e.data = eventText numbers e ++ blankLine := by
  simp [sse, eventText, eventLine, dataLine]

theorem eventLine_no_newline : 0x0A ∉ eventLine e := by
  rw [eventLine, List.mem_append, List.mem_cons, not_or, not_or]
  exact ⟨by decide, by decide, e.oneLine⟩

theorem dataLine_no_newline : 0x0A ∉ dataLine numbers e := by
  rw [dataLine, List.mem_append, List.mem_cons, not_or, not_or]
  exact ⟨by decide, by decide, render_no_newline _ 0⟩

theorem splitOn_eventText :
    (eventText numbers e).splitOn 0x0A = [eventLine e, dataLine numbers e] := by
  have joined : eventText numbers e = [0x0A].intercalate [eventLine e, dataLine numbers e] := by
    rw [List.intercalate_cons_cons, List.intercalate_singleton, List.append_assoc]
    rfl
  rw [joined]
  apply List.splitOn_intercalate
  · intro line mem
    rw [List.mem_cons, List.mem_singleton] at mem
    cases mem with
    | inl first => exact first ▸ eventLine_no_newline e
    | inr second => exact second ▸ dataLine_no_newline e
  · exact List.cons_ne_nil _ _

theorem fieldValue_field (field value : List Nat) :
    fieldValue field (field ++ 0x20 :: value) = value := by
  have begins : field.isPrefixOf (field ++ 0x20 :: value) = true :=
    List.isPrefixOf_iff_prefix.mpr (List.prefix_append _ _)
  rw [fieldValue, if_pos begins, List.drop_left]
  rfl

theorem jsonParse_render :
    jsonParse numbers (render numbers spaced 0 (.obj e.data)) = some (.obj e.data) := by
  rw [jsonParse, readDocument_render, Option.map_some, dictionaries_of_distinct e.distinct]

theorem emitSseChunk_event :
    emitSseChunk numbers (eventText numbers e) = [(e.event, .json (.obj e.data))] := by
  have named : eventField.isPrefixOf (eventLine e) = true :=
    List.isPrefixOf_iff_prefix.mpr (List.prefix_append _ _)
  have other : dataField.isPrefixOf (eventLine e) = false := rfl
  have filled : dataField.isPrefixOf (dataLine numbers e) = true :=
    List.isPrefixOf_iff_prefix.mpr (List.prefix_append _ _)
  have kept : [eventLine e, dataLine numbers e].filter dataField.isPrefixOf =
      [dataLine numbers e] := by
    rw [List.filter_cons, other, List.filter_cons, filled]
    rfl
  have found : [eventLine e, dataLine numbers e].find? eventField.isPrefixOf =
      some (eventLine e) := by
    rw [List.find?_cons, named]
  unfold emitSseChunk
  rw [splitOn_eventText]
  dsimp only
  rw [kept, found, List.map_singleton]
  dsimp only
  rw [if_neg (List.cons_ne_nil _ _), List.intercalate_singleton, dataLine, fieldValue_field,
    jsonParse_render, eventLine, fieldValue_field, e.trimmed]

theorem blankLine_ne_nil : blankLine ≠ [] := by decide

theorem split_event (rest : List Nat) :
    split blankLine (sse numbers e.event e.data ++ rest) =
      eventText numbers e :: split blankLine rest := by
  have begins : blankLine = 0x0A :: [0x0A] := rfl
  have apart : ¬ blankLine <+: 0x0A :: (dataLine numbers e ++ blankLine) := by
    intro here
    have second := (List.cons_prefix_cons.mp here).2
    exact absurd (List.cons_prefix_cons.mp second).1 (by decide)
  have alone : split blankLine (sse numbers e.event e.data) = [eventText numbers e, []] := by
    rw [sse_eq, eventText, List.append_assoc,
      split_append_of_not_mem begins (eventLine_no_newline e), List.cons_append,
      split_cons apart, split_append_of_not_mem begins (dataLine_no_newline e)]
    have last : split blankLine blankLine = [[], []] := by decide
    rw [last]
    simp
  rw [split_append blankLine_ne_nil, alone]
  rfl

theorem split_events (events : List (SseEvent N)) :
    split blankLine (events.flatMap fun e => sse numbers e.event e.data) =
      events.map (eventText numbers) ++ [[]] := by
  induction events with
  | nil => rfl
  | cons e rest ih => rw [List.flatMap_cons, split_event, ih, List.map_cons, List.cons_append]

theorem decode_encoded {text bytes : List Nat} (encoded : encodeUtf8 text = some bytes)
    (begins : text.head? ≠ some 0xFEFF) :
    ∃ bomSeen, (TextDecoder.decode {} bytes) = (text, { utf8 := {}, bomSeen }) := by
  unfold encodeUtf8 at encoded
  split at encoded
  · rename_i scalars
    cases encoded
    refine ⟨(serialize false text).2, ?_⟩
    have same : (serialize false text).1 = text := by
      cases text with
      | nil => rfl
      | cons c rest =>
        have other : c ≠ 0xFEFF := fun mark => begins (congrArg some mark)
        exact if_neg other
    rw [TextDecoder.decode, utf8Run_utf8 scalars]
    dsimp only
    rw [same]
  · cases encoded

theorem events_begin (events : List (SseEvent N)) :
    (events.flatMap fun e => sse numbers e.event e.data).head? ≠ some 0xFEFF := by
  cases events with
  | nil => exact fun none => by cases none
  | cons e rest =>
    intro mark
    have first := Option.some.inj mark
    exact absurd first (by decide)

/-- However the bytes of the events are cut into reads, each event is handed on once, in order,
with its name and its data. -/
theorem stream_round_trip (numbers : NumberTexts N) (events : List (SseEvent N)) {bytes : List Nat}
    (encoded : encodeUtf8 (events.flatMap fun e => sse numbers e.event e.data) = some bytes)
    {reads : List (List Nat)} (cut : reads.flatten = bytes) {status : Nat}
    (successful : 200 ≤ status ∧ status ≤ 299) :
    apiPostSse numbers { status, body := some reads } =
      .ok (events.map fun e => (e.event, .json (.obj e.data))) := by
  obtain ⟨bomSeen, decoded⟩ := decode_encoded encoded (events_begin events)
  have whole := decodePieces_eq {} reads
  rw [cut, decoded] at whole
  obtain ⟨texts, last⟩ := Prod.mk.inj whole
  have drained : drainAll blankLine [] (decodePieces {} reads).1 =
      (events.map (eventText numbers), []) := by
    rw [drainAll_eq blankLine_ne_nil rfl, List.nil_append, texts, split_events,
      List.dropLast_concat]
    simp
  have ended : readEvents numbers { utf8 := {}, bomSeen } [] [] = [] := by
    cases bomSeen with
    | true => rfl
    | false => rfl
  have emitted : (events.map (eventText numbers)).flatMap (emitSseChunk numbers) =
      events.map fun e => (e.event, .json (.obj e.data)) := by
    rw [List.flatMap_map]
    simp only [emitSseChunk_event]
    exact List.map_eq_flatMap.symm
  rw [apiPostSse, if_pos successful]
  dsimp only
  rw [readEvents_eq, drained, last, ended, List.append_nil, emitted]

def sampleData : List (List Nat × Value Int) :=
  [(codes "content", .str (codes "a\n\ndata: é😀"))]

theorem sampleData_distinct : Distinct (.obj sampleData) :=
  ⟨List.nodup_singleton _, trivial, trivial⟩

theorem delta_oneLine : 0x0A ∉ codes "delta" := by decide

theorem delta_trimmed : trim (codes "delta") = codes "delta" := by decide +kernel

def sampleEvent : SseEvent Int where
  event := codes "delta"
  data := sampleData
  oneLine := delta_oneLine
  trimmed := delta_trimmed
  distinct := sampleData_distinct

def sampleBytes : List Nat := utf8 (sse integers sampleEvent.event sampleEvent.data)

theorem event_read_by_bytes :
    apiPostSse integers { status := 200, body := some (sampleBytes.map fun b => [b]) } =
      .ok [(codes "delta", .json (.obj sampleData))] := by
  have encoded : encodeUtf8 ([sampleEvent].flatMap fun e => sse integers e.event e.data) =
      some sampleBytes := by decide +kernel
  have cut : (sampleBytes.map fun b => [b]).flatten = sampleBytes := by
    rw [← List.flatMap_def, List.flatMap_singleton']
  exact stream_round_trip integers [sampleEvent] encoded cut (by decide)

end AgentHive.EventStream
