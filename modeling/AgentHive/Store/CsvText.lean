import Mathlib.Data.List.Forall2

/-!
Comma-separated text: the reader of the `csv` module over lines that keep their
ends, its writer, and the fields that are read as they were written.

A line ends after a newline, a carriage return, or the two together, and with the
text; the reader hears of each end, inside quotes as well.
-/

namespace CsvText

abbrev Text := List Char

inductive State
  | startRecord | startField | inField | inQuotedField | quoteInQuotedField | eatCrnl
deriving DecidableEq

structure Reader where
  state : State := .startRecord
  field : Text := []
  fields : List Text := []
  rows : List (List Text) := []

def isNewline (c : Char) : Bool := c == '\n' || c == '\r'

namespace Reader

def saveField (r : Reader) (next : State) : Reader :=
  { r with state := next, field := [], fields := r.fields ++ [r.field] }

def addChar (r : Reader) (c : Char) (next : State) : Reader :=
  { r with state := next, field := r.field ++ [c] }

def unquoted (r : Reader) (c : Char) : Reader :=
  if isNewline c then r.saveField .eatCrnl
  else if c = ',' then r.saveField .startField
  else r.addChar c .inField

/-- `parse_process_char`; lines end where they do, so only newlines are eaten. -/
def process (r : Reader) (c : Char) : Reader :=
  match r.state with
  | .startRecord =>
      if isNewline c then { r with state := .eatCrnl }
      else if c = '"' then { r with state := .inQuotedField }
      else r.unquoted c
  | .startField => if c = '"' then { r with state := .inQuotedField } else r.unquoted c
  | .inField => r.unquoted c
  | .inQuotedField =>
      if c = '"' then { r with state := .quoteInQuotedField } else r.addChar c .inQuotedField
  | .quoteInQuotedField => if c = '"' then r.addChar c .inQuotedField else r.unquoted c
  | .eatCrnl => r

def returnRow (r : Reader) : Reader :=
  { rows := r.rows ++ [r.fields] }

def endLine (r : Reader) : Reader :=
  match r.state with
  | .inQuotedField => r
  | .startRecord | .eatCrnl => r.returnRow
  | _ => (r.saveField .startRecord).returnRow

def endsLine (c : Char) (rest : Text) : Bool :=
  c == '\n' || c == '\r' && rest.head? != some '\n' || rest.isEmpty

def feed (r : Reader) : Text → Reader
  | [] => r
  | c :: rest =>
      let next := r.process c
      feed (if endsLine c rest then next.endLine else next) rest

def finish (r : Reader) : List (List Text) :=
  if r.state = .inQuotedField then (r.saveField .startRecord).returnRow.rows else r.rows

end Reader

def csvReader (text : Text) : List (List Text) := (Reader.feed {} text).finish

def quoted (field : Text) : Text :=
  '"' :: field.flatMap (fun c => if c = '"' then ['"', '"'] else [c]) ++ ['"']

/-- A field as `csv.writer` writes it, one of several in its row. -/
def writeField (field : Text) : Text :=
  if field.any [',', '"', '\r', '\n'].contains then quoted field else field

def writeRow (row : List Text) : Text :=
  [','].intercalate (row.map writeField) ++ ['\r', '\n']

def Separates (c : Char) : Prop := c = ',' ∨ isNewline c = true
deriving Decidable

/-- `written` is read as `field` wherever a separator follows. -/
def ReadAs (written field : Text) : Prop :=
  ∀ fields rows c rest, Separates c →
    Reader.feed ⟨.startField, [], fields, rows⟩ (written ++ c :: rest) =
      Reader.feed ⟨.inField, field, fields, rows⟩ (c :: rest)

/-- What can be written without quotes. -/
def Plain (field : Text) : Prop := (∀ c ∈ field, ¬ Separates c) ∧ field.head? ≠ some '"'

-- Characters are finitely many, which is not how the first part is to be decided.
instance (field : Text) : Decidable (Plain field) :=
  @instDecidableAnd _ _ (List.decidableBAll (¬ Separates ·) field) inferInstance

variable {r : Reader} {c d : Char} {field written rest : Text} {fields : List Text}
  {rows : List (List Text)}

open Reader

theorem apart_quote (separates : Separates c) : c ≠ '"' := by
  rintro rfl
  simp [Separates, isNewline] at separates

theorem feed_cons_of_plain (plain : isNewline c = false) (more : rest ≠ []) :
    r.feed (c :: rest) = (r.process c).feed rest := by
  simp only [isNewline, Bool.or_eq_false_iff] at plain
  simp [feed, endsLine, plain, more]

theorem feed_inField (inside : ∀ c ∈ field, ¬ Separates c) (d : Char) (before : Text) :
    Reader.feed ⟨.inField, before, fields, rows⟩ (field ++ d :: rest) =
      Reader.feed ⟨.inField, before ++ field, fields, rows⟩ (d :: rest) := by
  induction field generalizing before with
  | nil => simp
  | cons c field ih =>
    obtain ⟨first, others⟩ := List.forall_mem_cons.mp inside
    have step : Reader.process ⟨.inField, before, fields, rows⟩ c =
        ⟨.inField, before ++ [c], fields, rows⟩ := by
      simp_all [Separates, process, unquoted, addChar]
    have plain : isNewline c = false := by simp_all [Separates]
    rw [List.cons_append, feed_cons_of_plain plain (by simp), step, ih others]
    simp

theorem readAs_plain (plain : Plain field) : ReadAs field field := by
  intro fields rows d rest separates
  cases field with
  | nil => simp [feed, process, unquoted, saveField, addChar, apart_quote separates]
  | cons c field =>
    obtain ⟨inside, unquotes⟩ := plain
    obtain ⟨first, others⟩ := List.forall_mem_cons.mp inside
    have step : Reader.process ⟨.startField, [], fields, rows⟩ c =
        ⟨.inField, [c], fields, rows⟩ := by
      simp_all [Separates, process, unquoted, addChar]
    have plain : isNewline c = false := by simp_all [Separates]
    rw [List.cons_append, feed_cons_of_plain plain (by simp), step, feed_inField others]
    rfl

theorem feed_inQuotedField (separates : Separates d) (before : Text) :
    Reader.feed ⟨.inQuotedField, before, fields, rows⟩
        (field.flatMap (fun c => if c = '"' then ['"', '"'] else [c]) ++ '"' :: d :: rest) =
      Reader.feed ⟨.inField, before ++ field, fields, rows⟩ (d :: rest) := by
  induction field generalizing before with
  | nil =>
    simp [feed, process, endsLine, unquoted, saveField, addChar, apart_quote separates]
  | cons c field ih =>
    rw [List.flatMap_cons, List.append_assoc]
    by_cases quote : c = '"'
    · subst quote
      have step := ih (before ++ ['"'])
      simp_all [feed, process, endsLine, addChar]
    · have step := ih (before ++ [c])
      simp_all [feed, process, endLine, addChar]

theorem readAs_quoted (field : Text) : ReadAs (quoted field) field := by
  intro fields rows d rest separates
  have inside := @feed_inQuotedField d field rest fields rows separates []
  rw [List.nil_append] at inside
  rw [← inside, quoted]
  simp [feed, process, endsLine]

theorem readAs_writeField (field : Text) : ReadAs (writeField field) field := by
  rw [writeField]
  split
  · exact readAs_quoted field
  · next plain =>
    refine readAs_plain ⟨fun c mem => ?_, fun first => ?_⟩
    · simp_all [Separates, isNewline]
    · have mem := List.mem_of_mem_head? first
      exact plain (List.any_eq_true.mpr ⟨_, mem, by decide⟩)

/-- A row with its terminator is read as its fields. -/
theorem feed_row {terminator : Text} (ends : terminator = ['\n'] ∨ terminator = ['\r', '\n'])
    {others : List Text} (first : ReadAs written field) (all : List.Forall₂ ReadAs others fields)
    (before : List Text) :
    Reader.feed ⟨.startField, [], before, rows⟩
        ([','].intercalate (written :: others) ++ (terminator ++ rest)) =
      Reader.feed { rows := rows ++ [before ++ field :: fields] } rest := by
  induction all generalizing written field before with
  | nil =>
    rcases ends with rfl | rfl
    · have line := first before rows '\n' rest (by simp [Separates, isNewline])
      simpa [feed, process, unquoted, isNewline, endsLine, saveField, endLine, returnRow] using line
    · have line := first before rows '\r' ('\n' :: rest) (by simp [Separates, isNewline])
      simpa [feed, process, unquoted, isNewline, endsLine, saveField, endLine, returnRow] using line
  | @cons second f others fields read all ih =>
    have more : [','].intercalate (second :: others) ++ (terminator ++ rest) ≠ [] := by
      rcases ends with rfl | rfl <;> simp
    rw [List.intercalate_cons_cons, List.append_assoc, List.append_assoc, List.singleton_append,
      first before rows ',' _ (.inl rfl), feed_cons_of_plain (by decide) more]
    refine (ih read (before ++ [field])).trans ?_
    rw [List.append_assoc, List.singleton_append]

theorem feed_startRecord (plain : isNewline c = false) :
    Reader.feed { rows := rows } (c :: rest) =
      Reader.feed ⟨.startField, [], [], rows⟩ (c :: rest) := by
  simp [feed, process, plain, unquoted, saveField, addChar]

theorem feed_writeRow (first second : Text) (others : List Text) :
    Reader.feed { rows := rows } (writeRow (first :: second :: others) ++ rest) =
      Reader.feed { rows := rows ++ [first :: second :: others] } rest := by
  have all : List.Forall₂ ReadAs ((second :: others).map writeField) (second :: others) := by
    rw [List.forall₂_map_left_iff]
    exact List.forall₂_same.mpr fun field _ => readAs_writeField field
  have line := @feed_row _ _ rest _ rows _ (.inr rfl) _ (readAs_writeField first) all []
  have start : ∃ c more, isNewline c = false ∧
      writeRow (first :: second :: others) ++ rest = c :: more := by
    rw [writeRow, List.map_cons, List.map_cons, List.intercalate_cons_cons, writeField]
    split
    · exact ⟨'"', _, by decide, rfl⟩
    · next plain =>
      cases first with
      | nil => exact ⟨',', _, by decide, rfl⟩
      | cons c more => exact ⟨c, _, by simp_all [isNewline], rfl⟩
  obtain ⟨c, more, plain, eq⟩ := start
  rw [eq, feed_startRecord plain, ← eq, writeRow, List.append_assoc]
  exact line

def Continues (r : Reader) (row : List Text) : Prop :=
  ∃ field, r.field <+: field ∧ r.fields ++ [field] <+: row

/-- What the row that is being read comes to. -/
def Fits (r : Reader) (row : List Text) : Prop :=
  match r.state with
  | .startRecord => True
  | .eatCrnl => row = r.fields
  | _ => Continues r row

theorem continues_of_addChar {next : State} {row : List Text}
    (continues : Continues (r.addChar c next) row) : Continues r row := by
  obtain ⟨field, begins, whole⟩ := continues
  exact ⟨field, (List.prefix_append _ _).trans begins, whole⟩

theorem prefix_of_saveField {next : State} {row : List Text} (fits : Fits (r.saveField next) row)
    (further : next ≠ .startRecord) : r.fields ++ [r.field] <+: row := by
  cases next with
  | startRecord => exact (further rfl).elim
  | eatCrnl => exact ⟨[], by simpa [saveField] using fits.symm⟩
  | _ =>
    obtain ⟨field, _, begins⟩ := fits
    exact (List.prefix_append _ _).trans begins

theorem prefix_of_unquoted {row : List Text} (separates : Separates c)
    (fits : Fits (r.unquoted c) row) : r.fields ++ [r.field] <+: row := by
  unfold unquoted at fits
  split at fits
  · exact prefix_of_saveField fits (by decide)
  · next plain =>
    rw [if_pos (separates.resolve_right plain)] at fits
    exact prefix_of_saveField fits (by decide)

theorem continues_of_unquoted {row : List Text} (fits : Fits (r.unquoted c) row) :
    Continues r row := by
  by_cases separates : Separates c
  · exact ⟨r.field, List.prefix_rfl, prefix_of_unquoted separates fits⟩
  · obtain ⟨comma, plain⟩ := not_or.mp separates
    rw [unquoted, if_neg plain, if_neg comma] at fits
    exact continues_of_addChar fits

theorem fits_of_process {row : List Text} (fits : Fits (r.process c) row) : Fits r row := by
  obtain ⟨state, field, fields, rows⟩ := r
  cases state with
  | startRecord => trivial
  | eatCrnl => exact fits
  | inField => exact continues_of_unquoted fits
  | startField =>
    simp only [process] at fits
    split at fits
    · exact fits
    · exact continues_of_unquoted fits
  | inQuotedField =>
    simp only [process] at fits
    split at fits
    · exact fits
    · exact continues_of_addChar fits
  | quoteInQuotedField =>
    simp only [process] at fits
    split at fits
    · exact continues_of_addChar fits
    · exact continues_of_unquoted fits

theorem endLine_cases (r : Reader) :
    r.endLine = r ∨ ∃ row, r.endLine = { rows := r.rows ++ [row] } ∧ Fits r row := by
  obtain ⟨state, field, fields, rows⟩ := r
  cases state with
  | inQuotedField => exact .inl rfl
  | startRecord => exact .inr ⟨fields, rfl, trivial⟩
  | eatCrnl => exact .inr ⟨fields, rfl, rfl⟩
  | _ => exact .inr ⟨fields ++ [field], rfl, field, List.prefix_rfl, List.prefix_rfl⟩

theorem rows_process (r : Reader) (c : Char) : (r.process c).rows = r.rows := by
  unfold process unquoted saveField addChar
  repeat' split
  all_goals rfl

/-- The rows come to what a reader has: those it returned and, where there are more, one
that fits what it has read of it. -/
def Comes (r : Reader) (all : List (List Text)) : Prop :=
  all = r.rows ∨ ∃ row more, all = r.rows ++ row :: more ∧ Fits r row

theorem comes_of_endLine {all : List (List Text)} (comes : Comes r.endLine all) : Comes r all := by
  rcases endLine_cases r with same | ⟨row, ends, fits⟩
  · rwa [same] at comes
  rw [ends] at comes
  rcases comes with rfl | ⟨next, more, rfl, _⟩
  · exact .inr ⟨row, [], rfl, fits⟩
  · exact .inr ⟨row, next :: more, by simp, fits⟩

theorem comes_of_process {all : List (List Text)} (comes : Comes (r.process c) all) :
    Comes r all := by
  rw [Comes, rows_process] at comes
  exact comes.imp_right fun ⟨row, more, eq, fits⟩ => ⟨row, more, eq, fits_of_process fits⟩

theorem comes_feed (r : Reader) (text : Text) : Comes r (r.feed text).finish := by
  induction text generalizing r with
  | nil =>
    by_cases opened : r.state = .inQuotedField
    · refine .inr ⟨r.fields ++ [r.field], [], ?_, ?_⟩
      · simp [feed, finish, opened, saveField, returnRow]
      · simpa [Fits, opened] using ⟨r.field, List.prefix_rfl, List.prefix_rfl⟩
    · exact .inl (if_neg opened)
  | cons c rest ih =>
    rw [feed]
    split
    · exact comes_of_process (comes_of_endLine (ih _))
    · exact comes_of_process (ih _)

theorem begins_ne {value : Text} (short : field.length < value.length) :
    ¬ fields ++ [field] <+: fields ++ [value] := by
  intro begins
  have same := List.head_eq_of_cons_eq
    (((List.prefix_append_right_inj _).mp begins).eq_of_length rfl)
  exact absurd (congrArg List.length same) (Nat.ne_of_lt short)

theorem ne_of_comes {value : Text} {all : List (List Text)} {more : List (List Text)}
    (comes : Comes r all) (other : ¬ Fits r (fields ++ [value])) :
    all ≠ r.rows ++ (fields ++ [value]) :: more := by
  rintro rfl
  rcases comes with none | ⟨row, later, eq, fits⟩
  · simp at none
  · obtain ⟨rfl, _⟩ := List.cons.inj (List.append_cancel_left eq)
    exact other fits

/-- A separator ends a field, which is none that is longer. -/
theorem saved_ne {state : State} {value : Text} (separates : Separates c)
    (begun : state = .inField ∨ state = .quoteInQuotedField)
    (short : field.length < value.length) (more : List (List Text)) :
    (Reader.feed ⟨state, field, fields, rows⟩ (c :: rest)).finish ≠
      rows ++ (fields ++ [value]) :: more := by
  have saves : Reader.process ⟨state, field, fields, rows⟩ c =
      Reader.unquoted ⟨state, field, fields, rows⟩ c := by
    rcases begun with rfl | rfl
    · rfl
    · exact if_neg (apart_quote separates)
  have comes : Comes (Reader.process ⟨state, field, fields, rows⟩ c)
      (Reader.feed ⟨state, field, fields, rows⟩ (c :: rest)).finish := by
    rw [feed]
    split
    · exact comes_of_endLine (comes_feed _ _)
    · exact comes_feed _ _
  have ne := @ne_of_comes _ fields value _ more comes fun fits =>
    begins_ne short (prefix_of_unquoted separates (saves ▸ fits))
  rwa [rows_process] at ne

/-- Without quotes, a value that has a separator is not read back. -/
theorem raw_ne {value : Text} (raw : value.head? ≠ some '"') (separated : ∃ c ∈ value, Separates c)
    (more : List (List Text)) :
    (Reader.feed ⟨.startField, [], fields, rows⟩ (value ++ rest)).finish ≠
      rows ++ (fields ++ [value]) :: more := by
  have found : (value.find? fun c => c == ',' || isNewline c).isSome := by
    simpa [Separates] using separated
  obtain ⟨c, eq⟩ := Option.isSome_iff_exists.mp found
  obtain ⟨separates, before, after, rfl, plain⟩ := List.find?_eq_some_iff_append.mp eq
  replace separates : Separates c := by simpa [Separates] using separates
  have read : ReadAs before before := by
    refine readAs_plain ⟨fun d mem => by simpa [Separates] using plain d mem, fun first => ?_⟩
    rw [List.head?_append, first] at raw
    exact raw rfl
  rw [List.append_assoc, List.cons_append, read fields rows c _ separates]
  exact saved_ne separates (.inl rfl) (by simp) more

theorem feed_swallowed {swallowed : Text} (quotes : '"' ∉ swallowed) (field : Text) :
    Reader.feed ⟨.inQuotedField, field, fields, rows⟩ (swallowed ++ rest) =
      Reader.feed ⟨.inQuotedField, field ++ swallowed, fields, rows⟩ rest := by
  induction swallowed generalizing field with
  | nil => simp
  | cons c swallowed ih =>
    obtain ⟨other, others⟩ := not_or.mp (mt List.mem_cons.mpr quotes)
    have step := ih others (field ++ [c])
    simp_all [feed, process, endLine, addChar, Ne.symm other]

def Inside (state : State) : Prop :=
  state = .inField ∨ state = .inQuotedField ∨ state = .quoteInQuotedField

theorem feed_inside {state : State} (inside : Inside state)
    (goes : state = .inQuotedField ∨ ¬ Separates c) (more : rest ≠ []) :
    ∃ state' field', Inside state' ∧ field'.length ≤ field.length + 1 ∧
      Reader.feed ⟨state, field, fields, rows⟩ (c :: rest) =
        Reader.feed ⟨state', field', fields, rows⟩ rest := by
  rcases inside with rfl | rfl | rfl
  · have apart := goes.resolve_left (by decide)
    refine ⟨.inField, field ++ [c], .inl rfl, by simp, ?_⟩
    rw [feed_cons_of_plain (by simp_all [Separates]) more]
    simp_all [Separates, process, unquoted, addChar]
  · by_cases quote : c = '"'
    · refine ⟨.quoteInQuotedField, field, .inr (.inr rfl), by simp, ?_⟩
      rw [feed_cons_of_plain (by simp [quote, isNewline]) more]
      simp [process, quote]
    · refine ⟨.inQuotedField, field ++ [c], .inr (.inl rfl), by simp, ?_⟩
      simp [feed, process, quote, addChar, endLine]
  · have apart := goes.resolve_left (by decide)
    rw [feed_cons_of_plain (by simp_all [Separates]) more]
    by_cases quote : c = '"'
    · refine ⟨.inQuotedField, field ++ [c], .inr (.inl rfl), by simp, ?_⟩
      simp [process, quote, addChar]
    · refine ⟨.inField, field ++ [c], .inl rfl, by simp, ?_⟩
      simp_all [Separates, process, unquoted, addChar]

/-- An opened quote does not give the value back either, where more text without a quote
follows than the value has. -/
theorem opened_quote_ne {value swallowed text : Text} {state : State} (inside : Inside state)
    (short : field.length + text.length < value.length) (long : value.length ≤ swallowed.length)
    (quotes : '"' ∉ swallowed) (more : List (List Text)) :
    (Reader.feed ⟨state, field, fields, rows⟩ (text ++ '\n' :: (swallowed ++ rest))).finish ≠
      rows ++ (fields ++ [value]) :: more := by
  induction text generalizing state field with
  | nil =>
    by_cases begun : state = .inField ∨ state = .quoteInQuotedField
    · exact saved_ne (.inr rfl) begun short more
    · obtain rfl : state = .inQuotedField := by simp_all [Inside]
      rw [List.nil_append, ← List.cons_append, feed_swallowed (by simpa using quotes)]
      refine ne_of_comes (comes_feed _ _) fun ⟨whole, begins, same⟩ => ?_
      have eq := List.head_eq_of_cons_eq
        (((List.prefix_append_right_inj _).mp same).eq_of_length rfl)
      have least := begins.length_le
      rw [eq, List.length_append, List.length_cons] at least
      omega
  | cons c text ih =>
    by_cases goes : state = .inQuotedField ∨ ¬ Separates c
    · obtain ⟨state', field', inside', grown, step⟩ := feed_inside inside goes
        (by simp : text ++ '\n' :: (swallowed ++ rest) ≠ [])
      rw [List.cons_append, step]
      exact ih inside' (by simp at short; omega)
    · obtain ⟨unquotes, separates⟩ := not_or.mp goes
      exact saved_ne (not_not.mp separates) (by simp_all [Inside]) (by simp at short; omega) more

end CsvText
