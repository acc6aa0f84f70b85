import AgentHive.Llm.PolicyValidation
import AgentHive.Store.CharText
import AgentHive.Store.TextStream
import AgentHive.Store.Windows

/-!
The chunks of a text: its paragraphs packed up to a size, each chunk beginning with the
end of the one before, and a paragraph that is too long cut by a moving window.
-/

namespace AgentHive.DocumentProcessing

open Windows
open CharText (Trimmed joinLines rstrip trimmed_strip)

/-- The characters that end a line for `str.splitlines`. -/
def isLineEnd (c : Char) : Bool :=
  let n := c.toNat
  (0x0A ≤ n && n ≤ 0x0D) || (0x1C ≤ n && n ≤ 0x1E) || n == 0x85 || n == 0x2028 || n == 0x2029

/-- The tables of `str`; words and cases are not asked for here. -/
def charTable : CharTable where
  isSpace := PolicyValidation.isSpace
  isWord _ := false
  isLineEnd := isLineEnd
  foldCase := id

def strip : List Char → List Char := CharText.strip charTable

def paragraphMark : List Char := ['\n', '\n']

variable (text : List Char)

def normalizedText : List Char :=
  strip (CharText.joinLines ((CharText.splitlines charTable text).map (CharText.rstrip charTable)))

def paragraphsOf (normalized : List Char) : List (List Char) :=
  ((TextStream.split paragraphMark normalized).map strip).filter fun part => !part.isEmpty

def windowsFrom (paragraph : List Char) (size overlap start : Nat) : List (List Char) :=
  if start < paragraph.length then
    let stop := min paragraph.length (start + size)
    strip (window paragraph start stop) ::
      if stop = paragraph.length then []
      else windowsFrom paragraph size overlap (max (stop - overlap) (start + 1))
  else []
termination_by paragraph.length - start

structure Packing where
  chunks : List (List Char) := []
  current : List Char := []

def Packing.closed (packing : Packing) : List (List Char) :=
  if packing.current = [] then packing.chunks else packing.chunks ++ [strip packing.current]

def appended (front paragraph : List Char) : List Char :=
  if front = [] then paragraph else strip (front ++ paragraphMark ++ paragraph)

def pack (size overlap : Nat) (packing : Packing) (paragraph : List Char) : Packing :=
  if size < paragraph.length then
    { chunks := packing.closed ++ windowsFrom paragraph size overlap 0 }
  else
    let candidate := appended packing.current paragraph
    if candidate.length ≤ size then { packing with current := candidate }
    else
      let tail := if overlap = 0 then []
        else strip (packing.current.drop (packing.current.length - overlap))
      { chunks := packing.chunks ++ [strip packing.current], current := appended tail paragraph }

def safeChunkSize (chunkSize : Int) : Nat := (min (max chunkSize 200) 4000).toNat

def safeOverlap (chunkSize overlap : Int) : Nat :=
  (min (max overlap 0) (safeChunkSize chunkSize / 2 : Nat)).toNat

def chunkText (chunkSize overlap : Int) : List (List Char) :=
  let normalized := normalizedText text
  let paragraphs := paragraphsOf normalized
  let packing := (if paragraphs = [] then [normalized] else paragraphs).foldl
    (pack (safeChunkSize chunkSize) (safeOverlap chunkSize overlap)) {}
  packing.closed.filter fun chunk => !chunk.isEmpty

def isVisible (c : Char) : Bool := !charTable.isSpace c

def visible : List Char := text.filter isVisible

theorem visible_append (more : List Char) :
    visible (text ++ more) = visible text ++ visible more := List.filter_append ..

theorem visible_dropSpaces : visible (text.dropWhile charTable.isSpace) = visible text := by
  induction text with
  | nil => rfl
  | cons c rest ih =>
    by_cases space : charTable.isSpace c = true
    · rw [List.dropWhile_cons_of_pos space, ih, visible, visible,
        List.filter_cons_of_neg (by simp [isVisible, space])]
    · rw [List.dropWhile_cons_of_neg space]

@[simp] theorem visible_rstrip : visible (rstrip charTable text) = visible text := by
  rw [rstrip, visible, List.filter_reverse, ← visible, visible_dropSpaces, visible,
    List.filter_reverse, List.reverse_reverse, visible]

@[simp] theorem visible_strip : visible (strip text) = visible text := by
  rw [strip, CharText.strip, visible_rstrip, visible_dropSpaces]

theorem isSpace_of_isLineEnd {c : Char} (ends : charTable.isLineEnd c = true) :
    charTable.isSpace c = true := by
  simp only [charTable, isLineEnd, PolicyValidation.isSpace, Bool.or_eq_true, Bool.and_eq_true,
    decide_eq_true_eq, beq_iff_eq] at ends ⊢
  omega

theorem visible_joinLines (lines : List (List Char)) :
    visible (joinLines lines) = lines.flatMap visible := by
  induction lines with
  | nil => rfl
  | cons line rest ih =>
    cases rest with
    | nil => simp [joinLines]
    | cons next rest =>
      rw [joinLines, visible_append, List.flatMap_cons, ← ih]
      · rfl
      · exact List.cons_ne_nil _ _

theorem visible_linesFrom (current text : List Char) :
    (CharText.linesFrom charTable current text).flatMap visible =
      visible current.reverse ++ visible text := by
  induction current, text using CharText.linesFrom.induct charTable with
  | case1 => rfl
  | case2 current filled =>
    rw [CharText.linesFrom, if_neg filled, List.flatMap_cons, List.flatMap_nil]
    rfl
  | case3 current rest ih =>
    rw [CharText.linesFrom, List.flatMap_cons, ih]
    rfl
  | case4 current c rest apart ends ih =>
    have hidden : visible (c :: rest) = visible rest :=
      List.filter_cons_of_neg (by simp [isVisible, isSpace_of_isLineEnd ends])
    rw [CharText.linesFrom, if_pos ends, List.flatMap_cons, ih, hidden]
    · rfl
    · exact apart
  | case5 current c rest apart goes ih =>
    rw [CharText.linesFrom, if_neg goes, ih, List.reverse_cons, visible_append,
      List.append_assoc, ← visible_append, List.singleton_append]
    exact apart

theorem visible_normalizedText : visible (normalizedText text) = visible text := by
  rw [normalizedText, visible_strip, visible_joinLines, List.flatMap_map]
  simp only [visible_rstrip]
  exact visible_linesFrom [] text

theorem visible_split : (TextStream.split paragraphMark text).flatMap visible = visible text := by
  have filled : paragraphMark ≠ [] := List.cons_ne_nil _ _
  induction length : text.length using Nat.strongRecOn generalizing text with
  | ind n ih =>
    cases text with
    | nil => rfl
    | cons c rest =>
      by_cases here : paragraphMark <+: c :: rest
      · obtain ⟨later, whole⟩ := here
        have shorter : later.length < n := by
          rw [← length, ← whole, List.length_append]
          exact Nat.lt_add_of_pos_left (by decide)
        rw [← whole, TextStream.split_marker filled, List.flatMap_cons,
          ih _ shorter later rfl, visible_append]
        rfl
      · have shorter : rest.length < n := by
          rw [← length]
          exact Nat.lt_succ_self _
        obtain ⟨part, parts, eq⟩ :=
          List.exists_cons_of_ne_nil (TextStream.split_ne_nil filled rest)
        have one := ih _ shorter rest rfl
        rw [eq, List.flatMap_cons] at one
        rw [TextStream.split_cons here, eq, List.modifyHead_cons, List.flatMap_cons,
          ← List.singleton_append, visible_append, List.append_assoc, one, ← visible_append,
          List.singleton_append]

theorem visible_paragraphsOf (normalized : List Char) :
    (paragraphsOf normalized).flatMap visible = visible normalized := by
  rw [← visible_split normalized, paragraphsOf]
  induction TextStream.split paragraphMark normalized with
  | nil => rfl
  | cons part parts ih =>
    rw [List.map_cons, List.flatMap_cons, ← ih, ← visible_strip part]
    cases strip part <;> rfl

theorem visible_paragraphs (normalized : List Char) :
    (if paragraphsOf normalized = [] then [normalized] else paragraphsOf normalized).flatMap
      visible = visible normalized := by
  by_cases none : paragraphsOf normalized = []
  · rw [if_pos none, List.flatMap_singleton]
  · rw [if_neg none, visible_paragraphsOf]

section

variable {whole paragraph : List Char} {base size latest upto : Nat}
  {pieces : List (List Char)}

theorem visible_window (part : visible paragraph =
      window whole base (base + (visible paragraph).length))
    {start stop : Nat} (le : start ≤ stop) (within : stop ≤ paragraph.length) :
    visible (window paragraph start stop) = window whole
      (base + place isVisible paragraph start) (base + place isVisible paragraph stop) := by
  have inside : place isVisible paragraph stop ≤ (visible paragraph).length := by
    rw [visible, ← place_length]
    exact place_mono within
  calc visible (window paragraph start stop)
      = window (visible paragraph) (place isVisible paragraph start)
          (place isVisible paragraph stop) := filter_window le
    _ = window (window whole base (base + (visible paragraph).length))
          (place isVisible paragraph start) (place isVisible paragraph stop) := by rw [← part]
    _ = _ := window_window (Nat.add_le_add_left inside base)

theorem tiled_windowsFrom (overlap : Nat) (positive : 0 < size)
    (part : visible paragraph = window whole base (base + (visible paragraph).length))
    (start : Nat) (within : start < paragraph.length) (tiled : Tiled whole pieces latest upto)
    (before : latest ≤ base + place isVisible paragraph start)
    (met : base + place isVisible paragraph start ≤ upto) :
    ∃ latest, latest ≤ base + (visible paragraph).length ∧
      Tiled whole (pieces ++ (windowsFrom paragraph size overlap start).map visible) latest
        (base + (visible paragraph).length) := by
  induction start using windowsFrom.induct paragraph size overlap generalizing pieces latest upto
    with
  | case1 start _ stop =>
    rename_i ih
    have stop_le : stop ≤ paragraph.length := Nat.min_le_left _ _
    have start_lt : start < stop :=
      Nat.lt_min.mpr ⟨within, Nat.lt_add_of_pos_right positive⟩
    have chunk : visible (strip (window paragraph start stop)) = window whole
        (base + place isVisible paragraph start) (base + place isVisible paragraph stop) := by
      rw [visible_strip, visible_window part (Nat.le_of_lt start_lt) stop_le]
    have grown := tiled.snoc before met (base + place isVisible paragraph stop)
    rw [windowsFrom, if_pos within, List.map_cons, chunk, List.append_cons]
    by_cases done : stop = paragraph.length
    · have all : place isVisible paragraph stop = (visible paragraph).length := by
        rw [done, place_length, visible]
      rw [if_pos done, List.map_nil, List.append_nil]
      rw [all] at grown ⊢
      refine ⟨_, Nat.add_le_add_left ?_ base, grown⟩
      rw [← all]
      exact place_mono (Nat.le_of_lt start_lt)
    · rw [if_neg done]
      have next_le : max (stop - overlap) (start + 1) ≤ stop :=
        Nat.max_le.mpr ⟨Nat.sub_le _ _, start_lt⟩
      refine ih (Nat.lt_of_le_of_lt next_le (Nat.lt_of_le_of_ne stop_le done)) grown ?_ ?_
      · exact Nat.add_le_add_left
          (place_mono (Nat.le_trans (Nat.le_succ start) (Nat.le_max_right _ _))) base
      · exact Nat.add_le_add_left (place_mono next_le) base
  | case2 start beyond => exact absurd within beyond

end

def Packed (whole : List Char) (packing : Packing) (seen : Nat) : Prop :=
  ∃ latest first upto, latest ≤ first ∧ first ≤ upto ∧ upto ≤ seen ∧
    Tiled whole (packing.chunks.map visible) latest upto ∧
    visible packing.current = window whole first seen

theorem Packed.start (whole : List Char) : Packed whole {} ([] : List Char).length :=
  ⟨0, 0, 0, Nat.le_refl _, Nat.le_refl _, Nat.le_refl _, Tiled.nil, (window_self _ 0).symm⟩

theorem Packed.closed {whole : List Char} {packing : Packing} {seen : Nat}
    (packed : Packed whole packing seen) (within : seen ≤ whole.length) :
    ∃ latest, latest ≤ seen ∧ Tiled whole (packing.closed.map visible) latest seen := by
  obtain ⟨latest, first, upto, le, met, upto_le, tiled, current⟩ := packed
  have first_le := Nat.le_trans met upto_le
  by_cases none : packing.current = []
  · have all : upto = seen := by
      have length := congrArg List.length current
      rw [none, window, List.length_drop, List.length_take, Nat.min_eq_left within] at length
      change 0 = _ at length
      omega
    rw [Packing.closed, if_pos none]
    exact ⟨latest, Nat.le_trans le first_le, all ▸ tiled⟩
  · rw [Packing.closed, if_neg none, List.map_append, List.map_singleton, visible_strip, current]
    exact ⟨first, first_le, tiled.snoc le met seen⟩

theorem visible_appended (front paragraph : List Char) :
    visible (appended front paragraph) = visible front ++ visible paragraph := by
  have mark : visible paragraphMark = [] := by decide
  by_cases none : front = []
  · rw [appended, if_pos none, none]
    rfl
  · rw [appended, if_neg none, visible_strip, visible_append, visible_append, mark,
      List.append_nil]

theorem visible_drop (count : Nat) :
    ∃ dropped, visible (text.drop count) = (visible text).drop dropped := by
  refine ⟨(visible (text.take count)).length, ?_⟩
  have parts : visible text = visible (text.take count) ++ visible (text.drop count) := by
    rw [← visible_append, List.take_append_drop]
  rw [parts, List.drop_left]

theorem Packed.pack {whole : List Char} {packing : Packing} {seen size overlap : Nat}
    {paragraph : List Char} (packed : Packed whole packing seen) (positive : 0 < size)
    (within : seen ≤ whole.length)
    (part : visible paragraph = window whole seen (seen + (visible paragraph).length)) :
    Packed whole (pack size overlap packing paragraph) (seen + (visible paragraph).length) := by
  have later : seen ≤ seen + (visible paragraph).length := Nat.le_add_right _ _
  obtain ⟨latest, first, upto, le, met, upto_le, tiled, current⟩ := id packed
  have first_le := Nat.le_trans met upto_le
  rw [DocumentProcessing.pack]
  by_cases long : size < paragraph.length
  · obtain ⟨before, before_le, covered⟩ := packed.closed within
    obtain ⟨latest, latest_le, all⟩ := tiled_windowsFrom overlap positive part 0
      (Nat.lt_of_le_of_lt (Nat.zero_le _) long) covered before_le (Nat.le_refl _)
    rw [if_pos long]
    refine ⟨latest, _, _, latest_le, Nat.le_refl _, Nat.le_refl _, ?_, (window_self _ _).symm⟩
    rw [List.map_append]
    exact all
  · rw [if_neg long]
    by_cases fits : (appended packing.current paragraph).length ≤ size
    · simp only [if_pos fits]
      refine ⟨latest, first, upto, le, met, Nat.le_trans upto_le later, tiled, ?_⟩
      rw [visible_appended, current]
      conv_lhs => rw [part]
      exact window_append first_le later
    · simp only [if_neg fits]
      let tail := if overlap = 0 then []
        else strip (packing.current.drop (packing.current.length - overlap))
      have suffix : ∃ from_, first ≤ from_ ∧ from_ ≤ seen ∧
          visible tail = window whole from_ seen := by
        by_cases none : overlap = 0
        · exact ⟨seen, first_le, Nat.le_refl _, by simp [tail, none, visible, window_self]⟩
        · obtain ⟨count, eq⟩ := visible_drop packing.current
            (packing.current.length - overlap)
          rw [current, drop_window] at eq
          refine ⟨min (first + count) seen, ?_, Nat.min_le_right _ _, ?_⟩
          · exact Nat.le_min.mpr ⟨Nat.le_add_right _ _, first_le⟩
          · simp only [tail, if_neg none, visible_strip, eq]
            exact window_min
      obtain ⟨from_, first_le_from, from_le, shown⟩ := suffix
      refine ⟨first, from_, seen, first_le_from, from_le, later, ?_, ?_⟩
      · rw [List.map_append, List.map_singleton, visible_strip, current]
        exact tiled.snoc le met seen
      · rw [visible_appended, shown]
        conv_lhs => rw [part]
        exact window_append from_le later

/-- The loop over paragraphs that stand one after another in the text. -/
theorem Packed.foldl {size : Nat} (overlap : Nat) (positive : 0 < size)
    {paragraphs : List (List Char)} {packing : Packing} {before : List Char} (packed : Packed
      (before ++ paragraphs.flatMap visible) packing before.length) :
    Packed (before ++ paragraphs.flatMap visible)
      (paragraphs.foldl (DocumentProcessing.pack size overlap) packing)
      (before ++ paragraphs.flatMap visible).length := by
  induction paragraphs generalizing packing before with
  | nil =>
    rw [List.flatMap_nil, List.append_nil] at packed ⊢
    exact packed
  | cons paragraph rest ih =>
    have front : before ++ (paragraph :: rest).flatMap visible =
        (before ++ visible paragraph) ++ rest.flatMap visible := by
      rw [List.flatMap_cons, List.append_assoc]
    rw [front] at packed ⊢
    rw [List.foldl_cons]
    refine ih ?_
    rw [List.length_append]
    refine packed.pack positive ?_ ?_
    · rw [List.append_assoc, List.length_append]
      exact Nat.le_add_right _ _
    · rw [window, ← List.length_append, List.take_left, List.drop_left]

/-- Chunking loses nothing: apart from white space the chunks are windows of the
normalized text, which begin in order and cover all of it. -/
theorem chunkText_covers (text : List Char) (chunkSize overlap : Int) :
    visible (normalizedText text) = visible text ∧
      CoversInOrder (visible (normalizedText text))
        ((chunkText text chunkSize overlap).map visible) := by
  refine ⟨visible_normalizedText text, ?_⟩
  have positive : 0 < safeChunkSize chunkSize := by
    rw [safeChunkSize]
    omega
  let normalized := normalizedText text
  let paragraphs := if paragraphsOf normalized = [] then [normalized] else paragraphsOf normalized
  have whole : paragraphs.flatMap visible = visible normalized := visible_paragraphs normalized
  have packed := Packed.foldl (safeOverlap chunkSize overlap) positive
    (Packed.start ([] ++ paragraphs.flatMap visible))
  rw [List.nil_append, whole] at packed
  obtain ⟨latest, _, tiled⟩ := packed.closed (Nat.le_refl _)
  refine tiled.covers ?_
  intro chunk blank
  cases chunk with
  | nil => rfl
  | cons c rest => cases blank

def overlapOf (overlap : Nat) (current : List Char) : List Char :=
  if overlap = 0 then [] else strip (current.drop (current.length - overlap))

def FitsAnew (size overlap : Nat) (packing : Packing) (paragraph : List Char) : Prop :=
  paragraph.length ≤ size → size < (appended packing.current paragraph).length →
    (appended (overlapOf overlap packing.current) paragraph).length ≤ size

def AllFit (size overlap : Nat) (packing : Packing) (paragraphs : List (List Char)) : Prop :=
  ∀ before paragraph after, paragraphs = before ++ paragraph :: after →
    FitsAnew size overlap (before.foldl (pack size overlap) packing) paragraph

def Bounded (size : Nat) (chunks : List (List Char)) : Prop := ∀ chunk ∈ chunks, chunk.length ≤ size

section

variable {size overlap : Nat} {packing : Packing} {front paragraph : List Char}
  {chunks : List (List Char)}

theorem bounded_append {more : List (List Char)} :
    Bounded size (chunks ++ more) ↔ Bounded size chunks ∧ Bounded size more :=
  List.forall_mem_append

theorem bounded_singleton {chunk : List Char} : Bounded size [chunk] ↔ chunk.length ≤ size :=
  List.forall_mem_singleton

theorem length_strip_le (text : List Char) : (strip text).length ≤ text.length := by
  rw [strip, CharText.strip, rstrip, List.length_reverse]
  refine Nat.le_trans (List.dropWhile_sublist _).length_le ?_
  rw [List.length_reverse]
  exact (List.dropWhile_sublist _).length_le

theorem bounded_windowsFrom (paragraph : List Char) (start : Nat) :
    Bounded size (windowsFrom paragraph size overlap start) := by
  induction start using windowsFrom.induct paragraph size overlap with
  | case1 start within stop ih =>
    rw [windowsFrom, if_pos within]
    refine List.forall_mem_cons.mpr ⟨?_, ?_⟩
    · refine Nat.le_trans (length_strip_le _) ?_
      rw [window, List.length_drop, List.length_take]
      omega
    · by_cases done : stop = paragraph.length
      · rw [if_pos done]
        exact fun _ mem => (List.not_mem_nil mem).elim
      · rw [if_neg done]
        exact ih
  | case2 start beyond =>
    rw [windowsFrom, if_neg beyond]
    exact fun _ mem => (List.not_mem_nil mem).elim

theorem trimmed_appended (front : List Char) (last : Trimmed charTable paragraph) :
    Trimmed charTable (appended front paragraph) := by
  rw [appended]
  split
  · exact last
  · exact trimmed_strip _

theorem length_appended (first : Trimmed charTable front)
    (last : Trimmed charTable paragraph) (filled : paragraph ≠ []) :
    front.length + paragraph.length ≤ (appended front paragraph).length := by
  rw [appended]
  split
  · rename_i none
    rw [none, List.length_nil, Nat.zero_add]
  · rename_i begins
    rw [strip, (first.append last begins filled _).strip_eq, List.length_append,
      List.length_append]
    omega

theorem bounded_closed (trimmed : Trimmed charTable packing.current) :
    Bounded size packing.closed ↔
      Bounded size packing.chunks ∧ packing.current.length ≤ size := by
  rw [Packing.closed]
  split
  · rename_i none
    simp [none]
  · rw [bounded_append, bounded_singleton, strip, trimmed.strip_eq]

theorem trimmed_pack (trimmed : Trimmed charTable paragraph) :
    Trimmed charTable (pack size overlap packing paragraph).current := by
  rw [pack]
  split
  · exact CharText.trimmed_nil
  · simp only
    split
    · exact trimmed_appended _ trimmed
    · exact trimmed_appended _ trimmed

theorem bounded_pack (packed : Trimmed charTable packing.current)
    (trimmed : Trimmed charTable paragraph) (filled : paragraph ≠ []) :
    Bounded size (pack size overlap packing paragraph).closed ↔
      Bounded size packing.closed ∧ FitsAnew size overlap packing paragraph := by
  rw [bounded_closed (trimmed_pack trimmed), pack, FitsAnew]
  by_cases long : size < paragraph.length
  · have windows : Bounded size (windowsFrom paragraph size overlap 0) :=
      bounded_windowsFrom paragraph 0
    simp only [if_pos long, bounded_append, List.length_nil]
    have short : ¬ paragraph.length ≤ size := Nat.not_le.mpr long
    simp [windows, short]
  · rw [if_neg long]
    have short : paragraph.length ≤ size := Nat.not_lt.mp long
    have grows := length_appended packed trimmed filled
    rw [bounded_closed packed]
    by_cases fits : (appended packing.current paragraph).length ≤ size
    · have within : packing.current.length ≤ size := by omega
      simp [fits, within, Nat.not_lt.mpr fits]
    · have strip_eq : strip packing.current = packing.current := packed.strip_eq
      simp only [if_neg fits, bounded_append, bounded_singleton, strip_eq]
      simp only [short, Nat.not_le.mp fits, forall_const]
      exact Iff.rfl

theorem bounded_foldl {paragraphs : List (List Char)}
    (packed : Trimmed charTable packing.current) (parts : ∀ paragraph ∈ paragraphs,
      Trimmed charTable paragraph ∧ paragraph ≠ []) :
    Bounded size (paragraphs.foldl (pack size overlap) packing).closed ↔
      Bounded size packing.closed ∧ AllFit size overlap packing paragraphs := by
  induction paragraphs generalizing packing with
  | nil => simp [AllFit]
  | cons paragraph rest ih =>
    obtain ⟨trimmed, filled⟩ := parts paragraph List.mem_cons_self
    rw [List.foldl_cons, ih (trimmed_pack trimmed)
      (fun other mem => parts other (List.mem_cons_of_mem _ mem)),
      bounded_pack packed trimmed filled, and_assoc]
    refine and_congr_right fun _ => ?_
    constructor
    · intro ⟨now, later⟩ before other after eq
      cases before with
      | nil =>
        cases eq
        exact now
      | cons first before =>
        cases eq
        exact later before other after rfl
    · intro all
      exact ⟨all [] paragraph rest rfl, fun before other after eq =>
        all (paragraph :: before) other after (congrArg _ eq)⟩

end

theorem safeChunkSize_eq (chunkSize : Int) :
    (safeChunkSize chunkSize : Int) = min (max chunkSize 200) 4000 := by
  rw [safeChunkSize]
  omega

theorem bounded_filled {size : Nat} {chunks : List (List Char)} :
    Bounded size (chunks.filter fun chunk => !chunk.isEmpty) ↔ Bounded size chunks := by
  constructor
  · intro bounded chunk mem
    cases chunk with
    | nil => exact Nat.zero_le size
    | cons c rest => exact bounded (c :: rest) (List.mem_filter.mpr ⟨mem, rfl⟩)
  · exact fun bounded chunk mem => bounded chunk (List.mem_filter.mp mem).1

theorem normalized_of_no_paragraphs {text : List Char}
    (none : paragraphsOf (normalizedText text) = []) : normalizedText text = [] := by
  have hidden := visible_paragraphsOf (normalizedText text)
  have trimmed : Trimmed charTable (normalizedText text) := trimmed_strip _
  rw [none, List.flatMap_nil] at hidden
  cases whole : normalizedText text with
  | nil => rfl
  | cons c rest =>
    rw [whole] at hidden trimmed
    rw [visible, List.filter_cons_of_pos (by simp [isVisible, trimmed.1 c rfl])] at hidden
    cases hidden

theorem paragraphs_trimmed {normalized paragraph : List Char}
    (mem : paragraph ∈ paragraphsOf normalized) :
    Trimmed charTable paragraph ∧ paragraph ≠ [] := by
  obtain ⟨listed, filled⟩ := List.mem_filter.mp mem
  obtain ⟨part, _, rfl⟩ := List.mem_map.mp listed
  refine ⟨trimmed_strip part, ?_⟩
  intro none
  rw [none] at filled
  cases filled

end AgentHive.DocumentProcessing
