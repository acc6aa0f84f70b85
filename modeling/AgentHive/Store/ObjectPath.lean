import Mathlib.Data.List.Infix

/-!
Keys of stored objects, read as paths: the parts between separators, what stands below a
key, and namespaces of the form `base/first/x/second/y/`.
-/

namespace ObjectPath

variable {α : Type} [DecidableEq α] (sep : α)

theorem parts_below (folder rest : List α) :
    (folder ++ [sep] ++ rest).splitOn sep = folder.splitOn sep ++ rest.splitOn sep := by
  rw [List.append_assoc, List.singleton_append, List.splitOn_append_cons_self]

theorem join_parts (path : List α) : [sep].intercalate (path.splitOn sep) = path :=
  List.intercalate_splitOn sep

theorem parts_inj {path other : List α} (same : path.splitOn sep = other.splitOn sep) :
    path = other := by
  rw [← join_parts sep path, same, join_parts]

omit [DecidableEq α] in
theorem intercalate_append (front rest : List (List α)) (some : front ≠ []) (more : rest ≠ []) :
    [sep].intercalate (front ++ rest) =
      [sep].intercalate front ++ [sep] ++ [sep].intercalate rest := by
  induction front with
  | nil => exact absurd rfl some
  | cons part front ih =>
    cases front with
    | nil => rw [List.singleton_append, List.intercalate_cons_of_ne_nil more,
        List.intercalate_singleton, List.append_assoc]
    | cons next front =>
      have later := ih (List.cons_ne_nil _ _)
      have nonempty : next :: front ++ rest ≠ [] := List.cons_ne_nil _ _
      rw [List.cons_append, List.intercalate_cons_of_ne_nil nonempty, later,
        List.intercalate_cons_of_ne_nil (List.cons_ne_nil next front)]
      simp only [List.append_assoc]

theorem prefix_of_parts {folder path : List α} (first : folder.splitOn sep <+: path.splitOn sep) :
    folder ++ [sep] <+: path ++ [sep] := by
  obtain ⟨rest, eq⟩ := first
  by_cases last : rest = []
  · rw [last, List.append_nil] at eq
    rw [parts_inj sep eq]
  · have joined : path = folder ++ [sep] ++ [sep].intercalate rest := by
      rw [← join_parts sep path, ← eq,
        intercalate_append sep _ _ (List.splitOn_ne_nil _ _) last, join_parts]
    rw [joined, List.append_assoc]
    exact List.prefix_append _ _

variable (first second : List α)

def folder (base x y : List α) : List α :=
  base ++ [sep] ++ (first ++ [sep] ++ (x ++ [sep] ++ (second ++ [sep] ++ y)))

structure Named (x y : List α) : Prop where
  tenant_plain : sep ∉ x
  job_plain : sep ∉ y
  ne_first : y ≠ first
  ne_second : y ≠ second

structure Markers : Prop where
  first_plain : sep ∉ first
  second_plain : sep ∉ second
  ne : first ≠ second

variable {sep first second}

section

variable (markers : Markers sep first second)

include markers

theorem parts_folder {base x y : List α}
    (named : Named sep first second x y) :
    (folder sep first second base x y).splitOn sep =
      base.splitOn sep ++ [first, x, second, y] := by
  rw [folder, parts_below, parts_below, parts_below, parts_below,
    List.splitOn_eq_singleton markers.first_plain, List.splitOn_eq_singleton named.tenant_plain,
    List.splitOn_eq_singleton markers.second_plain, List.splitOn_eq_singleton named.job_plain]
  rfl

omit [DecidableEq α] in
theorem names_eq {x y x' y' : List α}
    (named : Named sep first second x y) {front front' ends tail : List (List α)}
    (upper : front ++ [first, x, second, y] = front' ++ ends)
    (lower : [first, x', second, y'] ++ [[]] = ends ++ tail) (some : tail ≠ []) :
    (x = x' ∧ y = y') ∨ ends = [] := by
  obtain ⟨_, _, ne⟩ := markers
  obtain ⟨_, _, ne_first, ne_second⟩ := named
  have backwards := congrArg List.reverse upper
  rw [List.reverse_append, List.reverse_append] at backwards
  rcases ends with _ | ⟨a, _ | ⟨b, _ | ⟨c, _ | ⟨d, _ | ⟨e, ends⟩⟩⟩⟩⟩
  · exact .inr rfl
  all_goals simp_all

theorem folder_cases {base x y base' x' y' : List α}
    (named : Named sep first second x y) (named' : Named sep first second x' y')
    (below : folder sep first second base x y ++ [sep] <+:
      folder sep first second base' x' y' ++ [sep]) :
    (x = x' ∧ y = y') ∨ folder sep first second base x y ++ [sep] <+: base' ++ [sep] := by
  obtain ⟨rest, eq⟩ := below
  have parts := congrArg (List.splitOn sep) eq
  have closed := parts_below sep (folder sep first second base' x' y') []
  rw [List.append_nil] at closed
  rw [parts_below, closed, parts_folder markers named, parts_folder markers named',
    List.append_assoc (base'.splitOn sep)] at parts
  cases List.append_eq_append_iff.mp parts with
  | inl longer =>
    obtain ⟨more, eq, _⟩ := longer
    right
    apply prefix_of_parts
    rw [parts_folder markers named, eq]
    exact List.prefix_append _ _
  | inr shorter =>
    obtain ⟨ends, eq, tail⟩ := shorter
    cases names_eq markers named eq tail (List.splitOn_ne_nil _ _) with
    | inl same => exact .inl same
    | inr none =>
      right
      apply prefix_of_parts
      rw [parts_folder markers named, eq, none, List.append_nil]

theorem apart_of_not_nested {base x y base' x' y' : List α}
    (named : Named sep first second x y) (named' : Named sep first second x' y')
    (other : ¬ (x = x' ∧ y = y'))
    (free : ¬ folder sep first second base x y ++ [sep] <+: base' ++ [sep])
    (free' : ¬ folder sep first second base' x' y' ++ [sep] <+: base ++ [sep]) {path : List α}
    (below : folder sep first second base x y ++ [sep] <+: path) :
    ¬ folder sep first second base' x' y' ++ [sep] <+: path := by
  intro below'
  cases List.prefix_or_prefix_of_prefix below below' with
  | inl lower =>
    cases folder_cases markers named named' lower with
    | inl same => exact other same
    | inr nested => exact free nested
  | inr lower =>
    cases folder_cases markers named' named lower with
    | inl same => exact other ⟨same.1.symm, same.2.symm⟩
    | inr nested => exact free' nested

end

def Clean (path : List Char) : Prop :=
  [] ∉ path.splitOn '/' ∧ ['.'] ∉ path.splitOn '/' ∧ ['.', '.'] ∉ path.splitOn '/'

theorem Clean.below {folder rest : List Char} (clean : Clean folder) (later : Clean rest) :
    Clean (folder ++ ['/'] ++ rest) := by
  obtain ⟨some, undotted, undoubled⟩ := clean
  obtain ⟨some', undotted', undoubled'⟩ := later
  rw [Clean, parts_below]
  refine ⟨?_, ?_, ?_⟩
  · exact fun mem => (List.mem_append.mp mem).elim some some'
  · exact fun mem => (List.mem_append.mp mem).elim undotted undotted'
  · exact fun mem => (List.mem_append.mp mem).elim undoubled undoubled'

theorem Clean.name {name : List Char} (plain : '/' ∉ name) {c : Char} (mem : c ∈ name)
    (letter : c ≠ '.') : Clean name := by
  rw [Clean, List.splitOn_eq_singleton plain]
  refine ⟨?_, ?_, ?_⟩
  · intro eq
    rw [← List.mem_singleton.mp eq] at mem
    cases mem
  · intro eq
    rw [← List.mem_singleton.mp eq] at mem
    exact letter (List.mem_singleton.mp mem)
  · intro eq
    rw [← List.mem_singleton.mp eq] at mem
    simp only [List.mem_cons, List.not_mem_nil, or_false, or_self] at mem
    exact letter mem

def splitRoot : List Char → List Char × List Char
  | '/' :: '/' :: '/' :: rest => (['/'], '/' :: '/' :: rest)
  | '/' :: '/' :: rest => (['/', '/'], rest)
  | '/' :: rest => (['/'], rest)
  | path => ([], path)

def asPosix (value : List Char) : List Char :=
  let names := ((splitRoot value).2.splitOn '/').filter fun part => part ≠ [] ∧ part ≠ ['.']
  let text := (splitRoot value).1 ++ ['/'].intercalate names
  if text = [] then ['.'] else text

theorem splitRoot_eq {value : List Char} (relative : ∀ rest, value ≠ '/' :: rest) :
    splitRoot value = ([], value) := by
  rw [splitRoot]
  · intro a eq
    exact relative _ eq
  · intro a eq
    exact relative _ eq
  · intro a eq
    exact relative _ eq

theorem ne_slash_cons {value : List Char} (clean : [] ∉ value.splitOn '/') (rest : List Char) :
    value ≠ '/' :: rest := by
  intro eq
  have parts := List.splitOn_append_cons_self (a := '/') [] rest
  rw [List.nil_append, ← eq] at parts
  rw [parts] at clean
  exact clean List.mem_cons_self

theorem asPosix_eq_self {value : List Char} (clean : [] ∉ value.splitOn '/')
    (undotted : ['.'] ∉ value.splitOn '/') : asPosix value = value := by
  have some : value ≠ [] := by
    intro eq
    rw [eq] at clean
    exact clean List.mem_cons_self
  have names : (value.splitOn '/').filter (fun part => part ≠ [] ∧ part ≠ ['.']) =
      value.splitOn '/' := by
    apply List.filter_eq_self.mpr
    intro part mem
    apply decide_eq_true
    exact ⟨fun eq => clean (eq ▸ mem), fun eq => undotted (eq ▸ mem)⟩
  simp only [asPosix, splitRoot_eq (ne_slash_cons clean), names, List.intercalate_splitOn,
    List.nil_append, if_neg some]

end ObjectPath
