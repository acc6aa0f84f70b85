import Mathlib.Data.List.Induction
import Mathlib.Data.List.Sort
import Mathlib.Tactic.ByContra

/-!
Stable sorting: a list in order, with what is tied left in the order it had.
-/

variable {α : Type}

structure SortsStably (le : α → α → Prop) [DecidableRel le] (original sorted : List α) :
    Prop where
  perm : sorted.Perm original
  ordered : sorted.Pairwise le
  stable : ∀ a, sorted.filter (fun b => le a b ∧ le b a) =
    original.filter fun b => le a b ∧ le b a

namespace SortsStably

variable {le : α → α → Prop} [DecidableRel le]

theorem filter {original sorted : List α} (sort : SortsStably le original sorted)
    (p : α → Bool) : SortsStably le (original.filter p) (sorted.filter p) := by
  refine ⟨sort.perm.filter p, sort.ordered.filter p, fun a => ?_⟩
  rw [List.filter_comm, sort.stable, List.filter_comm]

theorem insertionSort [Std.Total le] [IsTrans α le] (original : List α) :
    SortsStably le original (original.insertionSort le) := by
  refine ⟨List.perm_insertionSort le original, List.pairwise_insertionSort le original, ?_⟩
  intro a
  have tied : (original.filter fun b => le a b ∧ le b a).Pairwise le := by
    rw [List.pairwise_filter]
    refine List.pairwise_of_forall fun b c first second => ?_
    exact IsTrans.trans b a c (of_decide_eq_true first).2 (of_decide_eq_true second).1
  have kept := (List.sublist_insertionSort tied List.filter_sublist).filter
    fun b => le a b ∧ le b a
  simp only [List.filter_filter, Bool.and_self] at kept
  have sameLength := ((List.perm_insertionSort le original).filter
    fun b => le a b ∧ le b a).length_eq
  exact (kept.eq_of_length sameLength.symm).symm

end SortsStably

section Filter

variable {le : α → α → Prop} [DecidableRel le]

theorem filter_orderedInsert [IsTrans α le] {p : α → Bool} {a : α} (kept : p a = true)
    {sorted : List α} (ordered : sorted.Pairwise le) :
    (sorted.orderedInsert le a).filter p = (sorted.filter p).orderedInsert le a := by
  induction sorted with
  | nil => simp [kept]
  | cons b rest ih =>
    obtain ⟨first, later⟩ := List.pairwise_cons.mp ordered
    by_cases below : le a b
    · have before : ∀ c ∈ (b :: rest).filter p, le a c := by
        intro c mem
        cases List.mem_cons.mp (List.mem_of_mem_filter mem) with
        | inl same => exact same ▸ below
        | inr there => exact IsTrans.trans a b c below (first c there)
      rw [List.orderedInsert_cons, if_pos below, List.filter_cons_of_pos kept]
      cases filtered : (b :: rest).filter p with
      | nil => rfl
      | cons c more =>
        rw [filtered] at before
        rw [List.orderedInsert_cons, if_pos (before c (.head _))]
    · rw [List.orderedInsert_cons, if_neg below]
      by_cases inside : p b = true
      · rw [List.filter_cons_of_pos inside, ih later, List.filter_cons_of_pos inside,
          List.orderedInsert_cons, if_neg below]
      · rw [List.filter_cons_of_neg inside, ih later, List.filter_cons_of_neg inside]

theorem filter_orderedInsert_of_neg {p : α → Bool} {a : α} (dropped : ¬ p a = true)
    (list : List α) : (list.orderedInsert le a).filter p = list.filter p := by
  induction list with
  | nil => simp [dropped]
  | cons b rest ih =>
    rw [List.orderedInsert_cons]
    split
    · rw [List.filter_cons_of_neg dropped]
    · rw [List.filter_cons, List.filter_cons, ih]

theorem filter_insertionSort [Std.Total le] [IsTrans α le] (p : α → Bool) (list : List α) :
    (list.insertionSort le).filter p = (list.filter p).insertionSort le := by
  induction list with
  | nil => rfl
  | cons a rest ih =>
    rw [List.insertionSort_cons]
    by_cases kept : p a = true
    · rw [filter_orderedInsert kept (List.pairwise_insertionSort le rest), ih,
        List.filter_cons_of_pos kept, List.insertionSort_cons]
    · rw [filter_orderedInsert_of_neg kept, ih, List.filter_cons_of_neg kept]

theorem head_insertionSort [Std.Total le] [IsTrans α le] {list rest : List α} {a : α}
    (sorted : list.insertionSort le = a :: rest) : ∃ front back, list = front ++ a :: back ∧
      (∀ b ∈ front, ¬ le b a) ∧ ∀ b ∈ back, le a b := by
  induction list generalizing a rest with
  | nil => cases sorted
  | cons c list ih =>
    have ordered := List.pairwise_insertionSort le list
    have members : ∀ b, b ∈ list.insertionSort le ↔ b ∈ list :=
      fun b => List.mem_insertionSort le
    rw [List.insertionSort_cons] at sorted
    cases later : list.insertionSort le with
    | nil =>
      rw [later] at sorted members
      cases sorted
      refine ⟨[], list, rfl, fun b mem => absurd mem List.not_mem_nil, fun b mem => ?_⟩
      exact absurd ((members b).mpr mem) List.not_mem_nil
    | cons h t =>
      rw [later] at sorted ordered members
      rw [List.orderedInsert_cons] at sorted
      split at sorted
      next below =>
        cases sorted
        refine ⟨[], list, rfl, fun b mem => absurd mem List.not_mem_nil, fun b mem => ?_⟩
        cases List.mem_cons.mp ((members b).mpr mem) with
        | inl same => exact same ▸ below
        | inr inTail =>
          have next : le h b := (List.pairwise_cons.mp ordered).1 b inTail
          exact IsTrans.trans c h b below next
      next above =>
        cases sorted
        obtain ⟨front, back, parts, before, after⟩ := ih later
        refine ⟨c :: front, back, by rw [parts]; rfl, ?_, after⟩
        exact List.forall_mem_cons.mpr ⟨above, before⟩

end Filter

structure BestOf (le : α → α → Prop) (count : Nat) (offered best : List α) : Prop where
  length_eq : best.length = min count offered.length
  ordered : best.Pairwise le
  others : ∃ others, (best ++ others).Perm offered ∧ ∀ a ∈ best, ∀ b ∈ others, le a b

namespace BestOf

variable {le : α → α → Prop} {count : Nat} {offered : List α}

theorem take (ordered : offered.Pairwise le) : BestOf le count offered (offered.take count) := by
  have parts := ordered
  rw [← List.take_append_drop count offered, List.pairwise_append] at parts
  refine ⟨List.length_take, parts.1, offered.drop count, ?_, parts.2.2⟩
  rw [List.take_append_drop]

theorem take_insertionSort [DecidableRel le] [Std.Total le] [IsTrans α le] :
    BestOf le count offered ((offered.insertionSort le).take count) := by
  have sorted : BestOf le count (offered.insertionSort le) _ :=
    take (List.pairwise_insertionSort le offered)
  obtain ⟨others, perm, better⟩ := sorted.others
  have same := List.perm_insertionSort le offered
  exact ⟨sorted.length_eq.trans (by rw [same.length_eq]), sorted.ordered, others,
    perm.trans same, better⟩

end BestOf

/-!
The first row of a table in a given order, as `ORDER BY … LIMIT 1` returns it:
among rows that tie, the one the table has first.
-/

namespace FirstRow

variable (outranks : α → α → Bool)

def better (best : Option α) (row : α) : Option α :=
  match best with
  | none => some row
  | some found => if outranks row found then some row else some found

def firstRow (rows : List α) : Option α := rows.foldl (better outranks) none

variable {outranks}

@[simp] theorem firstRow_nil : firstRow outranks [] = none := rfl

theorem firstRow_concat (rows : List α) (row : α) :
    firstRow outranks (rows ++ [row]) = better outranks (firstRow outranks rows) row :=
  List.foldl_append

theorem better_eq {best : Option α} {row found : α} (h : better outranks best row = some found) :
    best = some found ∨ row = found := by
  unfold better at h
  split at h
  · exact .inr (Option.some.inj h)
  · split at h
    · exact .inr (Option.some.inj h)
    · exact .inl h

theorem firstRow_mem {rows : List α} {found : α} (h : firstRow outranks rows = some found) :
    found ∈ rows := by
  induction rows using List.reverseRecOn with
  | nil => cases h
  | append_singleton rows row ih =>
    rw [firstRow_concat] at h
    rcases better_eq h with earlier | last
    · exact List.mem_append_left _ (ih earlier)
    · exact List.mem_append_right _ (List.mem_singleton.mpr last.symm)

theorem firstRow_concat_of_outranks {rows : List α} {row : α}
    (first : ∀ other ∈ rows, outranks row other = true) :
    firstRow outranks (rows ++ [row]) = some row := by
  rw [firstRow_concat]
  cases best : firstRow outranks rows with
  | none => rfl
  | some found => exact if_pos (first found (firstRow_mem best))

theorem firstRow_of_kind {kind : α → Prop} {rows : List α} {row : α}
    (wins : ∀ a b, kind a → ¬ kind b → outranks a b = true ∧ outranks b a = false)
    (mem : row ∈ rows) (of : kind row) : ∃ found, firstRow outranks rows = some found ∧ kind found := by
  induction rows using List.reverseRecOn with
  | nil => cases mem
  | append_singleton rows last ih =>
    rw [firstRow_concat]
    by_cases isLast : kind last
    · cases best : firstRow outranks rows with
      | none => exact ⟨last, rfl, isLast⟩
      | some found =>
        simp only [better]
        split
        · exact ⟨last, rfl, isLast⟩
        · rename_i kept
          refine ⟨found, rfl, ?_⟩
          by_contra other
          exact kept (wins last found isLast other).1
    · have earlier : row ∈ rows := by
        rcases List.mem_append.mp mem with earlier | same
        · exact earlier
        · cases List.mem_singleton.mp same
          exact absurd of isLast
      obtain ⟨found, best, of⟩ := ih earlier
      refine ⟨found, ?_, of⟩
      rw [best]
      exact if_neg (by simp [(wins found last of isLast).2])

end FirstRow
