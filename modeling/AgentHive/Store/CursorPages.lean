import Mathlib.Data.List.Nodup
import Mathlib.Order.Basic
import Mathlib.Order.Lattice

/-!
Reading a list page by page, from a cursor.
-/

namespace CursorPages

variable {α κ : Type} [LinearOrder κ] (key : α → κ) (rows : List α) (limit : Nat)

def remaining (after : Option κ) : List α :=
  match after with
  | none => rows
  | some c => rows.filter fun a => c < key a

inductive Walk : Option κ → List (List α) → Prop
  | last {after : Option κ} (short : (remaining key rows after).length ≤ limit) :
      Walk after [remaining key rows after]
  | more {after : Option κ} {a : α} {pages : List (List α)}
      (long : limit < (remaining key rows after).length)
      (ends : ((remaining key rows after).take limit).getLast? = some a)
      (rest : Walk (some (key a)) pages) :
      Walk after ((remaining key rows after).take limit :: pages)

def Splits (limit : Nat) (rows : List α) : Prop :=
  ∀ k a, limit * k < rows.length → (rows.take (limit * k)).getLast? = some a →
    (∀ b ∈ rows.take (limit * k), key b ≤ key a) ∧ ∀ b ∈ rows.drop (limit * k), key a < key b

variable {key rows limit} {after : Option κ}

theorem remaining_subset : remaining key rows after ⊆ rows := by
  cases after with
  | none => exact List.Subset.refl rows
  | some c => exact List.filter_sublist.subset

theorem remaining_of_last {a : α} (ends : ((remaining key rows after).take limit).getLast? = some a) :
    remaining key rows (some (key a)) =
      (remaining key rows after).filter fun b => key a < key b := by
  have mem := List.mem_of_mem_take (List.mem_of_getLast? ends)
  cases after with
  | none => rfl
  | some c =>
    have above := of_decide_eq_true (List.mem_filter.mp mem).2
    simp only [remaining, List.filter_filter]
    refine List.filter_congr fun b _ => ?_
    rw [← Bool.decide_and]
    refine decide_eq_decide.mpr ⟨fun later => ⟨later, above.trans later⟩, fun both => both.1⟩

theorem length_remaining_lt {a : α}
    (ends : ((remaining key rows after).take limit).getLast? = some a) :
    (remaining key rows (some (key a))).length < (remaining key rows after).length := by
  rw [remaining_of_last ends]
  refine List.length_filter_lt_length_iff_exists.mpr ⟨a, ?_, ?_⟩
  · exact List.mem_of_mem_take (List.mem_of_getLast? ends)
  · simp

theorem Walk.exists (pos : 0 < limit) (after : Option κ) :
    ∃ pages, Walk key rows limit after pages := by
  generalize size : (remaining key rows after).length = n
  induction n using Nat.strongRecOn generalizing after with
  | ind n ih =>
    by_cases short : (remaining key rows after).length ≤ limit
    · exact ⟨_, .last short⟩
    · have long := Nat.lt_of_not_le short
      cases ends : ((remaining key rows after).take limit).getLast? with
      | none =>
        have size := congrArg List.length (List.getLast?_eq_none_iff.mp ends)
        rw [List.length_take, List.length_nil] at size
        omega
      | some a =>
        have fewer := length_remaining_lt ends
        rw [size] at fewer
        obtain ⟨pages, rest⟩ := ih _ fewer (some (key a)) rfl
        exact ⟨_, .more long ends rest⟩

variable {pages : List (List α)}

theorem Walk.subset (walk : Walk key rows limit after pages) :
    pages.flatten ⊆ remaining key rows after := by
  induction walk with
  | last short => simp
  | more long ends rest ih =>
    rw [List.flatten_cons, List.append_subset]
    refine ⟨List.take_subset _ _, fun b mem => ?_⟩
    have left := ih mem
    rw [remaining_of_last ends] at left
    exact (List.mem_filter.mp left).1

theorem Walk.head_mem (pos : 0 < limit) (walk : Walk key rows limit after pages) {b : α}
    {rest : List α} (first : remaining key rows after = b :: rest) : b ∈ pages.flatten := by
  obtain ⟨n, rfl⟩ := Nat.exists_eq_succ_of_ne_zero (Nat.pos_iff_ne_zero.mp pos)
  cases walk with
  | last short => simp [first]
  | more long ends rest => simp [first]

variable {rows : List α}

theorem filter_of_split (key : α → κ) {a : α} {n : Nat} (below : ∀ b ∈ rows.take n, key b ≤ key a)
    (above : ∀ b ∈ rows.drop n, key a < key b) :
    rows.filter (fun b => key a < key b) = rows.drop n := by
  conv_lhs => rw [← List.take_append_drop n rows]
  rw [List.filter_append, List.filter_eq_nil_iff.mpr, List.nil_append, List.filter_eq_self]
  · intro b mem
    exact decide_eq_true (above b mem)
  · intro b mem
    simpa using below b mem

theorem Splits.drop (splits : Splits key limit rows) : Splits key limit (rows.drop limit) := by
  intro k a long ends
  rw [List.length_drop] at long
  have ends' : (rows.take (limit * (k + 1))).getLast? = some a := by
    rw [Nat.mul_succ, Nat.add_comm, List.take_add, List.getLast?_append, ends]
    rfl
  obtain ⟨below, above⟩ := splits (k + 1) a (by rw [Nat.mul_succ]; omega) ends'
  rw [Nat.mul_succ, Nat.add_comm] at below above
  refine ⟨fun b mem => below b ?_, fun b mem => above b ?_⟩
  · rw [List.take_add]
    exact List.mem_append_right _ mem
  · rwa [List.drop_drop] at mem

theorem Splits.of_drop {a : α} (splits : Splits key limit (rows.drop limit))
    (below : ∀ b ∈ rows.take limit, key b ≤ key a) (above : ∀ b ∈ rows.drop limit, key a < key b)
    (ends : (rows.take limit).getLast? = some a) : Splits key limit rows := by
  intro k c long ends'
  cases k with
  | zero => simp at ends'
  | succ k =>
    rw [Nat.mul_succ, Nat.add_comm] at long ends' ⊢
    rw [List.take_add] at ends' ⊢
    rw [← List.drop_drop]
    have later := splits k c (by rw [List.length_drop]; omega)
    rw [List.getLast?_append] at ends'
    cases found : ((rows.drop limit).take (limit * k)).getLast? with
    | none =>
      rw [found, ends] at ends'
      cases ends'
      rw [List.getLast?_eq_none_iff] at found
      rw [found, List.append_nil]
      exact ⟨below, fun b mem => above b (List.mem_of_mem_drop mem)⟩
    | some d =>
      rw [found] at ends'
      cases ends'
      obtain ⟨below', above'⟩ := later found
      refine ⟨fun b mem => ?_, above'⟩
      rcases List.mem_append.mp mem with early | late
      · have last := List.mem_of_mem_take (List.mem_of_getLast? found)
        exact (below b early).trans (above c last).le
      · exact below' b late

theorem Walk.flatten_eq (walk : Walk key rows limit after pages)
    (splits : Splits key limit (remaining key rows after)) :
    pages.flatten = remaining key rows after := by
  induction walk with
  | last short => simp
  | @more after a pages long ends rest ih =>
    obtain ⟨below, above⟩ := splits 1 a (by rwa [Nat.mul_one]) (by rwa [Nat.mul_one])
    rw [Nat.mul_one] at below above
    have left := (remaining_of_last ends).trans (filter_of_split key below above)
    rw [left] at ih
    rw [List.flatten_cons, ih splits.drop, List.take_append_drop]

theorem Walk.splits_of_perm (pos : 0 < limit) (walk : Walk key rows limit after pages)
    (distinct : (remaining key rows after).Nodup)
    (perm : pages.flatten.Perm (remaining key rows after)) :
    Splits key limit (remaining key rows after) := by
  induction walk with
  | last short =>
    intro k a long ends
    cases k with
    | zero => simp at ends
    | succ k =>
      rw [Nat.mul_succ] at long
      omega
  | @more after a pages long ends rest ih =>
    have left := remaining_of_last ends
    generalize remaining key rows after = here at *
    conv at perm =>
      rhs
      rw [← List.take_append_drop limit here]
    rw [List.flatten_cons, List.perm_append_left_iff] at perm
    have above : ∀ b ∈ here.drop limit, key a < key b := by
      intro b mem
      have later := rest.subset (perm.mem_iff.mpr mem)
      rw [left] at later
      exact of_decide_eq_true (List.mem_filter.mp later).2
    have below : ∀ b ∈ here.take limit, key b ≤ key a := by
      intro b mem
      by_contra later
      have kept : b ∈ (here.take limit).filter fun b => key a < key b :=
        List.mem_filter.mpr ⟨mem, decide_eq_true (not_le.mp later)⟩
      obtain ⟨first, others, some⟩ := List.exists_cons_of_ne_nil (List.ne_nil_of_mem kept)
      have again : first ∈ here.take limit :=
        (List.mem_filter.mp (by rw [some]; exact List.mem_cons_self)).1
      rw [← List.take_append_drop limit here, List.filter_append, some] at left
      exact List.disjoint_take_drop distinct (Nat.le_refl limit) again
        (perm.mem_iff.mp (rest.head_mem pos left))
    have next := left.trans (filter_of_split key below above)
    rw [next] at ih
    have splits := ih (distinct.sublist (List.drop_sublist limit here)) perm
    exact splits.of_drop below above ends

theorem mem_take_iff {before : α → α → Prop} [DecidableRel before] {a : α} {n : Nat}
    (ordered : rows.Pairwise before) (asymm : ∀ a ∈ rows, ∀ b ∈ rows, before a b → ¬ before b a)
    (mem : a ∈ rows) : a ∈ rows.take n ↔ (rows.filter fun b => before b a).length < n := by
  obtain ⟨first, last, rfl⟩ := List.append_of_mem mem
  obtain ⟨_, after, early⟩ := List.pairwise_append.mp ordered
  have irrefl : ¬ before a a := fun loop => asymm a mem a mem loop loop
  have all : first.filter (fun b => before b a) = first :=
    List.filter_eq_self.mpr fun b mem' => decide_eq_true (early b mem' a List.mem_cons_self)
  have none : last.filter (fun b => before b a) = [] := by
    refine List.filter_eq_nil_iff.mpr fun b mem' => ?_
    have later := (List.pairwise_cons.mp after).1 b mem'
    simpa using asymm a mem b (by simp [mem']) later
  have counted : (first ++ a :: last).filter (fun b => before b a) = first := by
    rw [List.filter_append, all, List.filter_cons_of_neg (by simpa using irrefl), none,
      List.append_nil]
  rw [counted]
  constructor
  · intro taken
    by_contra short
    rw [List.take_append_of_le_length (Nat.le_of_not_lt short)] at taken
    exact irrefl (early a (List.mem_of_mem_take taken) a List.mem_cons_self)
  · intro long
    obtain ⟨k, rfl⟩ := Nat.exists_eq_add_of_lt long
    rw [Nat.add_assoc, List.take_length_add_append]
    exact List.mem_append_right _ List.mem_cons_self

end CursorPages
