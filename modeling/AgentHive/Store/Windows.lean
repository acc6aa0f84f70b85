import Mathlib.Data.List.Basic

/-!
Pieces of a list that begin in order and leave nothing out. They may overlap.
-/

namespace Windows

variable {α : Type}

def window (whole : List α) (first last : Nat) : List α := (whole.take last).drop first

def CoversInOrder (whole : List α) (pieces : List (List α)) : Prop :=
  ∃ spans : List (Nat × Nat),
    pieces = spans.map (fun s => window whole s.1 s.2) ∧
      (spans.map Prod.fst).Pairwise (· ≤ ·) ∧
      ∀ k < whole.length, ∃ s ∈ spans, s.1 ≤ k ∧ k < s.2

def Tiled (whole : List α) (pieces : List (List α)) (latest upto : Nat) : Prop :=
  ∃ spans : List (Nat × Nat),
    pieces = spans.map (fun s => window whole s.1 s.2) ∧
      (spans.map Prod.fst).Pairwise (· ≤ ·) ∧ (∀ s ∈ spans, s.1 ≤ latest) ∧
      ∀ k < upto, ∃ s ∈ spans, s.1 ≤ k ∧ k < s.2

variable {whole : List α} {pieces : List (List α)} {first middle last latest upto : Nat}

theorem window_self (whole : List α) (place : Nat) : window whole place place = [] :=
  List.drop_eq_nil_of_le (List.length_take_le place whole)

theorem window_min : window whole first last = window whole (min first last) last := by
  by_cases le : first ≤ last
  · rw [Nat.min_eq_left le]
  · have short : (whole.take last).length ≤ first :=
      Nat.le_trans (List.length_take_le last whole) (Nat.le_of_not_le le)
    rw [Nat.min_eq_right (Nat.le_of_not_le le), window_self, window,
      List.drop_eq_nil_of_le short]

theorem drop_window (count : Nat) :
    (window whole first last).drop count = window whole (first + count) last :=
  List.drop_drop

theorem window_append (before : first ≤ middle) (after : middle ≤ last) :
    window whole first middle ++ window whole middle last = window whole first last := by
  have front : whole.take middle = (whole.take last).take middle := by
    rw [List.take_take, Nat.min_eq_left after]
  rw [window, window, window, front, List.drop_take]
  calc ((whole.take last).drop first).take (middle - first) ++ (whole.take last).drop middle
      = ((whole.take last).drop first).take (middle - first) ++
          ((whole.take last).drop first).drop (middle - first) := by
        rw [List.drop_drop, Nat.add_sub_cancel' before]
    _ = (whole.take last).drop first := List.take_append_drop _ _

theorem window_window {start stop : Nat} (within : first + stop ≤ last) :
    window (window whole first last) start stop = window whole (first + start) (first + stop) := by
  rw [window, window, window, List.take_drop, List.drop_drop, List.take_take,
    Nat.min_eq_left within]

/-- Where an element comes to stand once others are taken out. -/
def place (keep : α → Bool) (whole : List α) (position : Nat) : Nat :=
  ((whole.take position).filter keep).length

theorem place_mono {keep : α → Bool} (le : first ≤ last) :
    place keep whole first ≤ place keep whole last :=
  ((List.take_prefix_take_left le).filter keep).length_le

theorem place_length (keep : α → Bool) (whole : List α) :
    place keep whole whole.length = (whole.filter keep).length := by
  rw [place, List.take_length]

theorem filter_window {keep : α → Bool} (le : first ≤ last) :
    (window whole first last).filter keep =
      window (whole.filter keep) (place keep whole first) (place keep whole last) := by
  have front (position : Nat) : (whole.take position).filter keep =
      (whole.filter keep).take (place keep whole position) := by
    obtain ⟨rest, eq⟩ := (List.take_prefix position whole).filter keep
    rw [← eq, place, List.take_left]
  have parts : whole.take last = whole.take first ++ window whole first last := by
    have eq := (window_append (Nat.zero_le first) le : _ = window whole 0 last)
    simpa [window] using eq.symm
  change _ = ((whole.filter keep).take (place keep whole last)).drop (place keep whole first)
  rw [← front, parts, List.filter_append, place, List.drop_left]

theorem Tiled.nil : Tiled whole [] 0 0 :=
  ⟨[], rfl, List.Pairwise.nil, fun _ mem => absurd mem List.not_mem_nil,
    fun _ low => absurd low (Nat.not_lt_zero _)⟩

theorem Tiled.snoc (tiled : Tiled whole pieces latest upto) (le : latest ≤ first)
    (met : first ≤ upto) (last : Nat) :
    Tiled whole (pieces ++ [window whole first last]) first last := by
  obtain ⟨spans, rfl, sorted, low, covered⟩ := tiled
  refine ⟨spans ++ [(first, last)], ?_, ?_, ?_, ?_⟩
  · rw [List.map_append, List.map_singleton]
  · rw [List.map_append, List.map_singleton, List.pairwise_append]
    refine ⟨sorted, List.pairwise_singleton _ _, ?_⟩
    intro start mem other mem'
    obtain ⟨s, member, rfl⟩ := List.mem_map.mp mem
    rw [List.mem_singleton.mp mem']
    exact Nat.le_trans (low s member) le
  · intro s mem
    rw [List.mem_append, List.mem_singleton] at mem
    cases mem with
    | inl old => exact Nat.le_trans (low s old) le
    | inr new => exact Nat.le_of_eq (congrArg Prod.fst new)
  · intro k below
    by_cases old : k < upto
    · obtain ⟨s, mem, here⟩ := covered k old
      exact ⟨s, List.mem_append_left _ mem, here⟩
    · exact ⟨(first, last), List.mem_append_right _ (List.mem_singleton.mpr rfl),
        Nat.le_trans met (Nat.le_of_not_lt old), below⟩

theorem exists_kept {β γ : Type} {view : β → List α} {shown : γ → List α} {keep : β → Bool}
    (blank : ∀ item, keep item = false → view item = []) {items : List β} {spans : List γ}
    (same : items.map view = spans.map shown) :
    ∃ kept : List γ, kept.Sublist spans ∧ (items.filter keep).map view = kept.map shown ∧
      ∀ s ∈ spans, shown s ≠ [] → s ∈ kept := by
  induction items generalizing spans with
  | nil =>
    rw [List.map_nil, eq_comm, List.map_eq_nil_iff] at same
    rw [same]
    exact ⟨[], List.Sublist.refl _, rfl, fun _ mem => absurd mem List.not_mem_nil⟩
  | cons item items ih =>
    cases spans with
    | nil => cases same
    | cons s spans =>
      obtain ⟨head, tail⟩ := List.cons.inj same
      obtain ⟨kept, sub, eq, all⟩ := ih tail
      cases keeps : keep item with
      | true =>
        refine ⟨s :: kept, sub.cons_cons s, ?_, ?_⟩
        · rw [List.filter_cons_of_pos keeps, List.map_cons, List.map_cons, head, eq]
        · intro other mem filled
          cases List.mem_cons.mp mem with
          | inl same => exact same ▸ List.mem_cons_self
          | inr mem => exact List.mem_cons_of_mem _ (all other mem filled)
      | false =>
        refine ⟨kept, sub.cons s, ?_, ?_⟩
        · rw [List.filter_cons_of_neg (by simp [keeps]), eq]
        · intro other mem filled
          cases List.mem_cons.mp mem with
          | inl same => exact absurd (head.symm.trans (blank item keeps)) (same ▸ filled)
          | inr mem => exact all other mem filled

theorem Tiled.covers {β : Type} {view : β → List α} {items : List β} {keep : β → Bool}
    (tiled : Tiled whole (items.map view) latest whole.length)
    (blank : ∀ item, keep item = false → view item = []) :
    CoversInOrder whole ((items.filter keep).map view) := by
  obtain ⟨spans, eq, sorted, _, covered⟩ := tiled
  obtain ⟨kept, sub, same, all⟩ := exists_kept blank eq
  refine ⟨kept, same, sorted.sublist (sub.map _), ?_⟩
  intro k below
  obtain ⟨s, mem, from_, upto⟩ := covered k below
  refine ⟨s, all s mem (List.ne_nil_of_length_pos ?_), from_, upto⟩
  rw [window, List.length_drop, List.length_take]
  omega

end Windows
