import Mathlib.Algebra.BigOperators.Group.Finset.Piecewise
import Mathlib.Algebra.GroupWithZero.Nat
import Mathlib.Data.List.Dedup

/-!
Rows of a table as a query groups them and joins them to another table. Whatever
is added up over the groups is added up over the rows, and a join that finds one
row at most leaves each row once.
-/

namespace Grouping

variable {α β κ M : Type} [DecidableEq κ] {key : α → κ}

/-- `GROUP BY`: each key once, with its rows. -/
def groupBy (key : α → κ) (rows : List α) : List (κ × List α) :=
  (rows.map key).dedup.map fun k => (k, rows.filter fun row => key row = k)

def leftJoin (rows : List α) (table : List β) (matches_ : α → β → Bool) : List (α × Option β) :=
  rows.flatMap fun row =>
    match table.filter (matches_ row) with
    | [] => [(row, none)]
    | found => found.map fun other => (row, some other)

theorem length_groupBy (rows : List α) : (groupBy key rows).length = (rows.map key).dedup.length :=
  List.length_map _

theorem sum_over_keys [AddCommMonoid M] (f : α → M) {keys : List κ} (distinct : keys.Nodup)
    {rows : List α} (covered : ∀ row ∈ rows, key row ∈ keys) :
    (keys.map fun k => ((rows.filter fun row => key row = k).map f).sum).sum =
      (rows.map f).sum := by
  rw [← List.sum_toFinset _ distinct]
  induction rows with
  | nil => simp
  | cons row rest ih =>
    obtain ⟨first, others⟩ := List.forall_mem_cons.mp covered
    have split : ∀ k, (((row :: rest).filter fun row => key row = k).map f).sum =
        (if key row = k then f row else 0) +
          ((rest.filter fun row => key row = k).map f).sum := by
      intro k
      rw [List.filter_cons]
      split <;> simp_all
    simp only [split, Finset.sum_add_distrib, ih others, Finset.sum_ite_eq, List.mem_toFinset,
      first, if_true, List.map_cons, List.sum_cons]

theorem sum_groupBy [AddCommMonoid M] (f : α → M) (rows : List α) :
    ((groupBy key rows).map fun group => (group.2.map f).sum).sum = (rows.map f).sum := by
  rw [groupBy, List.map_map]
  exact sum_over_keys f (List.nodup_dedup _) fun row mem =>
    List.mem_dedup.mpr (List.mem_map_of_mem mem)

theorem sum_length_groupBy (rows : List α) :
    ((groupBy key rows).map fun group => group.2.length).sum = rows.length := by
  have counted : ((groupBy key rows).map fun group => (group.2.map fun _ => 1).sum).sum =
      (rows.map fun _ => 1).sum := sum_groupBy _ rows
  simpa using counted

/-- The first groups have all the rows exactly where they are all the groups. -/
theorem sum_length_take_iff {groups : List (κ × List α)} {rows : List α}
    (perm : groups.Perm (groupBy key rows)) (limit : Nat) :
    ((groups.take limit).map fun group => group.2.length).sum = rows.length ↔
      (rows.map key).dedup.length ≤ limit := by
  have some : ∀ group ∈ groups, 0 < group.2.length := by
    intro group mem
    obtain ⟨k, known, rfl⟩ := List.mem_map.mp (perm.mem_iff.mp mem)
    obtain ⟨row, there, same⟩ := List.mem_map.mp (List.mem_dedup.mp known)
    exact List.length_pos_of_mem (List.mem_filter.mpr ⟨there, by simpa using same⟩)
  have whole : (groups.map fun group => group.2.length).sum = rows.length :=
    (perm.map _).sum_eq.trans (sum_length_groupBy rows)
  rw [← length_groupBy, ← perm.length_eq, ← List.drop_eq_nil_iff, ← whole]
  conv_lhs => rhs; rw [← List.take_append_drop limit groups]
  rw [List.map_append, List.sum_append]
  cases last : groups.drop limit with
  | nil => simp
  | cons group rest =>
    have positive := some group (List.mem_of_mem_drop (by rw [last]; exact List.mem_cons_self))
    simp only [List.map_cons, List.sum_cons, reduceCtorEq, iff_false]
    omega

theorem map_fst_leftJoin {table : List β} {matches_ : α → β → Bool}
    (single : ∀ row, (table.filter (matches_ row)).length ≤ 1) (rows : List α) :
    (leftJoin rows table matches_).map Prod.fst = rows := by
  induction rows with
  | nil => rfl
  | cons row rest ih =>
    rw [leftJoin, List.flatMap_cons, List.map_append, ← leftJoin, ih]
    have few := single row
    cases found : table.filter (matches_ row) with
    | nil => rfl
    | cons other more =>
      rw [found] at few
      rw [List.eq_nil_of_length_eq_zero (Nat.le_zero.mp (Nat.le_of_succ_le_succ few))]
      rfl

end Grouping
