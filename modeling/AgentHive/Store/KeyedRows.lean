import Mathlib.Data.List.Nodup

/-!
Lists of rows that carry keys, written by position: which writes leave the rows
of the other keys alone.
-/

namespace KeyedRows

variable {κ β : Type} [DecidableEq κ]

def others (key : κ) (rows : List (κ × β)) : List (κ × β) := rows.filter fun row => row.1 ≠ key

variable {rows : List (κ × β)} {key : κ} {index : Nat}

theorem parts_of_getElem? {α : Type} {rows : List α} {index : Nat} {row : α}
    (there : rows[index]? = some row) :
    ∃ front rest, rows = front ++ row :: rest ∧ front.length = index := by
  obtain ⟨bound, same⟩ := List.getElem?_eq_some_iff.mp there
  refine ⟨rows.take index, rows.drop (index + 1), ?_, List.length_take_of_le (Nat.le_of_lt bound)⟩
  rw [← same, ← List.drop_eq_getElem_cons bound, List.take_append_drop]

theorem others_append (front rest : List (κ × β)) :
    others key (front ++ rest) = others key front ++ others key rest :=
  List.filter_append ..

theorem others_cons_own (value : β) (rest : List (κ × β)) :
    others key ((key, value) :: rest) = others key rest :=
  List.filter_cons_of_neg (by simp)

variable {row : κ × β}

theorem others_cons_other (other : row.1 ≠ key) (rest : List (κ × β)) :
    others key (row :: rest) = row :: others key rest :=
  List.filter_cons_of_pos (by simpa using other)

theorem others_concat_own (value : β) : others key (rows ++ [(key, value)]) = others key rows := by
  rw [others_append, others_cons_own]
  exact List.append_nil _

theorem others_of_not_mem (absent : key ∉ rows.map Prod.fst) : others key rows = rows := by
  refine List.filter_eq_self.mpr fun row mem => ?_
  have other : row.1 ≠ key := fun same => absent (List.mem_map.mpr ⟨row, mem, same⟩)
  simpa using other

omit [DecidableEq κ] in
theorem keys_set (there : rows[index]? = some row) (own : row.1 = key) (value : β) :
    (rows.set index (key, value)).map Prod.fst = rows.map Prod.fst := by
  obtain ⟨front, rest, rfl, rfl⟩ := parts_of_getElem? there
  simp [own]

theorem others_set_own (there : rows[index]? = some row) (own : row.1 = key) (value : β) :
    others key (rows.set index (key, value)) = others key rows := by
  obtain ⟨front, rest, rfl, rfl⟩ := parts_of_getElem? there
  obtain ⟨_, old⟩ := row
  subst own
  rw [List.set_append_right _ _ (Nat.le_refl _), Nat.sub_self, List.set_cons_zero, others_append,
    others_append, others_cons_own, others_cons_own]

theorem others_set_other (there : rows[index]? = some row) (other : row.1 ≠ key) (value : β) :
    others key (rows.set index (key, value)) ≠ others key rows := by
  obtain ⟨front, rest, rfl, rfl⟩ := parts_of_getElem? there
  rw [List.set_append_right _ _ (Nat.le_refl _), Nat.sub_self, List.set_cons_zero, others_append,
    others_append, others_cons_own, others_cons_other other]
  intro same
  have shorter := congrArg List.length (List.append_cancel_left same)
  rw [List.length_cons] at shorter
  omega

theorem filter_set_eq_others {kept : κ × β → Bool} {value : β}
    (distinct : (rows.map Prod.fst).Nodup) (there : rows[index]? = some row) (own : row.1 = key)
    (all : ∀ row ∈ rows, kept row = true) (marked : kept (key, value) = false) :
    (rows.set index (key, value)).filter kept = others key rows := by
  obtain ⟨front, rest, rfl, rfl⟩ := parts_of_getElem? there
  obtain ⟨_, old⟩ := row
  subst own
  rw [List.map_append, List.nodup_append, List.map_cons, List.nodup_cons] at distinct
  obtain ⟨_, ⟨notLater, _⟩, apart⟩ := distinct
  have notEarlier : ∀ k ∈ front.map Prod.fst, k ≠ _ := fun k mem => apart k mem _ (.head _)
  have earlier : front.filter kept = front :=
    List.filter_eq_self.mpr fun row mem => all row (List.mem_append_left _ mem)
  have later : rest.filter kept = rest :=
    List.filter_eq_self.mpr fun row mem => all row (List.mem_append_right _ (.tail _ mem))
  rw [List.set_append_right _ _ (Nat.le_refl _), Nat.sub_self, List.set_cons_zero,
    List.filter_append, List.filter_cons_of_neg (by simp [marked]), earlier, later, others_append,
    others_cons_own, others_of_not_mem notLater,
    others_of_not_mem fun mem => notEarlier _ mem rfl]

end KeyedRows
