import AgentHive.Store.OrderedDict

/-!
Counters kept in a dictionary, without an entry for a count of zero, and the
entries of a dictionary counted by their values.
-/

namespace OrderedDict

variable {κ β : Type} [DecidableEq κ] (d : OrderedDict κ Nat)

def count (k : κ) : Nat := (d.get k).getD 0

def up (k : κ) : OrderedDict κ Nat := d.set k (d.count k + 1)

def down (k : κ) : OrderedDict κ Nat :=
  if d.count k ≤ 1 then d.erase k else d.set k (d.count k - 1)

def Counts (f : κ → Nat) : Prop :=
  ∀ k, d.get k = if f k = 0 then none else some (f k)

def oneOf (keys : List κ) (k : κ) : Nat := if k ∈ keys then 1 else 0

namespace Counts

variable {d : OrderedDict κ Nat} {f : κ → Nat}

variable (counts : d.Counts f)

include counts

theorem count_eq (k : κ) : d.count k = f k := by
  rw [count, counts k]
  split
  · rename_i zero
    exact zero.symm
  · rfl

omit counts in
theorem empty : (OrderedDict.empty : OrderedDict κ Nat).Counts fun _ => 0 := fun _ => rfl

theorem eq_empty (none : ∀ k, f k = 0) : d = OrderedDict.empty := by
  ext1
  refine List.eq_nil_iff_forall_not_mem.mpr ?_
  intro e mem
  have stored := get_of_mem_entries mem
  rw [counts e.1, if_pos (none e.1)] at stored
  cases stored

theorem up (k : κ) :
    (d.up k).Counts fun l => f l + if l = k then 1 else 0 := by
  intro l
  rw [OrderedDict.up, get_set, counts.count_eq k]
  by_cases same : l = k
  · simp [same]
  · simp [same, counts l]

theorem down (k : κ) :
    (d.down k).Counts fun l => f l - if l = k then 1 else 0 := by
  intro l
  rw [OrderedDict.down, counts.count_eq k]
  by_cases same : l = k
  · subst same
    by_cases last : f l ≤ 1
    · have zero : f l - 1 = 0 := by omega
      simp [last, get_erase, zero]
    · have left : ¬ f l - 1 = 0 := by omega
      simp [last, left]
  · split
    · simp [get_erase, same, counts l]
    · simp [same, counts l]

theorem up_all {keys : List κ} (distinct : keys.Nodup) :
    (keys.foldl OrderedDict.up d).Counts fun l => f l + oneOf keys l := by
  induction keys generalizing d f with
  | nil => simpa [oneOf] using counts
  | cons k rest ih =>
    obtain ⟨new, distinct⟩ := List.nodup_cons.mp distinct
    intro l
    rw [List.foldl_cons, ih (counts.up k) distinct l]
    by_cases same : l = k
    · subst same
      simp [oneOf, new]
    · simp [oneOf, same]

theorem down_all {keys : List κ} (distinct : keys.Nodup) :
    (keys.foldl OrderedDict.down d).Counts fun l => f l - oneOf keys l := by
  induction keys generalizing d f with
  | nil => simpa [oneOf] using counts
  | cons k rest ih =>
    obtain ⟨new, distinct⟩ := List.nodup_cons.mp distinct
    intro l
    rw [List.foldl_cons, ih (counts.down k) distinct l]
    by_cases same : l = k
    · subst same
      simp [oneOf, new]
    · simp [oneOf, same]

end Counts

def countValues (d : OrderedDict κ β) (kind : β → Bool) : Nat :=
  d.entries.countP fun e => kind e.2

def ofKind (kind : β → Bool) (value : Option β) : Nat := if value.any kind then 1 else 0

private theorem perm_others {k : κ} {w : β} {entries : List (κ × β)} (mem : (k, w) ∈ entries)
    (distinct : (entries.map Prod.fst).Nodup) :
    entries.Perm ((k, w) :: entries.filter fun e => e.1 ≠ k) := by
  induction entries with
  | nil => cases mem
  | cons e rest ih =>
    obtain ⟨fresh, distinct⟩ := List.nodup_cons.mp distinct
    have others : ∀ x ∈ rest, x.1 ≠ e.1 :=
      fun x mem same => fresh (List.mem_map.mpr ⟨x, mem, same⟩)
    rcases List.mem_cons.mp mem with first | later
    · subst first
      rw [List.filter_cons_of_neg (by simp), List.filter_eq_self.mpr (by simpa using others)]
    · rw [List.filter_cons_of_pos (by simpa using (others _ later).symm)]
      exact ((ih later distinct).cons e).trans (.swap _ _ _)

theorem countValues_set (d : OrderedDict κ β) (kind : β → Bool) (k : κ) (v : β) :
    (d.set k v).countValues kind + ofKind kind (d.get k) =
      d.countValues kind + ofKind kind (some v) := by
  rw [countValues, countValues, entries_set]
  split
  · rename_i present
    obtain ⟨w, stored⟩ := Option.isSome_iff_exists.mp (mem_keys.mp present)
    rw [stored]
    have perm := perm_others (mem_entries_of_get stored) d.distinct
    have kept : (d.entries.filter fun e => e.1 ≠ k).map (fun e => (e.1, if e.1 = k then v else e.2))
        = d.entries.filter fun e => e.1 ≠ k :=
      (List.map_congr_left fun e mem => by simp_all).trans (List.map_id _)
    rw [(perm.map _).countP_eq, perm.countP_eq, List.map_cons, kept]
    simp [List.countP_cons, ofKind]
    omega
  · rename_i fresh
    have missing : d.get k = none := by simpa [mem_keys] using fresh
    simp [missing, ofKind, List.countP_append, List.countP_cons]

theorem countValues_erase (d : OrderedDict κ β) (kind : β → Bool) (k : κ) :
    (d.erase k).countValues kind + ofKind kind (d.get k) = d.countValues kind := by
  rw [countValues, countValues]
  change (d.entries.filter _).countP _ + _ = _
  cases stored : d.get k with
  | none =>
    have kept : d.entries.filter (fun e => e.1 ≠ k) = d.entries := by
      refine List.filter_eq_self.mpr fun e mem => ?_
      have other : e.1 ≠ k := by
        intro same
        rw [← same, get_of_mem_entries mem] at stored
        cases stored
      simpa using other
    rw [kept]
    rfl
  | some v =>
    rw [(perm_others (mem_entries_of_get stored) d.distinct).countP_eq, List.countP_cons]
    simp [ofKind]

end OrderedDict
