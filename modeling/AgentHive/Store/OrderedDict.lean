import Mathlib.Data.List.Nodup

/-!
Dictionaries that keep their keys in the order of insertion.
-/

@[ext] structure OrderedDict (κ β : Type) where
  entries : List (κ × β)
  distinct : (entries.map Prod.fst).Nodup

namespace OrderedDict

variable {κ β : Type}

def empty : OrderedDict κ β := ⟨[], List.nodup_nil⟩

def keys (d : OrderedDict κ β) : List κ := d.entries.map Prod.fst

def mapValues (d : OrderedDict κ β) (f : κ → β → β) : OrderedDict κ β where
  entries := d.entries.map fun e => (e.1, f e.1 e.2)
  distinct := by simpa [List.map_map, Function.comp_def] using d.distinct

@[simp] theorem keys_mapValues (d : OrderedDict κ β) (f : κ → β → β) :
    (d.mapValues f).keys = d.keys := by
  simp [keys, mapValues, Function.comp_def]

section Lookup

variable [BEq κ] [LawfulBEq κ]

theorem lookup_eq_some {entries : List (κ × β)} (distinct : (entries.map Prod.fst).Nodup) {k : κ}
    {v : β} : entries.lookup k = some v ↔ (k, v) ∈ entries := by
  rw [List.lookup_eq_some_iff]
  constructor
  · intro h
    obtain ⟨front, rest, rfl, _⟩ := h
    exact List.mem_append_right _ (.head _)
  · intro mem
    obtain ⟨front, rest, rfl⟩ := List.append_of_mem mem
    refine ⟨front, rest, rfl, fun e before => bne_iff_ne.mpr fun same => ?_⟩
    rw [List.map_append, List.nodup_append] at distinct
    exact distinct.2.2 e.1 (List.mem_map_of_mem before) k (.head _) same.symm

theorem lookup_of_perm {entries entries' : List (κ × β)}
    (distinct : (entries.map Prod.fst).Nodup) (perm : entries.Perm entries') (k : κ) :
    entries'.lookup k = entries.lookup k := by
  have distinct' : (entries'.map Prod.fst).Nodup := (perm.map Prod.fst).nodup_iff.mp distinct
  ext v
  rw [lookup_eq_some distinct, lookup_eq_some distinct', perm.mem_iff]

end Lookup

variable [DecidableEq κ]

def get (d : OrderedDict κ β) (k : κ) : Option β := d.entries.lookup k

def set (d : OrderedDict κ β) (k : κ) (v : β) : OrderedDict κ β :=
  if new : k ∈ d.keys then d.mapValues fun l w => if l = k then v else w
  else
    { entries := d.entries ++ [(k, v)]
      distinct := by
        rw [List.map_append, List.nodup_append]
        refine ⟨d.distinct, List.nodup_singleton k, ?_⟩
        intro a inKeys b last same
        rw [List.map_singleton, List.mem_singleton] at last
        rw [same, last] at inKeys
        exact new inKeys }

def erase (d : OrderedDict κ β) (k : κ) : OrderedDict κ β where
  entries := d.entries.filter fun e => e.1 ≠ k
  distinct := d.distinct.sublist (List.filter_sublist.map Prod.fst)

@[simp] theorem get_empty (k : κ) : (empty : OrderedDict κ β).get k = none := rfl

private theorem lookup_cons_ite (k a : κ) (b : β) (entries : List (κ × β)) :
    ((a, b) :: entries).lookup k = if k = a then some b else entries.lookup k := by
  by_cases same : k = a
  · simp [same]
  · rw [List.lookup_cons, beq_eq_false_iff_ne.mpr same, if_neg same]

private theorem lookup_map (entries : List (κ × β)) (f : κ → β → β) (k : κ) :
    (entries.map fun e => (e.1, f e.1 e.2)).lookup k = (entries.lookup k).map (f k) := by
  induction entries with
  | nil => rfl
  | cons e rest ih =>
    obtain ⟨a, b⟩ := e
    simp only [List.map_cons, lookup_cons_ite, ih]
    by_cases same : k = a
    · simp [same]
    · simp [same]

private theorem isSome_lookup (entries : List (κ × β)) (k : κ) :
    (entries.lookup k).isSome ↔ k ∈ entries.map Prod.fst := by
  induction entries with
  | nil => simp
  | cons e rest ih =>
    obtain ⟨a, b⟩ := e
    rw [lookup_cons_ite, List.map_cons, List.mem_cons, ← ih]
    by_cases same : k = a
    · simp [same]
    · simp [same]

variable {d : OrderedDict κ β} {k : κ}

theorem mem_keys : k ∈ d.keys ↔ (d.get k).isSome :=
  (isSome_lookup d.entries k).symm

theorem mem_entries_of_get {v : β} (h : d.get k = some v) : (k, v) ∈ d.entries := by
  obtain ⟨entries, distinct⟩ := d
  simp only [get] at h ⊢
  clear distinct
  induction entries with
  | nil => cases h
  | cons e rest ih =>
    obtain ⟨a, b⟩ := e
    rw [lookup_cons_ite] at h
    split at h
    · rename_i same
      cases h
      rw [same]
      exact List.mem_cons_self
    · exact List.mem_cons_of_mem _ (ih h)

theorem get_of_mem_entries {v : β} (mem : (k, v) ∈ d.entries) : d.get k = some v := by
  obtain ⟨entries, distinct⟩ := d
  simp only [get] at mem ⊢
  induction entries with
  | nil => cases mem
  | cons e rest ih =>
    obtain ⟨a, b⟩ := e
    rw [List.map_cons, List.nodup_cons] at distinct
    rw [lookup_cons_ite]
    rcases List.mem_cons.mp mem with first | later
    · cases first
      exact if_pos rfl
    · have other : k ≠ a := by
        intro same
        exact distinct.1 (List.mem_map.mpr ⟨(k, v), later, same⟩)
      rw [if_neg other]
      exact ih distinct.2 later

@[simp] theorem get_mapValues (d : OrderedDict κ β) (f : κ → β → β) (k : κ) :
    (d.mapValues f).get k = (d.get k).map (f k) :=
  lookup_map d.entries f k

theorem get_set (d : OrderedDict κ β) (k : κ) (v : β) (l : κ) :
    (d.set k v).get l = if l = k then some v else d.get l := by
  unfold set
  split
  · rename_i present
    obtain ⟨w, stored⟩ := Option.isSome_iff_exists.mp (mem_keys.mp present)
    rw [get_mapValues]
    by_cases same : l = k
    · simp [same, stored]
    · simp [same]
  · rename_i fresh
    have missing : d.get k = none := by simpa [mem_keys] using fresh
    rw [get, List.lookup_append, lookup_cons_ite]
    by_cases same : l = k
    · simp [same, show d.entries.lookup k = none from missing]
    · simp [same, get]

@[simp] theorem get_set_self (d : OrderedDict κ β) (k : κ) (v : β) : (d.set k v).get k = some v := by
  simp [get_set]

@[simp] theorem get_set_of_ne (d : OrderedDict κ β) {l : κ} (v : β) (other : l ≠ k) :
    (d.set k v).get l = d.get l := by
  simp [get_set, other]

theorem keys_set (d : OrderedDict κ β) (k : κ) (v : β) :
    (d.set k v).keys = if k ∈ d.keys then d.keys else d.keys ++ [k] := by
  by_cases present : k ∈ d.keys
  · simp [set, present]
  · simp only [set, present, dite_false, if_false]
    simp [keys]

theorem entries_set (d : OrderedDict κ β) (k : κ) (v : β) :
    (d.set k v).entries =
      if k ∈ d.keys then d.entries.map fun e => (e.1, if e.1 = k then v else e.2)
      else d.entries ++ [(k, v)] := by
  by_cases present : k ∈ d.keys
  · simp [set, present, mapValues]
  · simp [set, present]

theorem mapValues_set (d : OrderedDict κ β) (f : κ → β → β) (k : κ) (v : β) :
    (d.set k v).mapValues f = (d.mapValues f).set k (f k v) := by
  ext1
  rw [entries_set, keys_mapValues]
  simp only [mapValues, entries_set]
  split
  · rw [List.map_map, List.map_map]
    refine List.map_congr_left fun e _ => ?_
    by_cases same : e.1 = k
    · simp [same]
    · simp [same]
  · rw [List.map_append]
    rfl

theorem get_erase (d : OrderedDict κ β) (k l : κ) :
    (d.erase k).get l = if l = k then none else d.get l := by
  obtain ⟨entries, distinct⟩ := d
  simp only [get, erase]
  clear distinct
  induction entries with
  | nil => simp
  | cons e rest ih =>
    obtain ⟨a, b⟩ := e
    rw [lookup_cons_ite]
    by_cases isKey : a = k
    · rw [List.filter_cons_of_neg (by simpa using isKey), ih]
      by_cases same : l = k
      · simp [same]
      · simp [same, isKey]
    · rw [List.filter_cons_of_pos (by simpa using isKey), lookup_cons_ite, ih]
      by_cases same : l = a
      · simp [same, isKey]
      · simp [same]

def filterKeys (d : OrderedDict κ β) (kept : κ → Bool) : OrderedDict κ β where
  entries := d.entries.filter fun e => kept e.1
  distinct := d.distinct.sublist (List.filter_sublist.map Prod.fst)

theorem get_filterKeys (d : OrderedDict κ β) (kept : κ → Bool) (k : κ) :
    (d.filterKeys kept).get k = if kept k then d.get k else none := by
  obtain ⟨entries, distinct⟩ := d
  simp only [get, filterKeys]
  clear distinct
  induction entries with
  | nil => simp
  | cons e rest ih =>
    obtain ⟨a, b⟩ := e
    rw [lookup_cons_ite]
    by_cases keep : kept a = true
    · rw [List.filter_cons_of_pos (by simpa using keep), lookup_cons_ite, ih]
      by_cases same : k = a
      · simp [same, keep]
      · simp [same]
    · rw [List.filter_cons_of_neg (by simpa using keep), ih]
      by_cases same : k = a
      · simp [same, keep]
      · simp [same]

def setAll (d : OrderedDict κ β) (entries : List (κ × β)) : OrderedDict κ β :=
  entries.foldl (fun d e => d.set e.1 e.2) d

def merge (d other : OrderedDict κ β) : OrderedDict κ β := d.setAll other.entries

def ofEntries (entries : List (κ × β)) : OrderedDict κ β := empty.setAll entries

variable {entries : List (κ × β)}

theorem get_setAll_of_not_mem (d : OrderedDict κ β) (absent : k ∉ entries.map Prod.fst) :
    (d.setAll entries).get k = d.get k := by
  induction entries generalizing d with
  | nil => rfl
  | cons e rest ih =>
    obtain ⟨other, later⟩ := not_or.mp (List.mem_cons.not.mp absent)
    exact (ih (d.set e.1 e.2) later).trans (d.get_set_of_ne e.2 other)

theorem get_setAll (d : OrderedDict κ β) (distinct : (entries.map Prod.fst).Nodup) (k : κ) :
    (d.setAll entries).get k = (entries.lookup k).or (d.get k) := by
  induction entries generalizing d with
  | nil => rfl
  | cons e rest ih =>
    obtain ⟨a, b⟩ := e
    obtain ⟨unlisted, later⟩ := List.nodup_cons.mp distinct
    change ((d.set a b).setAll rest).get k = _
    rw [lookup_cons_ite]
    by_cases same : k = a
    · subst same
      rw [get_setAll_of_not_mem _ unlisted, get_set_self, if_pos rfl]
      rfl
    · rw [ih _ later, get_set_of_ne _ _ same, if_neg same]

theorem entries_setAll (d : OrderedDict κ β)
    (distinct : ((d.entries ++ entries).map Prod.fst).Nodup) :
    (d.setAll entries).entries = d.entries ++ entries := by
  induction entries generalizing d with
  | nil => exact (List.append_nil _).symm
  | cons e rest ih =>
    have new : e.1 ∉ d.keys := by
      rw [List.map_append, List.nodup_append] at distinct
      exact fun inKeys => distinct.2.2 _ inKeys _ (.head _) rfl
    have appended : (d.set e.1 e.2).entries = d.entries ++ [e] := by
      rw [entries_set, if_neg new]
    have parted : (d.set e.1 e.2).entries ++ rest = d.entries ++ e :: rest := by
      rw [appended, List.append_assoc]
      rfl
    exact (ih (d.set e.1 e.2) (by rw [parted]; exact distinct)).trans parted

theorem entries_ofEntries (distinct : (entries.map Prod.fst).Nodup) :
    (ofEntries entries).entries = entries :=
  entries_setAll empty distinct

theorem mem_entries_set {v : β} {e : κ × β} (mem : e ∈ (d.set k v).entries) :
    e ∈ d.entries ∨ e = (k, v) := by
  rw [entries_set] at mem
  split at mem
  next =>
    obtain ⟨old, there, rfl⟩ := List.mem_map.mp mem
    by_cases same : old.1 = k
    · exact .inr (by simp [same])
    · exact .inl (by simpa [same] using there)
  next =>
    cases List.mem_append.mp mem with
    | inl there => exact .inl there
    | inr last => exact .inr (List.mem_singleton.mp last)

theorem mem_entries_setAll {e : κ × β} (mem : e ∈ (d.setAll entries).entries) :
    e ∈ d.entries ∨ e ∈ entries := by
  induction entries generalizing d with
  | nil => exact .inl mem
  | cons first rest ih =>
    cases ih mem with
    | inr later => exact .inr (.tail _ later)
    | inl set =>
      cases mem_entries_set set with
      | inl there => exact .inl there
      | inr new => exact .inr (new ▸ .head _)

theorem get_merge (d other : OrderedDict κ β) (k : κ) :
    (d.merge other).get k = (other.get k).or (d.get k) :=
  d.get_setAll other.distinct k

theorem get_ofEntries (distinct : (entries.map Prod.fst).Nodup) (k : κ) :
    (ofEntries entries).get k = entries.lookup k :=
  (get_setAll empty distinct k).trans (Option.or_none ..)

theorem get_ofEntries_eq_some (distinct : (entries.map Prod.fst).Nodup) {v : β} :
    (ofEntries entries).get k = some v ↔ (k, v) ∈ entries := by
  rw [get_ofEntries distinct]
  change OrderedDict.get ⟨entries, distinct⟩ k = some v ↔ _
  exact ⟨fun found => mem_entries_of_get found, fun mem => get_of_mem_entries mem⟩

theorem get_ofEntries_filter {rows : List β} {key : β → κ} (distinct : (rows.map key).Nodup)
    {p : β → Bool} {v : β} : (ofEntries ((rows.filter p).map fun row => (key row, row))).get k =
      some v ↔ v ∈ rows ∧ p v ∧ key v = k := by
  rw [get_ofEntries_eq_some ?_, List.mem_map]
  · simp only [Prod.mk.injEq, List.mem_filter, ← and_assoc, exists_eq_right]
  · rw [List.map_map]
    exact distinct.sublist (List.filter_sublist.map _)

theorem get_merge_of_not_mem (d : OrderedDict κ β) {other : OrderedDict κ β}
    (absent : k ∉ other.keys) : (d.merge other).get k = d.get k :=
  d.get_setAll_of_not_mem absent

theorem mem_keys_set {l : κ} {v : β} : l ∈ (d.set k v).keys ↔ l = k ∨ l ∈ d.keys := by
  rw [mem_keys, get_set, mem_keys]
  by_cases same : l = k
  · simp [same]
  · simp [same]

theorem mem_keys_setAll : k ∈ (d.setAll entries).keys ↔ k ∈ entries.map Prod.fst ∨ k ∈ d.keys := by
  induction entries generalizing d with
  | nil => simp [setAll]
  | cons e rest ih =>
    change k ∈ ((d.set e.1 e.2).setAll rest).keys ↔ _
    rw [ih, mem_keys_set, List.map_cons, List.mem_cons]
    tauto

theorem mem_keys_merge {other : OrderedDict κ β} :
    k ∈ (d.merge other).keys ↔ k ∈ other.keys ∨ k ∈ d.keys :=
  mem_keys_setAll

theorem mem_keys_ofEntries : k ∈ (ofEntries entries).keys ↔ k ∈ entries.map Prod.fst :=
  mem_keys_setAll.trans (or_iff_left List.not_mem_nil)

end OrderedDict
