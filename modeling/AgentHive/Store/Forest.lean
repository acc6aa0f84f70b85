import Mathlib.Algebra.GroupWithZero.Nat
import Mathlib.Algebra.BigOperators.Group.List.Basic
import Mathlib.Data.List.Nodup
import Mathlib.Data.List.Perm.Basic
import Mathlib.Logic.Relation

/-!
Rows that name a parent row, and the forest grown from them.

A table of such rows is rooted when every parent is there and the parents of a row
come to an end. The forest grown from a rooted table has each of its rows once.
-/

namespace Forest

inductive Tree (α : Type)
  | node (value : α) (children : List (Tree α))

variable {α κ : Type}

def Tree.value : Tree α → α
  | .node value _ => value

mutual

def Tree.flatten : Tree α → List α
  | .node value children => value :: flattenAll children

def flattenAll : List (Tree α) → List α
  | [] => []
  | tree :: rest => tree.flatten ++ flattenAll rest

end

def grow (children : α → List α) : Nat → α → Tree α
  | 0, a => .node a []
  | fuel + 1, a => .node a ((children a).map (grow children fuel))

inductive Tree.Linked (linked : α → α → Prop) : Tree α → Prop
  | node {value : α} {children : List (Tree α)}
      (here : ∀ child ∈ children, linked value child.value)
      (below : ∀ child ∈ children, child.Linked linked) : Tree.Linked linked (.node value children)

theorem value_grow (children : α → List α) (fuel : Nat) (a : α) :
    (grow children fuel a).value = a := by
  cases fuel with
  | zero => rfl
  | succ fuel => rfl

theorem flattenAll_map {β : Type} (f : β → Tree α) (items : List β) :
    flattenAll (items.map f) = items.flatMap fun b => (f b).flatten := by
  induction items with
  | nil => rfl
  | cons b rest ih => rw [List.map_cons, flattenAll, ih, List.flatMap_cons]

theorem flatten_grow_succ (children : α → List α) (fuel : Nat) (a : α) :
    (grow children (fuel + 1) a).flatten =
      a :: (children a).flatMap fun c => (grow children fuel c).flatten := by
  rw [grow, Tree.flatten, flattenAll_map]

theorem linked_grow {linked : α → α → Prop} {children : α → List α}
    (each : ∀ a, ∀ c ∈ children a, linked a c) (fuel : Nat) (a : α) :
    (grow children fuel a).Linked linked := by
  induction fuel generalizing a with
  | zero => exact .node (by simp) (by simp)
  | succ fuel ih =>
    refine .node ?_ ?_
    · intro child mem
      obtain ⟨c, listed, same⟩ := List.mem_map.mp mem
      rw [← same, value_grow]
      exact each a c listed
    · intro child mem
      obtain ⟨c, _, same⟩ := List.mem_map.mp mem
      rw [← same]
      exact ih c

variable (key : α → κ) (parent : α → Option κ)

structure Rooted (rows : List α) : Prop where
  distinct : (rows.map key).Nodup
  closed : ∀ row ∈ rows, ∀ k, parent row = some k → k ∈ rows.map key
  ranked : ∃ depth : κ → Nat, ∀ row ∈ rows, ∀ k, parent row = some k → depth k < depth (key row)

def Below (rows : List α) : κ → κ → Prop :=
  Relation.TransGen fun a b => ∃ row ∈ rows, key row = a ∧ parent row = some b

variable {key parent} {rows : List α}

theorem Rooted.nil : Rooted key parent [] where
  distinct := List.nodup_nil
  closed := nofun
  ranked := ⟨fun _ => 0, nofun⟩

section

variable (rooted : Rooted key parent rows)

include rooted

theorem Rooted.eq_of_key {a b : α} (mem : a ∈ rows)
    (also : b ∈ rows) (same : key a = key b) : a = b :=
  List.inj_on_of_nodup_map rooted.distinct mem also same

theorem Rooted.perm {sorted : List α}
    (perm : sorted.Perm rows) : Rooted key parent sorted where
  distinct := (perm.map key).nodup_iff.mpr rooted.distinct
  closed := by
    intro row mem k named
    exact (perm.map key).mem_iff.mpr (rooted.closed row (perm.mem_iff.mp mem) k named)
  ranked := by
    obtain ⟨depth, less⟩ := rooted.ranked
    exact ⟨depth, fun row mem => less row (perm.mem_iff.mp mem)⟩

theorem Rooted.not_below_self (k : κ) :
    ¬ Below key parent rows k k := by
  obtain ⟨depth, less⟩ := rooted.ranked
  have shallower : ∀ a b, Below key parent rows a b → depth b < depth a := by
    intro a b below
    induction below with
    | single edge =>
      obtain ⟨row, mem, same, named⟩ := edge
      exact same ▸ less row mem _ named
    | tail _ edge ih =>
      obtain ⟨row, mem, same, named⟩ := edge
      exact Nat.lt_trans (same ▸ less row mem _ named) ih
  exact fun below => Nat.lt_irrefl _ (shallower k k below)

theorem Rooted.insert [DecidableEq κ] {row : α}
    (fresh : key row ∉ rows.map key) (known : ∀ k, parent row = some k → k ∈ rows.map key) :
    Rooted key parent (rows ++ [row]) := by
  refine ⟨?_, ?_, ?_⟩
  · rw [List.map_append, List.map_singleton, ← List.concat_eq_append]
    exact rooted.distinct.concat fresh
  · intro other mem k named
    rw [List.map_append]
    refine List.mem_append_left _ ?_
    rcases List.mem_append.mp mem with old | new
    · exact rooted.closed other old k named
    · rw [List.mem_singleton.mp new] at named
      exact known k named
  · obtain ⟨depth, less⟩ := rooted.ranked
    let top := ((parent row).map depth).getD 0 + 1
    refine ⟨fun k => if k = key row then top else depth k, ?_⟩
    intro other mem k named
    have isOld : k ≠ key row := by
      intro same
      rcases List.mem_append.mp mem with old | new
      · exact fresh (same ▸ rooted.closed other old k named)
      · rw [List.mem_singleton.mp new] at named
        exact fresh (same ▸ known k named)
    rcases List.mem_append.mp mem with old | new
    · have otherOld : key other ≠ key row := fun same => fresh (same ▸ List.mem_map_of_mem old)
      simp only [if_neg isOld, if_neg otherOld]
      exact less other old k named
    · rw [List.mem_singleton.mp new] at named ⊢
      simp only [if_neg isOld, if_true, top, named, Option.map_some, Option.getD_some]
      exact Nat.lt_succ_self _

theorem Rooted.remove [DecidableEq κ] {k : κ}
    (unused : ∀ row ∈ rows, parent row ≠ some k) :
    Rooted key parent (rows.filter fun row => key row ≠ k) := by
  refine ⟨rooted.distinct.sublist (List.filter_sublist.map key), ?_, ?_⟩
  · intro row mem l named
    have listed := (List.mem_filter.mp mem).1
    obtain ⟨over_, there, same⟩ := List.mem_map.mp (rooted.closed row listed l named)
    refine List.mem_map.mpr ⟨over_, List.mem_filter.mpr ⟨there, ?_⟩, same⟩
    have other : key over_ ≠ k := by
      intro isK
      rw [← same, isK] at named
      exact unused row listed named
    simpa using other
  · obtain ⟨depth, less⟩ := rooted.ranked
    exact ⟨depth, fun row mem => less row (List.mem_filter.mp mem).1⟩

theorem Rooted.move [DecidableEq κ] {k : κ} {change : α → α}
    (sameKey : ∀ row, key (change row) = key row)
    (known : ∀ row ∈ rows, key row = k → ∀ l, parent (change row) = some l →
      l ∈ rows.map key ∧ l ≠ k ∧ ¬ Below key parent rows l k) :
    Rooted key parent (rows.map fun row => if key row = k then change row else row) := by
  have keys : (rows.map fun row => if key row = k then change row else row).map key =
      rows.map key := by
    rw [List.map_map]
    refine List.map_congr_left fun row _ => ?_
    rw [Function.comp_apply]
    split
    · exact sameKey row
    · rfl
  refine ⟨?_, ?_, ?_⟩
  · rw [keys]
    exact rooted.distinct
  · intro row mem l named
    obtain ⟨old, listed, same⟩ := List.mem_map.mp mem
    rw [keys]
    split at same
    · rename_i here
      rw [← same] at named
      exact (known old listed here l named).1
    · rw [← same] at named
      exact rooted.closed old listed l named
  · -- What is moved, with all that is below it, is put under its new parent.
    classical
    obtain ⟨depth, less⟩ := rooted.ranked
    obtain ⟨lift, enough⟩ : ∃ lift, ∀ row ∈ rows, key row = k → ∀ l,
        parent (change row) = some l → depth l < lift := by
      by_cases there : ∃ row ∈ rows, key row = k
      · obtain ⟨row, mem, here⟩ := there
        refine ⟨((parent (change row)).map depth).getD 0 + 1, ?_⟩
        intro other listed also l named
        rw [rooted.eq_of_key mem listed (here.trans also.symm), named]
        exact Nat.lt_succ_self _
      · exact ⟨0, fun row mem here => absurd ⟨row, mem, here⟩ there⟩
    let moved (l : κ) : Prop := l = k ∨ Below key parent rows l k
    refine ⟨fun l => if moved l then depth l + lift else depth l, ?_⟩
    intro row mem l named
    obtain ⟨old, listed, same⟩ := List.mem_map.mp mem
    split at same
    · rename_i here
      rw [← same] at named ⊢
      obtain ⟨_, other, notBelow⟩ := known old listed here l named
      have stays : ¬ moved l := by
        intro h
        rcases h with isK | below
        · exact other isK
        · exact notBelow below
      have goes : moved (key (change old)) := .inl ((sameKey old).trans here)
      simp only [if_neg stays, if_pos goes]
      have room := enough old listed here l named
      omega
    · rename_i elsewhere
      rw [← same] at named ⊢
      have shallower := less old listed l named
      have edge : Below key parent rows (key old) l := .single ⟨old, listed, rfl, named⟩
      by_cases goes : moved l
      · have alsoGoes : moved (key old) := by
          rcases goes with isK | below
          · exact .inr (isK ▸ edge)
          · exact .inr (edge.trans below)
        simp only [if_pos goes, if_pos alsoGoes]
        omega
      · have stays : ¬ moved (key old) := by
          intro h
          rcases h with isK | below
          · exact elsewhere isK
          · obtain ⟨above, ⟨row', mem', sameKey', named'⟩, rest⟩ :=
              Relation.TransGen.head'_iff.mp below
            have sameRow := rooted.eq_of_key mem' listed sameKey'
            rw [sameRow, named] at named'
            cases named'
            rcases Relation.reflTransGen_iff_eq_or_transGen.mp rest with isK | further
            · exact goes (.inl isK.symm)
            · exact goes (.inr further)
        simp only [if_neg goes, if_neg stays]
        exact shallower

end

def deeper (depth : κ → Nat) (key : α → κ) (rows : List α) (a : α) : Nat :=
  rows.countP fun c => depth (key a) < depth (key c)

theorem deeper_lt {depth : κ → Nat} {a c : α} (mem : c ∈ rows)
    (less : depth (key a) < depth (key c)) : deeper depth key rows c < deeper depth key rows a := by
  have further : ∀ items : List α,
      items.countP (fun d => decide (depth (key c) < depth (key d))) ≤
        items.countP fun d => decide (depth (key a) < depth (key d)) := by
    intro items
    refine List.countP_mono_left fun d _ deep => ?_
    exact decide_eq_true (Nat.lt_trans less (of_decide_eq_true deep))
  obtain ⟨before, after, split⟩ := List.append_of_mem mem
  have first := further before
  have second := further after
  simp only [deeper, split, List.countP_append, List.countP_cons, decide_eq_true_eq,
    Nat.lt_irrefl, less, if_true, if_false]
  omega

section Complete

variable [DecidableEq α] [DecidableEq κ]

structure Lists (key : α → κ) (parent : α → Option κ) (rows : List α) (children : α → List α)
    (roots : List α) : Prop where
  children : ∀ a ∈ rows, (children a).Perm (rows.filter fun c => parent c = some (key a))
  roots : roots.Perm (rows.filter fun c => ∀ k ∈ parent c, k ∉ rows.map key)

variable {children : α → List α} {roots : List α}

theorem sum_count {f g : α → Nat} {x : α} {items : List α}
    (each : ∀ c ∈ items, f c = (if c = x then 1 else 0) + g c) :
    (items.map f).sum = items.count x + (items.map g).sum := by
  induction items with
  | nil => rfl
  | cons c rest ih =>
    obtain ⟨here, later⟩ := List.forall_mem_cons.mp each
    simp only [List.map_cons, List.sum_cons, List.count_cons, here, ih later, beq_iff_eq]
    omega

omit [DecidableEq κ] in
theorem Rooted.count_row (rooted : Rooted key parent rows) {x : α} (mem : x ∈ rows)
    (p : α → Bool) : (rows.filter p).count x = if p x then 1 else 0 := by
  split
  · rename_i kept
    rw [List.count_filter kept]
    exact List.count_eq_one_of_mem (.of_map key rooted.distinct) mem
  · rename_i dropped
    refine List.count_eq_zero_of_not_mem fun there => ?_
    exact dropped (List.mem_filter.mp there).2

omit [DecidableEq α] in
theorem mem_of_mem_children (lists : Lists key parent rows children roots) {a c : α}
    (mem : a ∈ rows) (child : c ∈ children a) : c ∈ rows ∧ parent c = some (key a) := by
  have listed := List.mem_filter.mp ((lists.children a mem).mem_iff.mp child)
  exact ⟨listed.1, of_decide_eq_true listed.2⟩

def countOf (value : Option α) (items : List α) : Nat := value.elim 0 fun a => items.count a

theorem countOf_cons (value : Option α) (a : α) (items : List α) :
    countOf value (a :: items) = countOf value items + if value = some a then 1 else 0 := by
  cases value with
  | none => rfl
  | some b =>
    simp only [countOf, Option.elim_some, List.count_cons, Option.some.injEq, beq_iff_eq]
    by_cases same : a = b
    · rw [if_pos same, if_pos same.symm]
    · rw [if_neg same, if_neg fun other => same other.symm]

theorem countOf_flatMap (value : Option α) (f : α → List α) (items : List α) :
    countOf value (items.flatMap f) = (items.map fun c => countOf value (f c)).sum := by
  cases value with
  | none => simp [countOf]
  | some b => exact List.count_flatMap

theorem count_flatten (rooted : Rooted key parent rows)
    (lists : Lists key parent rows children roots) {depth : κ → Nat}
    (less : ∀ row ∈ rows, ∀ k, parent row = some k → depth k < depth (key row)) {x : α}
    (mem : x ∈ rows) {above : Option α}
    (under : ∀ a ∈ rows, above = some a ↔ parent x = some (key a)) (fuel : Nat) {a : α}
    (row : a ∈ rows) (enough : deeper depth key rows a ≤ fuel) :
    (grow children fuel a).flatten.count x =
      (if a = x then 1 else 0) + countOf above (grow children fuel a).flatten := by
  have child : (children a).count x = if above = some a then 1 else 0 := by
    rw [(lists.children a row).count_eq, rooted.count_row mem]
    simp only [under a row, decide_eq_true_eq]
  induction fuel generalizing a with
  | zero =>
    -- Without fuel there is nothing below the row.
    have none_ : above ≠ some a := by
      intro isParent
      have shallower := deeper_lt mem (less x mem (key a) ((under a row).mp isParent))
      omega
    simp only [grow, Tree.flatten, flattenAll, countOf_cons, if_neg none_, List.count_cons,
      List.count_nil, beq_iff_eq]
    cases above with
    | none => simp [countOf]
    | some b => simp [countOf]
  | succ fuel ih =>
    have each : ∀ c ∈ children a, (grow children fuel c).flatten.count x =
        (if c = x then 1 else 0) + countOf above (grow children fuel c).flatten := by
      intro c listed
      obtain ⟨known, named⟩ := mem_of_mem_children lists row listed
      have shallower := deeper_lt known (less c known (key a) named)
      refine ih known (by omega) ?_
      rw [(lists.children c known).count_eq, rooted.count_row mem]
      simp only [under c known, decide_eq_true_eq]
    rw [flatten_grow_succ, List.count_cons, countOf_cons, List.count_flatMap, countOf_flatMap]
    simp only [Function.comp_def, sum_count each, child, beq_iff_eq]
    omega

omit [DecidableEq α] in
theorem mem_flatten (lists : Lists key parent rows children roots) (fuel : Nat) {a x : α}
    (row : a ∈ rows) (mem : x ∈ (grow children fuel a).flatten) : x ∈ rows := by
  induction fuel generalizing a with
  | zero =>
    rw [grow, Tree.flatten, flattenAll, List.mem_singleton] at mem
    exact mem ▸ row
  | succ fuel ih =>
    rw [flatten_grow_succ] at mem
    rcases List.mem_cons.mp mem with same | below
    · exact same ▸ row
    · obtain ⟨c, listed, further⟩ := List.mem_flatMap.mp below
      exact ih (mem_of_mem_children lists row listed).1 further

theorem Rooted.flatten_perm (rooted : Rooted key parent rows)
    (lists : Lists key parent rows children roots) :
    (flattenAll (roots.map (grow children rows.length))).Perm rows := by
  obtain ⟨depth, less⟩ := rooted.ranked
  have top : ∀ a ∈ roots, a ∈ rows := fun a mem =>
    (List.mem_filter.mp (lists.roots.mem_iff.mp mem)).1
  have counted : ∀ x ∈ rows, ∀ above : Option α,
      (∀ a ∈ rows, above = some a ↔ parent x = some (key a)) →
      (flattenAll (roots.map (grow children rows.length))).count x =
        roots.count x +
          countOf above (flattenAll (roots.map (grow children rows.length))) := by
    intro x mem above under
    have each : ∀ a ∈ roots, (grow children rows.length a).flatten.count x =
        (if a = x then 1 else 0) + countOf above (grow children rows.length a).flatten :=
      fun a listed => count_flatten rooted lists less mem under rows.length (top a listed)
        List.countP_le_length
    rw [flattenAll_map, List.count_flatMap, countOf_flatMap]
    simp only [Function.comp_def, sum_count each]
  have once : ∀ n, ∀ x ∈ rows, depth (key x) < n →
      (flattenAll (roots.map (grow children rows.length))).count x = 1 := by
    intro n
    induction n with
    | zero => exact fun x _ bound => absurd bound (Nat.not_lt_zero _)
    | succ n ih =>
      intro x mem bound
      have rootCount : roots.count x = if ∀ k ∈ parent x, k ∉ rows.map key then 1 else 0 := by
        rw [lists.roots.count_eq, rooted.count_row mem]
        simp only [decide_eq_true_eq]
      cases named : parent x with
      | none =>
        rw [counted x mem none (by simp [named]), rootCount, if_pos (by simp [named])]
        rfl
      | some k =>
        have known := rooted.closed x mem k named
        obtain ⟨p, listed, same⟩ := List.mem_map.mp known
        have shallower := less x mem k named
        have under : ∀ a ∈ rows, some p = some a ↔ parent x = some (key a) := by
          intro a row
          rw [named, ← same, Option.some.injEq, Option.some.injEq]
          exact ⟨congrArg key, rooted.eq_of_key listed row⟩
        have inner : ¬ ∀ l ∈ parent x, l ∉ rows.map key :=
          fun absent => absent k named known
        rw [counted x mem (some p) under, rootCount, if_neg inner, Nat.zero_add]
        exact ih p listed (by rw [same]; omega)
  refine List.perm_iff_count.mpr fun x => ?_
  by_cases mem : x ∈ rows
  · rw [once _ x mem (Nat.lt_succ_self _),
      List.count_eq_one_of_mem (.of_map key rooted.distinct) mem]
  · rw [List.count_eq_zero_of_not_mem mem]
    refine List.count_eq_zero_of_not_mem fun listed => mem ?_
    rw [flattenAll_map] at listed
    obtain ⟨a, isRoot, further⟩ := List.mem_flatMap.mp listed
    exact mem_flatten lists rows.length (top a isRoot) further

end Complete

end Forest
