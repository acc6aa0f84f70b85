import AgentHive.Process.Machine

/-!
Machines that assign a value to a key: the one a row of theirs has, or a new one.

All values assigned to a key are the same exactly when no step passes over a row of its key.
-/

namespace Process
namespace Machine

variable {σ ι κ ν : Type}

def assigned (m : Machine σ ι (Option (κ × ν))) : σ → List ι → List (κ × ν)
  | _, [] => []
  | s, i :: rest => (m.step s i).1.toList ++ m.assigned (m.next s i) rest

def Functional (entries : List (κ × ν)) : Prop :=
  ∀ a ∈ entries, ∀ b ∈ entries, a.1 = b.1 → a.2 = b.2

theorem Functional.mono {entries entries' : List (κ × ν)} (functional : Functional entries)
    (sub : entries' ⊆ entries) : Functional entries' :=
  fun a mem b mem' same => functional a (sub mem) b (sub mem') same

def Assigns (m : Machine σ ι (Option (κ × ν))) (rows : σ → List (κ × ν)) (s : σ) (i : ι) : Prop :=
  match (m.step s i).1 with
  | none => rows (m.next s i) = rows s
  | some e => (e ∈ rows s ∧ rows (m.next s i) = rows s) ∨ rows (m.next s i) = rows s ++ [e]

/-- What a step assigns agrees with the rows of its key. -/
def Agrees (m : Machine σ ι (Option (κ × ν))) (rows : σ → List (κ × ν)) (s : σ) (i : ι) : Prop :=
  ∀ e, (m.step s i).1 = some e → ∀ w, (e.1, w) ∈ rows s → w = e.2

variable {m : Machine σ ι (Option (κ × ν))} {rows : σ → List (κ × ν)} {s : σ} {i : ι}

theorem Assigns.rows_sub (assigns : m.Assigns rows s i) :
    rows (m.next s i) ⊆ rows s ++ (m.step s i).1.toList := by
  unfold Assigns at assigns
  split at assigns
  · rename_i nothing
    rw [assigns, nothing]
    exact List.subset_append_left _ _
  · rename_i e something
    rw [something]
    obtain ⟨_, same⟩ | added := assigns
    · rw [same]
      exact List.subset_append_left _ _
    · rw [added]
      exact List.Subset.refl _

theorem Assigns.sub_rows (assigns : m.Assigns rows s i) :
    rows s ++ (m.step s i).1.toList ⊆ rows (m.next s i) := by
  unfold Assigns at assigns
  split at assigns
  · rename_i nothing
    rw [assigns, nothing]
    exact List.append_subset.mpr ⟨List.Subset.refl _, List.nil_subset _⟩
  · rename_i e something
    rw [something]
    obtain ⟨there, same⟩ | added := assigns
    · rw [same]
      refine List.append_subset.mpr ⟨List.Subset.refl _, ?_⟩
      exact List.cons_subset.mpr ⟨there, List.nil_subset _⟩
    · rw [added]
      exact List.Subset.refl _

theorem Assigns.functional (assigns : m.Assigns rows s i) (agrees : m.Agrees rows s i)
    (functional : Functional (rows s)) : Functional (rows (m.next s i)) := by
  apply Functional.mono _ assigns.rows_sub
  intro a mem b mem' same
  have apart : ∀ a ∈ rows s, ∀ b, (m.step s i).1 = some b → a.1 = b.1 → a.2 = b.2 := by
    intro a old b new same
    have row : (b.1, a.2) ∈ rows s := by
      rw [← same]
      exact old
    exact agrees b new a.2 row
  cases List.mem_append.mp mem with
  | inl old =>
    cases List.mem_append.mp mem' with
    | inl old' => exact functional a old b old' same
    | inr new' => exact apart a old b (Option.mem_toList.mp new') same
  | inr new =>
    cases List.mem_append.mp mem' with
    | inl old' => exact (apart b old' a (Option.mem_toList.mp new) same.symm).symm
    | inr new' =>
      have both := (Option.mem_toList.mp new).symm.trans (Option.mem_toList.mp new')
      rw [Option.some.inj both]

section Runs

variable {P : σ → Prop} {ok good : σ → ι → Prop}
variable (assigns : ∀ s i, P s → ok s i → m.Assigns rows s i)
variable (kept : ∀ s i, P s → ok s i → P (m.next s i))
variable (agree : ∀ s i, P s → ok s i → Functional (rows s) → (m.Agrees rows s i ↔ good s i))

include assigns kept agree

theorem along_of_functional {inputs : List ι} {earlier : List (κ × ν)} (holds : P s)
    (along : m.Along ok s inputs) (listed : rows s ⊆ earlier)
    (functional : Functional (earlier ++ m.assigned s inputs)) : m.Along good s inputs := by
  induction inputs generalizing s earlier with
  | nil => trivial
  | cons i rest ih =>
    have sub : rows s ⊆ earlier ++ m.assigned s (i :: rest) :=
      fun e mem => List.mem_append_left _ (listed mem)
    refine ⟨(agree s i holds along.1 (functional.mono sub)).mp ?_, ?_⟩
    · intro e something w row
      have new : e ∈ earlier ++ m.assigned s (i :: rest) := by
        refine List.mem_append_right _ (List.mem_append_left _ ?_)
        exact Option.mem_toList.mpr something
      exact functional (e.1, w) (sub row) e new rfl
    · have grown : rows (m.next s i) ⊆ earlier ++ (m.step s i).1.toList := by
        intro e mem
        cases List.mem_append.mp ((assigns s i holds along.1).rows_sub mem) with
        | inl old => exact List.mem_append_left _ (listed old)
        | inr new => exact List.mem_append_right _ new
      apply ih (kept s i holds along.1) along.2 grown
      rw [List.append_assoc]
      exact functional

theorem functional_of_along {inputs : List ι} (holds : P s) (along : m.Along ok s inputs)
    (functional : Functional (rows s)) (agreed : m.Along good s inputs) :
    Functional (rows (m.after s inputs)) ∧
      rows s ++ m.assigned s inputs ⊆ rows (m.after s inputs) := by
  induction inputs generalizing s with
  | nil =>
    refine ⟨functional, ?_⟩
    rw [assigned, List.append_nil]
    exact List.Subset.refl _
  | cons i rest ih =>
    have here := assigns s i holds along.1
    have agrees := (agree s i holds along.1 functional).mpr agreed.1
    obtain ⟨single, sub⟩ := ih (kept s i holds along.1) along.2 (here.functional agrees functional)
      agreed.2
    refine ⟨single, ?_⟩
    rw [assigned, ← List.append_assoc]
    intro e mem
    apply sub
    cases List.mem_append.mp mem with
    | inl before => exact List.mem_append_left _ (here.sub_rows before)
    | inr later => exact List.mem_append_right _ later

theorem functional_iff_along {inputs : List ι} (holds : P s) (along : m.Along ok s inputs)
    (empty : rows s = []) :
    (Functional (m.assigned s inputs) ∧ Functional (rows (m.after s inputs))) ↔
      m.Along good s inputs := by
  constructor
  · intro both
    apply along_of_functional assigns kept agree holds along (List.Subset.refl (rows s))
    rw [empty]
    exact both.1
  · intro agreed
    have none : Functional (rows s) := by
      rw [empty]
      exact fun a mem => absurd mem List.not_mem_nil
    obtain ⟨single, sub⟩ := functional_of_along assigns kept agree holds along none agreed
    exact ⟨single.mono fun e mem => sub (List.mem_append_right _ mem), single⟩

end Runs

end Machine
end Process
