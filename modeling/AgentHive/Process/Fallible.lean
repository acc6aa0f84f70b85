import Mathlib.Logic.Basic

/-!
Computations that may raise: what it means for one of them to have returned.
-/

namespace Process
namespace Fallible

variable {ε α β : Type}

theorem bind_ok {first : Except ε α} {rest : α → Except ε β} {b : β} :
    (first >>= rest) = .ok b ↔ ∃ a, first = .ok a ∧ rest a = .ok b := by
  cases first with
  | error x =>
    constructor
    · intro returned
      cases returned
    · intro h
      obtain ⟨a, eq, _⟩ := h
      cases eq
  | ok a =>
    constructor
    · intro returned
      exact ⟨a, rfl, returned⟩
    · intro h
      obtain ⟨b, eq, returned⟩ := h
      cases eq
      exact returned

theorem guard_ok {refused : Prop} [Decidable refused] {x : ε} {rest : Except ε α} {a : α} :
    (if refused then .error x else rest) = .ok a ↔ ¬ refused ∧ rest = .ok a := by
  by_cases h : refused
  · simp [h]
  · simp [h]

theorem foldlM_keeps {f : β → α → Except ε β} {P : β → Prop} {items : List α} {b b' : β}
    (folded : items.foldlM f b = .ok b')
    (step : ∀ b a b', a ∈ items → f b a = .ok b' → P b → P b') (start : P b) : P b' := by
  induction items generalizing b with
  | nil =>
    cases folded
    exact start
  | cons a items ih =>
    rw [List.foldlM_cons, bind_ok] at folded
    obtain ⟨next, first, rest⟩ := folded
    refine ih rest (fun b a b' mem => step b a b' (List.mem_cons_of_mem _ mem)) ?_
    exact step b a next List.mem_cons_self first start

theorem mapM_ok_iff {f : α → Except ε β} {items : List α} :
    (∃ bs, items.mapM f = .ok bs) ↔ ∀ a ∈ items, ∃ b, f a = .ok b := by
  induction items with
  | nil => exact ⟨fun _ a mem => absurd mem List.not_mem_nil, fun _ => ⟨[], rfl⟩⟩
  | cons a items ih =>
    rw [List.mapM_cons, List.forall_mem_cons, ← ih]
    constructor
    · intro found
      obtain ⟨bs, eq⟩ := found
      obtain ⟨b, first, rest⟩ := bind_ok.mp eq
      obtain ⟨bs', later, _⟩ := bind_ok.mp rest
      exact ⟨⟨b, first⟩, bs', later⟩
    · intro both
      obtain ⟨⟨b, first⟩, bs, later⟩ := both
      refine ⟨b :: bs, ?_⟩
      rw [first, later]
      rfl

theorem map_of_mapM {γ : Type} {f : α → Except ε β} {read : β → γ} {known : α → γ}
    {items : List α} {bs : List β} (mapped : items.mapM f = .ok bs)
    (each : ∀ a b, f a = .ok b → read b = known a) : bs.map read = items.map known := by
  induction items generalizing bs with
  | nil =>
    cases mapped
    rfl
  | cons a items ih =>
    rw [List.mapM_cons] at mapped
    obtain ⟨b, first, rest⟩ := bind_ok.mp mapped
    obtain ⟨bs', later, eq⟩ := bind_ok.mp rest
    cases eq
    rw [List.map_cons, List.map_cons, each a b first, ih later]

theorem exists_of_toBool {first : Except ε α} (returned : first.toBool = true) :
    ∃ a, first = .ok a := by
  cases first with
  | error x => cases returned
  | ok a => exact ⟨a, rfl⟩

end Fallible
end Process
