import Mathlib.Logic.Function.Defs

/-!
Enumerations stored as text: every value has its own text, and a text read back
is the value it was written for, or nothing.
-/

class TextEnum (α : Type) where
  value : α → String
  all : List α
  complete : ∀ a, a ∈ all
  injective : Function.Injective value

namespace TextEnum

variable {α : Type} [TextEnum α]

def parse (text : String) : Option α := (all : List α).find? fun a => value a == text

theorem value_of_parse {text : String} {a : α} (read : parse text = some a) : value a = text := by
  have same : (value a == text) = true := @List.find?_some _ (fun b => value b == text) _ _ read
  exact beq_iff_eq.mp same

@[simp] theorem parse_value (a : α) : parse (value a) = some a := by
  have found : (parse (value a) : Option α).isSome := by
    apply List.find?_isSome.mpr
    exact ⟨a, complete a, beq_self_eq_true _⟩
  obtain ⟨b, read⟩ := Option.isSome_iff_exists.mp found
  rw [read, injective (value_of_parse read)]

end TextEnum
