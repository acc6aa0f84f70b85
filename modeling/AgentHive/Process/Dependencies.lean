import Mathlib.Data.Set.Insert

/-!
Items that need other items. An item is present or not, a present one may be
enabled, and both sets are to be closed under what their items need.
-/

namespace Process

structure Supplied {κ : Type} (needs : κ → κ → Prop) (enabled present : Set κ) : Prop where
  enabled_present : enabled ⊆ present
  enabled_needs : ∀ a ∈ enabled, ∀ b, needs a b → b ∈ enabled
  present_needs : ∀ a ∈ present, ∀ b, needs a b → b ∈ present

namespace Supplied

variable {κ : Type} {needs : κ → κ → Prop} {enabled present : Set κ} {item : κ}

theorem empty : Supplied needs ∅ ∅ where
  enabled_present := Set.Subset.rfl
  enabled_needs := by intro a mem; cases mem
  present_needs := by intro a mem; cases mem

variable (supplied : Supplied needs enabled present)

include supplied

theorem install
    (ready : ∀ b, needs item b → b ∈ present) : Supplied needs enabled (insert item present) where
  enabled_present := supplied.enabled_present.trans (Set.subset_insert _ _)
  enabled_needs := supplied.enabled_needs
  present_needs := by
    intro a mem b need
    rcases Set.mem_insert_iff.mp mem with same | old
    · subst same
      exact Set.mem_insert_of_mem _ (ready b need)
    · exact Set.mem_insert_of_mem _ (supplied.present_needs a old b need)

theorem enable (ready : ∀ b, needs item b → b ∈ enabled) :
    Supplied needs (insert item enabled) (insert item present) where
  enabled_present := Set.insert_subset_insert supplied.enabled_present
  enabled_needs := by
    intro a mem b need
    rcases Set.mem_insert_iff.mp mem with same | old
    · subst same
      exact Set.mem_insert_of_mem _ (ready b need)
    · exact Set.mem_insert_of_mem _ (supplied.enabled_needs a old b need)
  present_needs :=
    (supplied.install fun b need => supplied.enabled_present (ready b need)).present_needs

/-- An item is disabled while no enabled item needs it. -/
theorem disable (unused : ∀ a ∈ enabled, ¬ needs a item)
    (ready : item ∈ present ∨ ∀ b, needs item b → b ∈ present) :
    Supplied needs (enabled \ {item}) (insert item present) where
  enabled_present := by
    intro a mem
    exact Set.mem_insert_of_mem _ (supplied.enabled_present mem.1)
  enabled_needs := by
    intro a mem b need
    refine ⟨supplied.enabled_needs a mem.1 b need, ?_⟩
    intro same
    rw [Set.mem_singleton_iff.mp same] at need
    exact unused a mem.1 need
  present_needs := by
    rcases ready with known | ready
    · rw [Set.insert_eq_of_mem known]
      exact supplied.present_needs
    · exact (supplied.install ready).present_needs

end Supplied
end Process
