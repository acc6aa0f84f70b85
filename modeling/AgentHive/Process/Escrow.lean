import Mathlib.Algebra.Order.BigOperators.Group.Finset
import Mathlib.Data.Fintype.BigOperators
import Mathlib.Tactic.Abel
import Mathlib.Tactic.GCongr

/-!
An escrow account: an amount that is spent, and what each party may still add
to it. A limit is a property of amounts that smaller amounts inherit. Whoever
is given a hold only where the whole account would still be within the limit
cannot bring the account over it.
-/

namespace Process

structure Escrow (ι K : Type) [Zero K] [LE K] where
  spent : K
  held : ι → K
  held_nonneg : ∀ i, 0 ≤ held i

namespace Escrow

variable {ι K : Type} [Fintype ι] [AddCommGroup K]

theorem sum_update [DecidableEq ι] (held : ι → K) (i : ι) (amount : K) :
    ∑ j, Function.update held i amount j = ∑ j, held j - held i + amount := by
  rw [Finset.sum_update_of_mem (Finset.mem_univ i), Finset.sdiff_singleton_eq_erase,
    ← Finset.add_sum_erase _ held (Finset.mem_univ i)]
  abel

section

variable [LE K]

def total (s : Escrow ι K) : K := s.spent + ∑ i, s.held i

inductive Step [DecidableEq ι] (within : K → Prop) : Escrow ι K → Escrow ι K → Prop
  | hold {s s' : Escrow ι K} (i : ι) (amount : K) (free : s.held i = 0)
      (room : within (s.total + amount)) (spent : s'.spent = s.spent)
      (held : s'.held = Function.update s.held i amount) : Step within s s'
  | settle {s s' : Escrow ι K} (i : ι) (covered : s'.spent ≤ s.spent + s.held i)
      (held : s'.held = Function.update s.held i 0) : Step within s s'
  | roll {s s' : Escrow ι K} (less : s'.spent ≤ s.spent) (held : s'.held = s.held) :
      Step within s s'

end

variable [PartialOrder K]

theorem spent_le_total [IsOrderedAddMonoid K] (s : Escrow ι K) : s.spent ≤ s.total :=
  le_add_of_nonneg_right (Finset.sum_nonneg fun i _ => s.held_nonneg i)

variable [DecidableEq ι]

theorem Step.total_within [IsOrderedAddMonoid K] {within : K → Prop} {s s' : Escrow ι K}
    (lower : ∀ {a b}, a ≤ b → within b → within a) (step : Step within s s')
    (h : within s.total) : within s'.total := by
  cases step with
  | hold i amount free room spent held =>
    have total : s'.total = s.total + amount := by
      simp only [Escrow.total, spent, held, sum_update, free]
      abel
    rwa [total]
  | settle i covered held =>
    refine lower ?_ h
    calc s'.total = s'.spent + (∑ j, s.held j - s.held i) := by
          rw [Escrow.total, held, sum_update, add_zero]
      _ ≤ s.spent + s.held i + (∑ j, s.held j - s.held i) := by gcongr
      _ = s.total := by
          rw [Escrow.total]
          abel
  | roll less held =>
    refine lower ?_ h
    simp only [Escrow.total, held]
    gcongr

end Escrow
end Process
