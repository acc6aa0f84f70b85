import Mathlib.Order.Basic
import Mathlib.Tactic.Tauto

/-!
Machines that answer their inputs one after another, what holds along their
runs, and when two of them give the same answers.
-/

namespace Process

structure Machine (σ ι ο : Type) where
  step : σ → ι → ο × σ

namespace Machine

variable {σ τ ι ο κ : Type}

def next (m : Machine σ ι ο) (s : σ) (i : ι) : σ := (m.step s i).2

def after (m : Machine σ ι ο) (s : σ) (inputs : List ι) : σ := inputs.foldl m.next s

def answer (m : Machine σ ι ο) (s : σ) (inputs : List ι) (i : ι) : ο :=
  (m.step (m.after s inputs) i).1

def Along (m : Machine σ ι ο) (ok : σ → ι → Prop) : σ → List ι → Prop
  | _, [] => True
  | s, i :: rest => ok s i ∧ m.Along ok (m.next s i) rest

instance decidableAlong (m : Machine σ ι ο) (ok : σ → ι → Prop) [∀ s i, Decidable (ok s i)] :
    ∀ s inputs, Decidable (m.Along ok s inputs)
  | _, [] => .isTrue trivial
  | s, i :: rest =>
    have := decidableAlong m ok (m.next s i) rest
    inferInstanceAs (Decidable (_ ∧ _))

variable {m : Machine σ ι ο} {n : Machine τ ι ο} {ok : σ → ι → Prop}

@[simp] theorem after_nil (s : σ) : m.after s [] = s := rfl

@[simp] theorem after_cons (s : σ) (i : ι) (rest : List ι) :
    m.after s (i :: rest) = m.after (m.next s i) rest := rfl

theorem after_append (s : σ) (first second : List ι) :
    m.after s (first ++ second) = m.after (m.after s first) second :=
  List.foldl_append

theorem along_append (s : σ) (first second : List ι) :
    m.Along ok s (first ++ second) ↔
      m.Along ok s first ∧ m.Along ok (m.after s first) second := by
  induction first generalizing s with
  | nil => simp [Along]
  | cons i rest ih => simp [Along, ih, and_assoc]

theorem along_and {also : σ → ι → Prop} (s : σ) (inputs : List ι) :
    m.Along (fun s i => ok s i ∧ also s i) s inputs ↔ m.Along ok s inputs ∧ m.Along also s inputs := by
  induction inputs generalizing s with
  | nil => simp [Along]
  | cons i rest ih =>
    simp only [Along, ih]
    tauto

theorem after_of_step {P : σ → Prop} (step : ∀ s i, P s → P (m.next s i)) {s : σ} (start : P s)
    (inputs : List ι) : P (m.after s inputs) := by
  induction inputs generalizing s with
  | nil => exact start
  | cons i rest ih => exact ih (step s i start)

theorem keeps {P : σ → Prop} (step : ∀ s i, P s → ok s i → P (m.next s i)) {s : σ}
    {inputs : List ι} (start : P s) (along : m.Along ok s inputs) : P (m.after s inputs) := by
  induction inputs generalizing s with
  | nil => exact start
  | cons i rest ih => exact ih (step s i start along.1) along.2

section Timed

variable [Preorder κ] (begins ends : ι → κ)

/-- The inputs come one after the other, the first not before `since`. -/
def InOrder : κ → List ι → Prop
  | _, [] => True
  | since, i :: rest => since ≤ begins i ∧ InOrder (ends i) rest

instance decidableInOrder [DecidableLE κ] : ∀ since inputs,
    Decidable (InOrder begins ends since inputs)
  | _, [] => .isTrue trivial
  | _, i :: rest =>
    have := decidableInOrder (ends i) rest
    inferInstanceAs (Decidable (_ ∧ _))

theorem InOrder.le_last {begins ends : ι → κ} (spans : ∀ i, begins i ≤ ends i) {since : κ}
    {first : List ι} {i : ι} (ordered : InOrder begins ends since (first ++ [i])) :
    since ≤ begins i ∧ ∀ j ∈ first, ends j ≤ begins i := by
  induction first generalizing since with
  | nil => exact ⟨ordered.1, nofun⟩
  | cons j rest ih =>
    have later := ih ordered.2
    refine ⟨(ordered.1.trans (spans j)).trans later.1, ?_⟩
    exact List.forall_mem_cons.mpr later

/-- The second list is the first with silent inputs put in between. -/
inductive Interspersed (silent : ι → Prop) : List ι → List ι → Prop
  | nil : Interspersed silent [] []
  | keep {first second : List ι} (i : ι) (rest : Interspersed silent first second) :
      Interspersed silent (i :: first) (i :: second)
  | insert {first second : List ι} {i : ι} (quiet : silent i)
      (rest : Interspersed silent first second) : Interspersed silent first (i :: second)

variable {begins ends} {R : κ → σ → τ → Prop} {silent : ι → Prop}

theorem related_after
    (step : ∀ {since s t} i, R since s t → since ≤ begins i → ok s i →
      (m.step s i).1 = (n.step t i).1 ∧ R (ends i) (m.next s i) (n.next t i))
    (quiet : ∀ {since s t} i, R since s t → since ≤ begins i → silent i →
      R (ends i) s (n.next t i))
    {since : κ} {s : σ} {t : τ} {first second : List ι} {i : ι}
    (padded : Interspersed silent first second) (related : R since s t)
    (along : m.Along ok s first) (ordered : InOrder begins ends since (second ++ [i])) :
    ∃ now, now ≤ begins i ∧ R now (m.after s first) (n.after t second) := by
  induction padded generalizing since s t with
  | nil => exact ⟨since, ordered.1, related⟩
  | keep j rest ih => exact ih (step j related ordered.1 along.1).2 along.2 ordered.2
  | insert isSilent rest ih => exact ih (quiet _ related ordered.1 isSilent) along ordered.2

theorem answer_eq
    (step : ∀ {since s t} i, R since s t → since ≤ begins i → ok s i →
      (m.step s i).1 = (n.step t i).1 ∧ R (ends i) (m.next s i) (n.next t i))
    (quiet : ∀ {since s t} i, R since s t → since ≤ begins i → silent i →
      R (ends i) s (n.next t i))
    {since : κ} {s : σ} {t : τ} {first second : List ι} {i : ι}
    (padded : Interspersed silent first second) (related : R since s t)
    (along : m.Along ok s (first ++ [i])) (ordered : InOrder begins ends since (second ++ [i])) :
    m.answer s first i = n.answer t second i := by
  obtain ⟨before, last⟩ := (along_append s first [i]).mp along
  obtain ⟨now, le, related⟩ := related_after step quiet padded related before ordered
  exact (step i related le last.1).1

end Timed

end Machine

end Process
