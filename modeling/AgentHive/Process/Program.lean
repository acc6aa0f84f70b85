import Mathlib.Data.List.Basic

/-!
Programs that interact with an environment through calls.

A program is the tree of everything an asynchronous function may do: it either
returns, or issues a call and continues on whichever answer the environment
gives. A run is one path through the tree, recorded as the list of its calls
with their answers. Nothing is assumed about the answers, so a statement about
every run is a statement about every behaviour of the environment. A monitor
keeps a state along a run, in which each of its calls is looked at.
-/

namespace Process

inductive Program (E : Type) (R : E → Type) (α : Type) where
  | ret (a : α)
  | call (e : E) (k : R e → Program E R α)

abbrev Event (E : Type) (R : E → Type) := (e : E) × R e

namespace Program

variable {E : Type} {R : E → Type} {α β γ : Type}

def bind : Program E R α → (α → Program E R β) → Program E R β
  | .ret a, f => f a
  | .call e k, f => .call e fun r => (k r).bind f

def returned : Program E R α → Option α
  | .ret a => some a
  | .call _ _ => none

variable {p : Program E R α}

theorem eq_ret_of_returned {a : α} (h : p.returned = some a) : p = .ret a := by
  cases p with
  | ret b => exact congrArg Program.ret (Option.some.inj h)
  | call e k => cases h

inductive Runs : Program E R α → List (Event E R) → α → Prop
  | ret (a : α) : Runs (.ret a) [] a
  | call {e : E} {k : R e → Program E R α} {r : R e} {t : List (Event E R)} {a : α} :
      Runs (k r) t a → Runs (.call e k) (⟨e, r⟩ :: t) a

inductive Reaches : Program E R α → List (Event E R) → Program E R α → Prop
  | start (p : Program E R α) : Reaches p [] p
  | step {p : Program E R α} {t : List (Event E R)} {e : E} {k : R e → Program E R α} :
      Reaches p t (.call e k) → (r : R e) → Reaches p (t ++ [⟨e, r⟩]) (k r)

def wp : Program E R α → (List (Event E R) → α → Prop) → Prop
  | .ret a, Q => Q [] a
  | .call e k, Q => ∀ r, (k r).wp fun t a => Q (⟨e, r⟩ :: t) a

theorem wp_iff_runs (p : Program E R α) (Q : List (Event E R) → α → Prop) :
    p.wp Q ↔ ∀ t a, Runs p t a → Q t a := by
  induction p generalizing Q with
  | ret a =>
    refine ⟨fun h t b run => ?_, fun h => h [] a (.ret a)⟩
    cases run
    exact h
  | call e k ih =>
    simp only [wp, ih]
    refine ⟨fun h t a run => ?_, fun h r t a run => h _ _ (.call run)⟩
    cases run with
    | call tail => exact h _ _ _ tail

theorem wp_mono {Q Q' : List (Event E R) → α → Prop} (h : p.wp Q) (imp : ∀ t a, Q t a → Q' t a) :
    p.wp Q' :=
  (wp_iff_runs p Q').mpr fun t a run => imp t a ((wp_iff_runs p Q).mp h t a run)

theorem wp_bind (p : Program E R α) (f : α → Program E R β) (Q : List (Event E R) → β → Prop) :
    (p.bind f).wp Q ↔ p.wp fun t a => (f a).wp fun t' b => Q (t ++ t') b := by
  induction p generalizing Q with
  | ret a => rfl
  | call e k ih => simp only [bind, wp, ih, List.cons_append]

variable {q : Program E R α} {t : List (Event E R)}

theorem Reaches.trans {r : Program E R α} {u : List (Event E R)} (first : Reaches p t q)
    (rest : Reaches q u r) : Reaches p (t ++ u) r := by
  induction rest with
  | start => simpa using first
  | step _ answer ih => simpa using ih.step answer

theorem Reaches.of_nil (reach : Reaches p [] q) : q = p := by
  generalize none : ([] : List (Event E R)) = t at reach
  cases reach with
  | start => rfl
  | step _ r => exact absurd none.symm (List.append_ne_nil_of_right_ne_nil _ (List.cons_ne_nil _ _))

theorem Reaches.runs {u : List (Event E R)} {a : α} (first : Reaches p t q) (rest : Runs q u a) :
    Runs p (t ++ u) a := by
  induction first generalizing u with
  | start => exact rest
  | step _ answer ih => simpa using ih (.call (r := answer) rest)

theorem Runs.reaches {a : α} (run : Runs p t a) : Reaches p t (.ret a) := by
  induction run with
  | ret a => exact .start _
  | @call e k r t a tail ih => simpa using ((Reaches.start (.call e k)).step r).trans ih

variable {T : Event E R → Prop}

theorem exists_runs (answerable : ∀ e, ∃ r, T ⟨e, r⟩) (p : Program E R α) :
    ∃ t a, Runs p t a ∧ ∀ e ∈ t, T e := by
  induction p with
  | ret a => exact ⟨[], a, .ret a, by simp⟩
  | call e k ih =>
    obtain ⟨r, fits⟩ := answerable e
    obtain ⟨t, a, run, rest⟩ := ih r
    exact ⟨⟨e, r⟩ :: t, a, .call run, List.forall_mem_cons.mpr ⟨fits, rest⟩⟩

theorem Reaches.of_runs (answerable : ∀ e, ∃ r, T ⟨e, r⟩) (reach : Reaches p t q)
    (fits : ∀ e ∈ t, T e) {P : List (Event E R) → Prop} (closed : ∀ t u, P (t ++ u) → P t)
    (whole : ∀ t a, Runs p t a → (∀ e ∈ t, T e) → P t) : P t := by
  obtain ⟨u, a, rest, later⟩ := exists_runs answerable q
  exact closed t u (whole _ _ (reach.runs rest) (List.forall_mem_append.mpr ⟨fits, later⟩))

theorem runs_bind {f : α → Program E R β} {b : β} (run : Runs (p.bind f) t b) :
    ∃ u v a, t = u ++ v ∧ Runs p u a ∧ Runs (f a) v b := by
  induction p generalizing t with
  | ret a => exact ⟨[], t, a, rfl, .ret a, run⟩
  | call e k ih =>
    cases run with
    | @call _ _ r _ _ tail =>
      obtain ⟨u, v, a, rfl, first, rest⟩ := ih r tail
      exact ⟨⟨e, r⟩ :: u, v, a, rfl, .call first, rest⟩

def follow (oracle : (e : E) → R e) : Program E R α → List (Event E R) × α
  | .ret a => ([], a)
  | .call e k =>
    let rest := (k (oracle e)).follow oracle
    (⟨e, oracle e⟩ :: rest.1, rest.2)

theorem follow_runs (oracle : (e : E) → R e) (p : Program E R α) :
    Runs p (p.follow oracle).1 (p.follow oracle).2 := by
  induction p with
  | ret a => exact .ret a
  | call e k ih => exact .call (ih (oracle e))

theorem follow_told {oracle : (e : E) → R e} (told : ∀ e, T ⟨e, oracle e⟩) (p : Program E R α) :
    ∀ e ∈ (p.follow oracle).1, T e := by
  induction p with
  | ret a =>
    intro e mem
    cases mem
  | call e k ih =>
    intro e' mem
    cases List.mem_cons.mp mem with
    | inl first =>
      rw [first]
      exact told e
    | inr later => exact ih (oracle e) e' later

end Program

structure Monitor (E : Type) (R : E → Type) (S : Type) where
  next : S → Event E R → S

namespace Monitor

variable {E : Type} {R : E → Type} {S : Type}

def stateAfter (m : Monitor E R S) (s : S) (t : List (Event E R)) : S := t.foldl m.next s

def Always (m : Monitor E R S) (ok : S → Event E R → Bool) : S → List (Event E R) → Prop
  | _, [] => True
  | s, e :: t => ok s e = true ∧ m.Always ok (m.next s e) t

instance decidableAlways (m : Monitor E R S) (ok : S → Event E R → Bool) :
    ∀ s t, Decidable (m.Always ok s t)
  | _, [] => .isTrue trivial
  | s, e :: t =>
    have := decidableAlways m ok (m.next s e) t
    inferInstanceAs (Decidable (_ ∧ _))

variable {m : Monitor E R S} {ok : S → Event E R → Bool}

@[simp] theorem always_nil (s : S) : m.Always ok s [] := trivial

@[simp] theorem always_cons (s : S) (e : Event E R) (t : List (Event E R)) :
    m.Always ok s (e :: t) ↔ ok s e = true ∧ m.Always ok (m.next s e) t := Iff.rfl

theorem stateAfter_append (s : S) (t u : List (Event E R)) :
    m.stateAfter s (t ++ u) = m.stateAfter (m.stateAfter s t) u :=
  List.foldl_append

theorem always_append (s : S) (t u : List (Event E R)) :
    m.Always ok s (t ++ u) ↔ m.Always ok s t ∧ m.Always ok (m.stateAfter s t) u := by
  induction t generalizing s with
  | nil => simp [stateAfter]
  | cons e t ih => simp [ih, stateAfter, and_assoc]

theorem stateAfter_of_kept {s : S} {t : List (Event E R)}
    (kept : ∀ e ∈ t, m.next s e = s) : m.stateAfter s t = s := by
  induction t with
  | nil => rfl
  | cons e t ih =>
    obtain ⟨first, rest⟩ := List.forall_mem_cons.mp kept
    simp only [stateAfter, List.foldl_cons, first]
    exact ih rest

theorem always_of_kept {s : S} {t : List (Event E R)} (kept : ∀ e ∈ t, m.next s e = s) :
    m.Always ok s t ↔ ∀ e ∈ t, ok s e = true := by
  induction t with
  | nil => simp
  | cons e t ih =>
    obtain ⟨first, rest⟩ := List.forall_mem_cons.mp kept
    rw [always_cons, first, ih rest, List.forall_mem_cons]

end Monitor
end Process
