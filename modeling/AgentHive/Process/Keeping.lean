import AgentHive.Process.Alone

/-!
Actions that keep an invariant of their local variables, and ask only for what is
promised as long as it holds.

What is returned is known to be in the postcondition; an exception tells nothing.
-/

namespace Process

variable {E : Type} {R : E → Type} {σ X α β S : Type}

/-- From local variables in the invariant, every call is as promised, the variables
that are left are in the invariant, and a result is in the postcondition. -/
structure Keeping (T : Event E R → Prop) (φ : E → Prop) (I : σ → Prop) (m : Action E R σ X α)
    (Q : α → Prop) : Prop where
  meets : ∀ v, I v → m.Meets T φ v fun r left => I left ∧ ∀ a, r = .ok a → Q a

namespace Keeping

variable {T : Event E R → Prop} {φ : E → Prop} {I : σ → Prop} {Q : α → Prop} {m : Action E R σ X α}

theorem mono {Q' : α → Prop} (h : Keeping T φ I m Q) (imp : ∀ a, Q a → Q' a) :
    Keeping T φ I m Q' := by
  refine ⟨fun v kept => ?_⟩
  refine (h.meets v kept).mono fun r left post => ?_
  exact ⟨post.1, fun a eq => imp a (post.2 a eq)⟩

theorem weaken {T' : Event E R → Prop} {φ' : E → Prop} (h : Keeping T φ I m Q)
    (fewer : ∀ e, T' e → T e) (weaker : ∀ e, φ e → φ' e) : Keeping T' φ' I m Q :=
  ⟨fun v kept => (h.meets v kept).weaken fewer weaker⟩

theorem pure {a : α} (h : Q a) : Keeping T φ I (Pure.pure a : Action E R σ X α) Q := by
  refine ⟨fun v kept => ?_⟩
  refine ⟨kept, ?_⟩
  intro b eq
  cases eq
  exact h

theorem throw (x : X) : Keeping T φ I (Action.throw x : Action E R σ X α) Q := by
  refine ⟨fun v kept => ?_⟩
  refine ⟨kept, ?_⟩
  intro b eq
  cases eq

theorem ofExcept {r : Except X α} (h : ∀ a, r = .ok a → Q a) :
    Keeping T φ I (Action.ofExcept r : Action E R σ X α) Q := by
  cases r with
  | ok a => exact pure (h a rfl)
  | error x => exact throw x

theorem get : Keeping T φ I (Action.get : Action E R σ X σ) I := by
  refine ⟨fun v kept => ?_⟩
  refine ⟨kept, ?_⟩
  intro w eq
  cases eq
  exact kept

theorem modify {f : σ → σ} (h : ∀ v, I v → I (f v)) :
    Keeping T φ I (Action.modify f : Action E R σ X Unit) fun _ => True :=
  ⟨fun v kept => ⟨h v kept, fun _ _ => trivial⟩⟩

theorem perform {e : E} {Q : R e → Prop} (promised : φ e) (h : ∀ r, T ⟨e, r⟩ → Q r) :
    Keeping T φ I (Action.perform e : Action E R σ X (R e)) Q := by
  refine ⟨fun v kept => ?_⟩
  refine ⟨promised, fun r fits => ⟨kept, ?_⟩⟩
  intro a eq
  cases eq
  exact h r fits

theorem bind {f : α → Action E R σ X β} {Q' : β → Prop} (first : Keeping T φ I m Q)
    (rest : ∀ a, Q a → Keeping T φ I (f a) Q') : Keeping T φ I (m >>= f) Q' := by
  refine ⟨fun v kept => ?_⟩
  rw [Action.meets_bind]
  refine (first.meets v kept).mono fun r left post => ?_
  cases r with
  | error x =>
    refine ⟨post.1, ?_⟩
    intro b eq
    cases eq
  | ok a => exact (rest a (post.2 a rfl)).meets left post.1

/-- What is computed may be anything. -/
theorem computed {r : Except X α} {f : α → Action E R σ X β} {Q' : β → Prop}
    (rest : ∀ a, Keeping T φ I (f a) Q') : Keeping T φ I (Action.ofExcept r >>= f) Q' :=
  .bind (Q := fun _ => True) (.ofExcept fun _ _ => trivial) fun a _ => rest a

/-- Whatever is answered, the rest goes on. -/
theorem asked {e : E} {f : R e → Action E R σ X β} {Q' : β → Prop} (promised : φ e)
    (rest : ∀ r, Keeping T φ I (f r) Q') : Keeping T φ I (Action.perform e >>= f) Q' :=
  .bind (Q := fun _ => True) (.perform promised fun _ _ => trivial) fun r _ => rest r

theorem tryCatch {handler : X → Action E R σ X α} (body : Keeping T φ I m Q)
    (handled : ∀ x, Keeping T φ I (handler x) Q) : Keeping T φ I (m.tryCatch handler) Q := by
  refine ⟨fun v kept => ?_⟩
  rw [Action.meets_tryCatch]
  refine (body.meets v kept).mono fun r left post => ?_
  cases r with
  | ok a => exact post
  | error x => exact (handled x).meets left post.1

theorem ite {condition : Prop} [Decidable condition] {n : Action E R σ X α}
    (first : condition → Keeping T φ I m Q) (second : ¬ condition → Keeping T φ I n Q) :
    Keeping T φ I (if condition then m else n) Q := by
  split
  · rename_i holds
    exact first holds
  · rename_i fails
    exact second fails

/-- The program of such an action. -/
theorem run (h : Keeping T φ I m Q) {start : σ} (kept : I start) :
    (m.run start).Meets T φ fun r => ∀ a, r = .ok a → Q a := by
  rw [Action.meets_run]
  exact (h.meets start kept).mono fun r left post => post.2

/-- What the promised calls keep of a shared state, such an action run alone keeps. -/
theorem alone {env : Environment E R S} {J : S → Prop} (h : Keeping T φ I m Q)
    (admissible : ∀ s e r s', J s → env.answers s e r s' → T ⟨e, r⟩)
    (keeps : ∀ s e r s', φ e → env.answers s e r s' → J s → J s') {v : σ} {s : S} (kept : I v)
    (start : J s) : m.From env v s fun r left s' => J s' ∧ I left ∧ ∀ a, r = .ok a → Q a :=
  Program.Meets.from (h.meets v kept) admissible keeps start

end Keeping
end Process
