import AgentHive.Process.Program

/-!
Actions: interacting programs with local variables and exceptions.
-/

namespace Process

def Action (E : Type) (R : E → Type) (σ X α : Type) : Type :=
  σ → Program E R (Except X α × σ)

namespace Action

variable {E : Type} {R : E → Type} {σ X α β : Type}

def pure (a : α) : Action E R σ X α := fun s => .ret (.ok a, s)

def throw (x : X) : Action E R σ X α := fun s => .ret (.error x, s)

variable (m : Action E R σ X α)

def bind (f : α → Action E R σ X β) : Action E R σ X β :=
  fun s => (m s).bind fun
    | (.ok a, s') => f a s'
    | (.error x, s') => .ret (.error x, s')

instance : Monad (Action E R σ X) where
  pure := pure
  bind := bind

def tryCatch (handler : X → Action E R σ X α) : Action E R σ X α :=
  fun s => (m s).bind fun
    | (.ok a, s') => .ret (.ok a, s')
    | (.error x, s') => handler x s'

def get : Action E R σ X σ := fun s => .ret (.ok s, s)

def modify (f : σ → σ) : Action E R σ X Unit := fun s => .ret (.ok (), f s)

def perform (e : E) : Action E R σ X (R e) := fun s => .call e fun r => .ret (.ok r, s)

def ofExcept : Except X α → Action E R σ X α
  | .ok a => pure a
  | .error x => throw x

def run (start : σ) : Program E R (Except X α) :=
  (m start).bind fun result => .ret result.1

/-- Every run from the given local variables ends in the postcondition, which
speaks about the calls made, the result or exception, and the variables left. -/
def wp (s : σ) (Q : List (Event E R) → Except X α → σ → Prop) : Prop :=
  (m s).wp fun t r => Q t r.1 r.2

theorem wp_mono {m : Action E R σ X α} {s : σ}
    {Q Q' : List (Event E R) → Except X α → σ → Prop}
    (h : m.wp s Q) (imp : ∀ t r s', Q t r s' → Q' t r s') : m.wp s Q' :=
  Program.wp_mono h fun t r => imp t r.1 r.2

theorem wp_iff_runs (s : σ) (Q : List (Event E R) → Except X α → σ → Prop) :
    m.wp s Q ↔ ∀ t r, Program.Runs (m s) t r → Q t r.1 r.2 :=
  Program.wp_iff_runs _ _

theorem wp_and {m : Action E R σ X α} {s : σ}
    {Q Q' : List (Event E R) → Except X α → σ → Prop} (h : m.wp s Q) (h' : m.wp s Q') :
    m.wp s fun t r s' => Q t r s' ∧ Q' t r s' :=
  (wp_iff_runs m s _).mpr fun t r run =>
    ⟨(wp_iff_runs m s Q).mp h t r run, (wp_iff_runs m s Q').mp h' t r run⟩

@[simp] theorem wp_pure (a : α) (s : σ) (Q : List (Event E R) → Except X α → σ → Prop) :
    (Pure.pure a : Action E R σ X α).wp s Q ↔ Q [] (.ok a) s := Iff.rfl

@[simp] theorem wp_throw (x : X) (s : σ) (Q : List (Event E R) → Except X α → σ → Prop) :
    (throw x : Action E R σ X α).wp s Q ↔ Q [] (.error x) s := Iff.rfl

@[simp] theorem wp_get (s : σ) (Q : List (Event E R) → Except X σ → σ → Prop) :
    (get : Action E R σ X σ).wp s Q ↔ Q [] (.ok s) s := Iff.rfl

@[simp] theorem wp_modify (f : σ → σ) (s : σ) (Q : List (Event E R) → Except X Unit → σ → Prop) :
    (modify f : Action E R σ X Unit).wp s Q ↔ Q [] (.ok ()) (f s) := Iff.rfl

@[simp] theorem wp_perform (e : E) (s : σ) (Q : List (Event E R) → Except X (R e) → σ → Prop) :
    (perform e : Action E R σ X (R e)).wp s Q ↔ ∀ r, Q [⟨e, r⟩] (.ok r) s := Iff.rfl

@[simp] theorem wp_bind (f : α → Action E R σ X β) (s : σ)
    (Q : List (Event E R) → Except X β → σ → Prop) :
    (m >>= f).wp s Q ↔ m.wp s fun t r s' => match r with
      | .ok a => (f a).wp s' fun t' => Q (t ++ t')
      | .error x => Q t (.error x) s' := by
  change ((m s).bind _).wp _ ↔ _
  rw [Program.wp_bind]
  refine iff_of_eq (congrArg (m s).wp ?_)
  funext t r
  obtain ⟨r | r, s'⟩ := r <;> simp [wp, Program.wp]

@[simp] theorem wp_map (f : α → β) (m : Action E R σ X α) (s : σ)
    (Q : List (Event E R) → Except X β → σ → Prop) :
    (f <$> m).wp s Q ↔ m.wp s fun t r s' => match r with
      | .ok a => Q t (.ok (f a)) s'
      | .error x => Q t (.error x) s' := by
  change ((m s).bind _).wp _ ↔ _
  rw [Program.wp_bind]
  refine iff_of_eq (congrArg (m s).wp ?_)
  funext t r
  obtain ⟨r | r, s'⟩ := r <;> simp [pure, Program.wp]

@[simp] theorem wp_tryCatch (handler : X → Action E R σ X α) (s : σ)
    (Q : List (Event E R) → Except X α → σ → Prop) :
    (m.tryCatch handler).wp s Q ↔ m.wp s fun t r s' => match r with
      | .ok a => Q t (.ok a) s'
      | .error x => (handler x).wp s' fun t' => Q (t ++ t') := by
  change ((m s).bind _).wp _ ↔ _
  rw [Program.wp_bind]
  refine iff_of_eq (congrArg (m s).wp ?_)
  funext t r
  obtain ⟨r | r, s'⟩ := r <;> simp [wp, Program.wp]

@[simp] theorem wp_ofExcept (r : Except X α) (s : σ)
    (Q : List (Event E R) → Except X α → σ → Prop) :
    (ofExcept r : Action E R σ X α).wp s Q ↔ Q [] r s := by
  cases r <;> rfl

@[simp] theorem wp_ite (c : Prop) [Decidable c] (m n : Action E R σ X α) (s : σ)
    (Q : List (Event E R) → Except X α → σ → Prop) :
    (if c then m else n).wp s Q ↔ if c then m.wp s Q else n.wp s Q := by
  split <;> rfl

theorem wp_run (start : σ) (Q : List (Event E R) → Except X α → Prop) :
    (m.run start).wp Q ↔ m.wp start fun t r _ => Q t r := by
  rw [run, Program.wp_bind]
  simp [wp, Program.wp]

end Action
end Process
