import AgentHive.Process.Obligation

/-!
Programs that run alone over a shared state, from its start to its end.

`From` is the weakest precondition of such a run: it follows the answers that
the state gives, and the state they leave.
-/

namespace Process

variable {E : Type} {R : E → Type} {σ X α β S : Type}

namespace Program

inductive Alone (env : Environment E R S) : Program E R α → S → α → S → Prop
  | ret (a : α) (s : S) : Alone env (.ret a) s a s
  | call {e : E} {k : R e → Program E R α} {r : R e} {s s' s'' : S} {a : α}
      (answered : env.answers s e r s') (rest : Alone env (k r) s' a s'') :
      Alone env (.call e k) s a s''

def From (env : Environment E R S) : Program E R α → S → (α → S → Prop) → Prop
  | .ret a, s, Q => Q a s
  | .call e k, s, Q => ∀ r s', env.answers s e r s' → (k r).From env s' Q

variable {env : Environment E R S} {p : Program E R α}

theorem from_iff_alone {s : S} {Q : α → S → Prop} :
    p.From env s Q ↔ ∀ a s', Alone env p s a s' → Q a s' := by
  induction p generalizing s with
  | ret a =>
    refine ⟨fun h b s' run => ?_, fun h => h a s (.ret a s)⟩
    cases run
    exact h
  | call e k ih =>
    simp only [From, ih]
    refine ⟨fun h a s'' run => ?_, fun h r s' answered a s'' rest => h a s'' (.call answered rest)⟩
    cases run with
    | call answered rest => exact h _ _ answered _ _ rest

theorem From.mono {s : S} {Q Q' : α → S → Prop} (h : p.From env s Q)
    (imp : ∀ a s', Q a s' → Q' a s') : p.From env s Q' :=
  from_iff_alone.mpr fun a s' run => imp a s' (from_iff_alone.mp h a s' run)

theorem from_bind (p : Program E R α) (f : α → Program E R β) (s : S) (Q : β → S → Prop) :
    (p.bind f).From env s Q ↔ p.From env s fun a s' => (f a).From env s' Q := by
  induction p generalizing s with
  | ret a => rfl
  | call e k ih => simp only [bind, From, ih]

theorem Meets.from {T : Event E R → Prop} {φ : E → Prop} {Q : α → Prop} {I : S → Prop}
    (promised : p.Meets T φ Q) (admissible : ∀ s e r s', I s → env.answers s e r s' → T ⟨e, r⟩)
    (keeps : ∀ s e r s', φ e → env.answers s e r s' → I s → I s') {s : S} (start : I s) :
    p.From env s fun a s' => I s' ∧ Q a := by
  induction p generalizing s with
  | ret a => exact ⟨start, promised⟩
  | call e k ih =>
    intro r s' answered
    refine ih r (promised.2 r (admissible _ _ _ _ start answered)) ?_
    exact keeps s e r s' promised.1 answered start

/-- Let an oracle answer from the state until the program returns. -/
def finish (oracle : S → (e : E) → R e × S) : Program E R α → S → α × S
  | .ret a, s => (a, s)
  | .call e k, s => (k (oracle s e).1).finish oracle (oracle s e).2

theorem finish_alone {oracle : S → (e : E) → R e × S}
    (fits : ∀ s e, env.answers s e (oracle s e).1 (oracle s e).2) (p : Program E R α) (s : S) :
    Alone env p s (p.finish oracle s).1 (p.finish oracle s).2 := by
  induction p generalizing s with
  | ret a => exact .ret a s
  | call e k ih => exact .call (fits s e) (ih _ _)

end Program

namespace Action

variable {env : Environment E R S}

def From (env : Environment E R S) (m : Action E R σ X α) (v : σ) (s : S)
    (Q : Except X α → σ → S → Prop) : Prop :=
  (m v).From env s fun r s' => Q r.1 r.2 s'

variable {m : Action E R σ X α} {Q Q' : Except X α → σ → S → Prop}

theorem From.mono {v : σ} {s : S} (h : m.From env v s Q) (imp : ∀ r v' s', Q r v' s' → Q' r v' s') :
    m.From env v s Q' :=
  Program.From.mono h fun r s' => imp r.1 r.2 s'

theorem From.and {v : σ} {s : S} (h : m.From env v s Q) (h' : m.From env v s Q') :
    m.From env v s fun r v' s' => Q r v' s' ∧ Q' r v' s' :=
  Program.from_iff_alone.mpr fun r s' run =>
    ⟨Program.from_iff_alone.mp h r s' run, Program.from_iff_alone.mp h' r s' run⟩

@[simp] theorem from_throw (x : X) (v : σ) (s : S) (Q : Except X α → σ → S → Prop) :
    (throw x : Action E R σ X α).From env v s Q ↔ Q (.error x) v s := Iff.rfl

@[simp] theorem from_get (v : σ) (s : S) (Q : Except X σ → σ → S → Prop) :
    (get : Action E R σ X σ).From env v s Q ↔ Q (.ok v) v s := Iff.rfl

@[simp] theorem from_modify (f : σ → σ) (v : σ) (s : S) (Q : Except X Unit → σ → S → Prop) :
    (modify f : Action E R σ X Unit).From env v s Q ↔ Q (.ok ()) (f v) s := Iff.rfl

@[simp] theorem from_perform (e : E) (v : σ) (s : S) (Q : Except X (R e) → σ → S → Prop) :
    (perform e : Action E R σ X (R e)).From env v s Q ↔
      ∀ r s', env.answers s e r s' → Q (.ok r) v s' := Iff.rfl

@[simp] theorem from_bind (m : Action E R σ X α) (f : α → Action E R σ X β) (v : σ) (s : S)
    (Q : Except X β → σ → S → Prop) :
    (m >>= f).From env v s Q ↔ m.From env v s fun r v' s' => match r with
      | .ok a => (f a).From env v' s' Q
      | .error x => Q (.error x) v' s' := by
  change ((m v).bind _).From env s _ ↔ _
  rw [Program.from_bind]
  refine iff_of_eq (congrArg ((m v).From env s) ?_)
  funext r s'
  obtain ⟨r | r, v'⟩ := r <;> rfl

@[simp] theorem from_tryCatch (m : Action E R σ X α)
    (handler : X → Action E R σ X α) (v : σ) (s : S) (Q : Except X α → σ → S → Prop) :
    (m.tryCatch handler).From env v s Q ↔ m.From env v s fun r v' s' => match r with
      | .ok a => Q (.ok a) v' s'
      | .error x => (handler x).From env v' s' Q := by
  change ((m v).bind _).From env s _ ↔ _
  rw [Program.from_bind]
  refine iff_of_eq (congrArg ((m v).From env s) ?_)
  funext r s'
  obtain ⟨r | r, v'⟩ := r <;> rfl

@[simp] theorem from_ofExcept (r : Except X α) (v : σ) (s : S) (Q : Except X α → σ → S → Prop) :
    (ofExcept r : Action E R σ X α).From env v s Q ↔ Q r v s := by
  cases r <;> rfl

@[simp] theorem from_ite (c : Prop) [Decidable c] (m n : Action E R σ X α) (v : σ) (s : S)
    (Q : Except X α → σ → S → Prop) :
    (if c then m else n).From env v s Q ↔ if c then m.From env v s Q else n.From env v s Q := by
  split <;> rfl

variable {P : Except X α → σ → S → Prop}

theorem From.seq {f : α → Action E R σ X β} {v : σ} {s : S} {Q : Except X β → σ → S → Prop}
    (first : m.From env v s P) (rest : ∀ a v' s', P (.ok a) v' s' → (f a).From env v' s' Q)
    (raised : ∀ x v' s', P (.error x) v' s' → Q (.error x) v' s') : (m >>= f).From env v s Q := by
  rw [from_bind]
  refine first.mono ?_
  intro r v' s' post
  cases r with
  | ok a => exact rest a v' s' post
  | error x => exact raised x v' s' post

theorem From.handled {handler : X → Action E R σ X α} {v : σ} {s : S} (body : m.From env v s P)
    (done : ∀ a v' s', P (.ok a) v' s' → Q (.ok a) v' s')
    (caught : ∀ x v' s', P (.error x) v' s' → (handler x).From env v' s' Q) :
    (m.tryCatch handler).From env v s Q := by
  rw [from_tryCatch]
  refine body.mono ?_
  intro r v' s' post
  cases r with
  | ok a => exact done a v' s' post
  | error x => exact caught x v' s' post

theorem from_run (m : Action E R σ X α) (v : σ) (s : S) (Q : Except X α → S → Prop) :
    (m.run v).From env s Q ↔ m.From env v s fun r _ s' => Q r s' := by
  rw [run, Program.from_bind]
  rfl

end Action

variable {G : Type}

def Environment.observed (env : Environment E R S) (m : Monitor E R G) :
    Environment E R (S × G) where
  answers s e r s' := env.answers s.1 e r s'.1 ∧ s'.2 = m.next s.2 ⟨e, r⟩
  drifts s s' := env.drifts s.1 s'.1 ∧ s'.2 = s.2

def Monitor.watch (m : Monitor E R G) (oracle : S → (e : E) → R e × S) (s : S × G) (e : E) :
    R e × (S × G) :=
  ((oracle s.1 e).1, ((oracle s.1 e).2, m.next s.2 ⟨e, (oracle s.1 e).1⟩))

theorem Monitor.watch_answers {env : Environment E R S} (m : Monitor E R G)
    {oracle : S → (e : E) → R e × S}
    (fits : ∀ s e, env.answers s e (oracle s e).1 (oracle s e).2) (s : S × G) (e : E) :
    (env.observed m).answers s e (m.watch oracle s e).1 (m.watch oracle s e).2 :=
  ⟨fits s.1 e, rfl⟩

namespace Program

variable {env : Environment E R S} {m : Monitor E R G} {p : Program E R α} {a : α}

theorem Alone.observed {s s' : S} (run : Alone env p s a s') (g : G) :
    ∃ g', Alone (env.observed m) p (s, g) a (s', g') := by
  induction run generalizing g with
  | ret a s => exact ⟨g, .ret a _⟩
  | @call e k r s s' s'' a answered rest ih =>
    obtain ⟨g', later⟩ := ih (m.next g ⟨e, r⟩)
    exact ⟨g', .call ⟨answered, rfl⟩ later⟩

end Program

theorem Action.From.of_alone {env : Environment E R S} {m : Action E R σ X α} {v : σ} {s s' : S}
    {r : Except X α} {Q : Except X α → S → Prop}
    (h : m.From env v s fun r _ s' => Q r s') (run : Program.Alone env (m.run v) s r s') : Q r s' :=
  Program.from_iff_alone.mp ((Action.from_run m v s Q).mpr h) r s' run

variable {E : Type} {R : E → Type} {σ X α β S : Type}

theorem Program.Alone.bind {env : Environment E R S} {p : Program E R α}
    {f : α → Program E R β} {s s' s'' : S} {a : α} {b : β} (first : Alone env p s a s')
    (rest : Alone env (f a) s' b s'') : Alone env (p.bind f) s b s'' := by
  induction first with
  | ret a s => exact rest
  | call answered _ ih => exact .call answered (ih rest)

structure Leads (env : Environment E R S) (m : Action E R σ X α) (v : σ) (s : S) (a : α) (v' : σ)
    (s' : S) : Prop where
  alone : Program.Alone env (m v) s (.ok a, v') s'

namespace Leads

variable {env : Environment E R S} {v v' v'' : σ} {s s' s'' : S} {a : α} {b : β}

theorem pure : Leads env (Pure.pure a : Action E R σ X α) v s a v s := ⟨.ret _ s⟩

theorem get : Leads env (Action.get : Action E R σ X σ) v s v v s := ⟨.ret _ s⟩

theorem modify (f : σ → σ) : Leads env (Action.modify f : Action E R σ X Unit) v s () (f v) s :=
  ⟨.ret _ s⟩

theorem perform {e : E} {r : R e} (answered : env.answers s e r s') :
    Leads env (Action.perform e : Action E R σ X (R e)) v s r v s' :=
  ⟨.call answered (.ret _ s')⟩

theorem ofExcept {r : Except X α} (ok : r = .ok a) :
    Leads env (Action.ofExcept r : Action E R σ X α) v s a v s := by
  subst ok
  exact ⟨.ret _ s⟩

theorem bind {m : Action E R σ X α} {f : α → Action E R σ X β}
    (first : Leads env m v s a v' s') (rest : Leads env (f a) v' s' b v'' s'') :
    Leads env (m >>= f) v s b v'' s'' :=
  ⟨first.alone.bind rest.alone⟩

theorem tryCatch {m : Action E R σ X α} {handler : X → Action E R σ X α}
    (body : Leads env m v s a v' s') : Leads env (m.tryCatch handler) v s a v' s' :=
  ⟨body.alone.bind (.ret _ s')⟩

theorem ite_pos {condition : Prop} [Decidable condition] {m n : Action E R σ X α}
    (holds : condition) (first : Leads env m v s a v' s') :
    Leads env (if condition then m else n) v s a v' s' := by
  rw [if_pos holds]
  exact first

theorem ite_neg {condition : Prop} [Decidable condition] {m n : Action E R σ X α}
    (fails : ¬ condition) (second : Leads env n v s a v' s') :
    Leads env (if condition then m else n) v s a v' s' := by
  rw [if_neg fails]
  exact second

/-- The program of such an action. -/
theorem run {m : Action E R σ X α} (leads : Leads env m v s a v' s') :
    Program.Alone env (m.run v) s (.ok a) s' :=
  leads.alone.bind (.ret _ s')

end Leads
end Process
