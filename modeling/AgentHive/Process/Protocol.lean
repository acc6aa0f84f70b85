import AgentHive.Process.Obligation

/-!
Programs that follow a protocol: a phase that every event moves on, and the
calls that are allowed in each phase.
-/

namespace Process

variable {E : Type} {R : E → Type} {σ X α β ι P S : Type}

namespace Program

def Follows (m : Monitor E R P) (allowed : P → E → Prop) (T : Event E R → Prop) :
    Program E R α → P → (α → P → Prop) → Prop
  | .ret a, p, Q => Q a p
  | .call e k, p, Q =>
    allowed p e ∧ ∀ r, T ⟨e, r⟩ → (k r).Follows m allowed T (m.next p ⟨e, r⟩) Q

variable {m : Monitor E R P} {allowed : P → E → Prop} {T : Event E R → Prop}

theorem Follows.mono {p : Program E R α} {s : P} {Q Q' : α → P → Prop}
    (h : p.Follows m allowed T s Q) (imp : ∀ a s', Q a s' → Q' a s') :
    p.Follows m allowed T s Q' := by
  induction p generalizing s with
  | ret a => exact imp a s h
  | call e k ih => exact ⟨h.1, fun r fits => ih r (h.2 r fits)⟩

theorem follows_bind (p : Program E R α) (f : α → Program E R β) (s : P) (Q : β → P → Prop) :
    (p.bind f).Follows m allowed T s Q ↔
      p.Follows m allowed T s fun a s' => (f a).Follows m allowed T s' Q := by
  induction p generalizing s with
  | ret a => rfl
  | call e k ih => simp only [bind, Follows, ih]

end Program

namespace Interleaved

variable [DecidableEq ι] {env : Environment E R S} {programs : ι → Program E R α} {shared : S}
  {first c : Config ι E R α S} {steps : List (Taken ι E R α S)}

theorem taken (I : S → Prop) (run : Interleaved env first steps c) (start : I first.shared)
    (answers : ∀ s e r s', env.answers s e r s' → I s → I s')
    (drifts : ∀ s s', env.drifts s s' → I s → I s') :
    I c.shared ∧ ∀ step ∈ steps, I step.before.shared ∧
      ∃ s', env.answers step.before.shared step.event.1 step.event.2 s' := by
  induction run with
  | start => exact ⟨start, by simp⟩
  | call run asks answered ih =>
    refine ⟨answers _ _ _ _ answered ih.1, List.forall_mem_append.mpr ⟨ih.2, ?_⟩⟩
    exact List.forall_mem_singleton.mpr ⟨ih.1, _, answered⟩
  | drift run moved ih => exact ⟨drifts _ _ moved ih.1, ih.2⟩

variable {m : ι → Monitor E R P} {allowed : ι → P → E → Prop} {T : Event E R → Prop}
  {begins : ι → P} {Q : ι → α → P → Prop}

theorem follows (run : Interleaved env (.start programs shared) steps c)
    (truthful : ∀ step ∈ steps, T step.event)
    (promised : ∀ i, (programs i).Follows (m i) (allowed i) T (begins i) (Q i)) (i : ι) :
    (c.threads i).Follows (m i) (allowed i) T ((m i).stateAfter (begins i) (c.history i)) (Q i) := by
  induction run with
  | start => exact promised i
  | @call _ c j e k r _ run asks answered ih =>
    obtain ⟨earlier, last⟩ := List.forall_mem_append.mp truthful
    have before := ih earlier
    by_cases same : i = j
    · subst same
      rw [asks] at before
      simp only [Config.advance, Function.update_self, Monitor.stateAfter_append]
      exact before.2 r (last _ List.mem_cons_self)
    · simpa [Config.advance, same] using before
  | drift run moved ih => exact ih truthful

theorem allowed_of_asks (run : Interleaved env (.start programs shared) steps c)
    (truthful : ∀ step ∈ steps, T step.event)
    (promised : ∀ i, (programs i).Follows (m i) (allowed i) T (begins i) (Q i)) {i : ι} {e : E}
    {k : R e → Program E R α} (asks : c.threads i = .call e k) :
    allowed i ((m i).stateAfter (begins i) (c.history i)) e := by
  have kept := run.follows truthful promised i
  rw [asks] at kept
  exact kept.1

end Interleaved

namespace Action

variable {m : Monitor E R P} {allowed : P → E → Prop} {T : Event E R → Prop}

def Follows (m : Monitor E R P) (allowed : P → E → Prop) (T : Event E R → Prop)
    (a : Action E R σ X α) (s : σ) (p : P) (Q : Except X α → σ → P → Prop) : Prop :=
  (a s).Follows m allowed T p fun r => Q r.1 r.2

theorem Follows.mono {a : Action E R σ X α} {s : σ} {p : P} {Q Q' : Except X α → σ → P → Prop}
    (h : a.Follows m allowed T s p Q) (imp : ∀ r s' p', Q r s' p' → Q' r s' p') :
    a.Follows m allowed T s p Q' :=
  Program.Follows.mono h fun r => imp r.1 r.2

@[simp] theorem follows_pure (x : α) (s : σ) (p : P) (Q : Except X α → σ → P → Prop) :
    (Pure.pure x : Action E R σ X α).Follows m allowed T s p Q ↔ Q (.ok x) s p := Iff.rfl

@[simp] theorem follows_perform (e : E) (s : σ) (p : P) (Q : Except X (R e) → σ → P → Prop) :
    (perform e : Action E R σ X (R e)).Follows m allowed T s p Q ↔
      allowed p e ∧ ∀ r, T ⟨e, r⟩ → Q (.ok r) s (m.next p ⟨e, r⟩) := Iff.rfl

@[simp] theorem follows_bind (a : Action E R σ X α) (f : α → Action E R σ X β) (s : σ) (p : P)
    (Q : Except X β → σ → P → Prop) :
    (a >>= f).Follows m allowed T s p Q ↔ a.Follows m allowed T s p fun r s' p' => match r with
      | .ok x => (f x).Follows m allowed T s' p' Q
      | .error x => Q (.error x) s' p' := by
  change ((a s).bind _).Follows m allowed T p _ ↔ _
  rw [Program.follows_bind]
  refine iff_of_eq (congrArg ((a s).Follows m allowed T p) ?_)
  funext r p'
  obtain ⟨r | r, s'⟩ := r <;> rfl

@[simp] theorem follows_tryCatch (a : Action E R σ X α) (handler : X → Action E R σ X α) (s : σ)
    (p : P) (Q : Except X α → σ → P → Prop) :
    (a.tryCatch handler).Follows m allowed T s p Q ↔
      a.Follows m allowed T s p fun r s' p' => match r with
        | .ok x => Q (.ok x) s' p'
        | .error x => (handler x).Follows m allowed T s' p' Q := by
  change ((a s).bind _).Follows m allowed T p _ ↔ _
  rw [Program.follows_bind]
  refine iff_of_eq (congrArg ((a s).Follows m allowed T p) ?_)
  funext r p'
  obtain ⟨r | r, s'⟩ := r <;> rfl

theorem follows_run (a : Action E R σ X α) (start : σ) (p : P) (Q : Except X α → P → Prop) :
    (a.run start).Follows m allowed T p Q ↔
      a.Follows m allowed T start p fun r _ => Q r := by
  rw [run, Program.follows_bind]
  rfl

end Action
end Process
