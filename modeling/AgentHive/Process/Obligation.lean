import AgentHive.Process.Action
import AgentHive.Process.Interleaving

/-!
Obligations on the calls of a program: what it promises about each call it
asks for, as long as the answers so far were admissible.
-/

namespace Process

variable {E : Type} {R : E → Type} {σ X α β ι S : Type}

namespace Program

def Meets (T : Event E R → Prop) (φ : E → Prop) : Program E R α → (α → Prop) → Prop
  | .ret a, Q => Q a
  | .call e k, Q => φ e ∧ ∀ r, T ⟨e, r⟩ → (k r).Meets T φ Q

variable {T : Event E R → Prop} {φ : E → Prop}

theorem Meets.mono {p : Program E R α} {Q Q' : α → Prop} (h : p.Meets T φ Q)
    (imp : ∀ a, Q a → Q' a) : p.Meets T φ Q' := by
  induction p with
  | ret a => exact imp a h
  | call e k ih => exact ⟨h.1, fun r fits => ih r (h.2 r fits)⟩

theorem Meets.weaken {T' : Event E R → Prop} {φ' : E → Prop} {p : Program E R α} {Q : α → Prop}
    (h : p.Meets T φ Q) (fewer : ∀ e, T' e → T e) (weaker : ∀ e, φ e → φ' e) : p.Meets T' φ' Q := by
  induction p with
  | ret a => exact h
  | call e k ih => exact ⟨weaker e h.1, fun r fits => ih r (h.2 r (fewer _ fits))⟩

theorem meets_bind (p : Program E R α) (f : α → Program E R β) (Q : β → Prop) :
    (p.bind f).Meets T φ Q ↔ p.Meets T φ fun a => (f a).Meets T φ Q := by
  induction p with
  | ret a => rfl
  | call e k ih => simp only [bind, Meets, ih]

theorem Meets.of_runs {p : Program E R α} {Q : α → Prop} (h : p.Meets T φ Q)
    {t : List (Event E R)} {a : α} (run : Runs p t a) (told : ∀ e ∈ t, T e) : Q a := by
  induction run with
  | ret a => exact h
  | call rest ih =>
    obtain ⟨first, others⟩ := List.forall_mem_cons.mp told
    exact ih (h.2 _ first) others

end Program

namespace Interleaved

variable [DecidableEq ι] {env : Environment E R S} {programs : ι → Program E R α} {shared : S}
  {steps : List (Taken ι E R α S)} {c : Config ι E R α S} {T : Event E R → Prop}
  {φ : ι → E → Prop} {Q : ι → α → Prop}

theorem meets (run : Interleaved env (.start programs shared) steps c)
    (admissible : ∀ s e r s', env.answers s e r s' → T ⟨e, r⟩)
    (promised : ∀ i, (programs i).Meets T (φ i) (Q i)) (i : ι) :
    (c.threads i).Meets T (φ i) (Q i) := by
  induction run with
  | start => exact promised i
  | @call _ c j e k r _ run asks answered ih =>
    by_cases same : i = j
    · subst same
      rw [asks] at ih
      simpa [Config.advance] using ih.2 r (admissible _ _ _ _ answered)
    · simpa [Config.advance, same] using ih
  | drift run moved ih => exact ih

theorem promise (run : Interleaved env (.start programs shared) steps c)
    (admissible : ∀ s e r s', env.answers s e r s' → T ⟨e, r⟩)
    (promised : ∀ i, (programs i).Meets T (φ i) (Q i)) {i : ι} {e : E} {k : R e → Program E R α}
    (asks : c.threads i = .call e k) : φ i e := by
  have kept := run.meets admissible promised i
  rw [asks] at kept
  exact kept.1

end Interleaved

/-- The programs of a configuration keep an invariant of the shared state by what they
promise, where the answers are admissible as long as it holds. A step is only looked at
where it is taken. -/
structure Maintained (env : Environment E R S) (first : Config ι E R α S)
    (taken : Taken ι E R α S → Prop) (T : Event E R → Prop) (φ : ι → E → Prop)
    (Q : ι → α → Prop) (J : S → Prop) : Prop where
  admissible : ∀ s e r s', J s → env.answers s e r s' → T ⟨e, r⟩
  promised : ∀ i, (first.threads i).Meets T (φ i) (Q i)
  keeps : ∀ step s', taken step → φ step.thread step.event.1 →
    env.answers step.before.shared step.event.1 step.event.2 s' → J step.before.shared → J s'
  drifts : ∀ s s', env.drifts s s' → J s → J s'
  start : J first.shared

namespace Maintained

variable [DecidableEq ι] {env : Environment E R S} {first c : Config ι E R α S}
  {steps : List (Taken ι E R α S)} {taken : Taken ι E R α S → Prop} {T : Event E R → Prop}
  {φ : ι → E → Prop} {Q : ι → α → Prop} {J : S → Prop}

/-- The invariant holds all along, and what is left of a program keeps its promise. -/
theorem within (h : Maintained env first taken T φ Q J) (run : Interleaved env first steps c)
    (met : ∀ step ∈ steps, taken step) : J c.shared ∧ ∀ i, (c.threads i).Meets T (φ i) (Q i) := by
  induction run with
  | start => exact ⟨h.start, h.promised⟩
  | @call steps c j e k r after run asks answered ih =>
    obtain ⟨earlier, last⟩ := List.forall_mem_append.mp met
    obtain ⟨held, promised⟩ := ih earlier
    have promise := promised j
    rw [asks] at promise
    have allowed := last ⟨c, j, ⟨e, r⟩⟩ List.mem_cons_self
    refine ⟨h.keeps ⟨c, j, ⟨e, r⟩⟩ after allowed promise.1 answered held, fun i => ?_⟩
    by_cases same : i = j
    · subst same
      simpa [Config.advance] using promise.2 r (h.admissible _ _ _ _ held answered)
    · simpa [Config.advance, same] using promised i
  | drift run moved ih =>
    obtain ⟨held, promised⟩ := ih met
    exact ⟨h.drifts _ _ moved held, promised⟩

/-- Once a marked call has been answered, what such an answer brings about is kept. -/
theorem since (h : Maintained env first taken T φ Q J) (K : S → Prop)
    (marked : ι → Event E R → Prop)
    (opens : ∀ step s', taken step → φ step.thread step.event.1 →
      env.answers step.before.shared step.event.1 step.event.2 s' → J step.before.shared →
      marked step.thread step.event → K s')
    (stays : ∀ step s', taken step → φ step.thread step.event.1 →
      env.answers step.before.shared step.event.1 step.event.2 s' → J step.before.shared →
      K step.before.shared → K s')
    (drifts : ∀ s s', env.drifts s s' → K s → K s') (fresh : ∀ i, first.history i = [])
    (run : Interleaved env first steps c) (met : ∀ step ∈ steps, taken step) {i : ι}
    {e : Event E R} (mem : e ∈ c.history i) (mark : marked i e) : K c.shared := by
  induction run with
  | start =>
    rw [fresh i] at mem
    cases mem
  | @call steps c j e' k r after run asks answered ih =>
    obtain ⟨earlier, last⟩ := List.forall_mem_append.mp met
    obtain ⟨held, promised⟩ := h.within run earlier
    have promise := promised j
    rw [asks] at promise
    have allowed := last ⟨c, j, ⟨e', r⟩⟩ List.mem_cons_self
    have kept : e ∈ c.history i → K after := fun before =>
      stays ⟨c, j, ⟨e', r⟩⟩ after allowed promise.1 answered held (ih earlier before)
    by_cases same : i = j
    · subst same
      simp only [Config.advance, Function.update_self] at mem
      rcases List.mem_append.mp mem with before | new
      · exact kept before
      · rw [List.mem_singleton.mp new] at mark
        exact opens ⟨c, i, ⟨e', r⟩⟩ after allowed promise.1 answered held mark
    · simp only [Config.advance, Function.update_of_ne same] at mem
      exact kept mem
  | drift run moved ih => exact drifts _ _ moved (ih met mem)

end Maintained

namespace Action

variable {T : Event E R → Prop} {φ : E → Prop}

def Meets (T : Event E R → Prop) (φ : E → Prop) (m : Action E R σ X α) (s : σ)
    (Q : Except X α → σ → Prop) : Prop :=
  (m s).Meets T φ fun r => Q r.1 r.2

theorem Meets.mono {m : Action E R σ X α} {s : σ} {Q Q' : Except X α → σ → Prop}
    (h : m.Meets T φ s Q) (imp : ∀ r s', Q r s' → Q' r s') : m.Meets T φ s Q' :=
  Program.Meets.mono h fun r => imp r.1 r.2

theorem Meets.weaken {T' : Event E R → Prop} {φ' : E → Prop} {m : Action E R σ X α} {s : σ}
    {Q : Except X α → σ → Prop} (h : m.Meets T φ s Q) (fewer : ∀ e, T' e → T e)
    (weaker : ∀ e, φ e → φ' e) : m.Meets T' φ' s Q :=
  Program.Meets.weaken h fewer weaker

@[simp] theorem meets_get (s : σ) (Q : Except X σ → σ → Prop) :
    (get : Action E R σ X σ).Meets T φ s Q ↔ Q (.ok s) s := Iff.rfl

@[simp] theorem meets_modify (f : σ → σ) (s : σ) (Q : Except X Unit → σ → Prop) :
    (modify f : Action E R σ X Unit).Meets T φ s Q ↔ Q (.ok ()) (f s) := Iff.rfl

@[simp] theorem meets_perform (e : E) (s : σ) (Q : Except X (R e) → σ → Prop) :
    (perform e : Action E R σ X (R e)).Meets T φ s Q ↔ φ e ∧ ∀ r, T ⟨e, r⟩ → Q (.ok r) s :=
  Iff.rfl

@[simp] theorem meets_bind (m : Action E R σ X α) (f : α → Action E R σ X β) (s : σ)
    (Q : Except X β → σ → Prop) :
    (m >>= f).Meets T φ s Q ↔ m.Meets T φ s fun r s' => match r with
      | .ok a => (f a).Meets T φ s' Q
      | .error x => Q (.error x) s' := by
  change ((m s).bind _).Meets T φ _ ↔ _
  rw [Program.meets_bind]
  refine iff_of_eq (congrArg ((m s).Meets T φ) ?_)
  funext r
  obtain ⟨r | r, s'⟩ := r <;> rfl

@[simp] theorem meets_tryCatch (m : Action E R σ X α) (handler : X → Action E R σ X α) (s : σ)
    (Q : Except X α → σ → Prop) :
    (m.tryCatch handler).Meets T φ s Q ↔ m.Meets T φ s fun r s' => match r with
      | .ok a => Q (.ok a) s'
      | .error x => (handler x).Meets T φ s' Q := by
  change ((m s).bind _).Meets T φ _ ↔ _
  rw [Program.meets_bind]
  refine iff_of_eq (congrArg ((m s).Meets T φ) ?_)
  funext r
  obtain ⟨r | r, s'⟩ := r <;> rfl

theorem meets_run (m : Action E R σ X α) (start : σ) (Q : Except X α → Prop) :
    (m.run start).Meets T φ Q ↔ m.Meets T φ start fun r _ => Q r := by
  rw [run, Program.meets_bind]
  rfl

end Action
end Process
