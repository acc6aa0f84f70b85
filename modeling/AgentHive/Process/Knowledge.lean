import AgentHive.Process.Carry
import AgentHive.Process.Keeping
import Mathlib.Order.Basic

/-!
Programs that know more and more of the shared state.
-/

namespace Process

variable {E F S α ι K : Type} {R : E → Type} {A : F → Type} {σ X : Type}

namespace Program

theorem Meets.along {T : Event E R → Prop} {φ : E → Prop} {Q : α → Prop} {p q : Program E R α}
    {t : List (Event E R)} (h : p.Meets T φ Q) (reach : Reaches p t q) (told : ∀ e ∈ t, T e) :
    q.Meets T φ Q := by
  induction reach with
  | start => exact h
  | step _ r ih =>
    obtain ⟨earlier, last⟩ := List.forall_mem_append.mp told
    exact (ih earlier).2 r (last _ List.mem_cons_self)

theorem Meets.promised_of_mem {T : Event E R → Prop} {φ : E → Prop} {Q : α → Prop}
    {p q : Program E R α} {t : List (Event E R)} (h : p.Meets T φ Q) (reach : Reaches p t q)
    (told : ∀ e ∈ t, T e) : ∀ e ∈ t, φ e.1 := by
  induction reach with
  | start => exact fun _ mem => by cases mem
  | step before r ih =>
    obtain ⟨earlier, _⟩ := List.forall_mem_append.mp told
    refine List.forall_mem_append.mpr ⟨ih earlier, ?_⟩
    simpa using (h.along before earlier).1

theorem Meets.handle {T : Event E R → Prop} {φ : E → Prop} {T' : Event F A → Prop}
    {φ' : F → Prop} {Q : α → Prop} {handler : (e : E) → Program F A (R e)} {p : Program E R α}
    (h : p.Meets T φ Q) (handled : ∀ e, φ e → (handler e).Meets T' φ' fun r => T ⟨e, r⟩) :
    (p.handle handler).Meets T' φ' Q := by
  induction p with
  | ret a => exact h
  | call e k ih =>
    rw [Program.handle, meets_bind]
    exact (handled e h.1).mono fun r told => ih r (h.2 r told)

end Program

/-- An action whose calls are carried out by programs over finer calls, with the same local
variables. -/
def Action.within (handler : (e : E) → Program F A (R e)) (m : Action E R σ X α) :
    Action F A σ X α :=
  fun v => (m v).handle handler

theorem Keeping.within {T : Event E R → Prop} {φ : E → Prop} {T' : Event F A → Prop}
    {φ' : F → Prop} {I : σ → Prop} {Q : α → Prop} {handler : (e : E) → Program F A (R e)}
    {m : Action E R σ X α} (h : Keeping T φ I m Q)
    (handled : ∀ e, φ e → (handler e).Meets T' φ' fun r => T ⟨e, r⟩) :
    Keeping T' φ' I (m.within handler) Q :=
  ⟨fun v kept => (h.meets v kept).handle handled⟩

theorem Keeping.vacuous {T : Event E R → Prop} (m : Action E R σ X α) :
    Keeping T (fun _ => True) (fun _ => True) m fun _ => True := by
  have empty : ∀ p : Program E R (Except X α × σ), p.Meets T (fun _ => True)
      fun r => True ∧ ∀ a, r.1 = .ok a → True := by
    intro p
    induction p with
    | ret r => exact ⟨trivial, fun _ _ => trivial⟩
    | call e k ih => exact ⟨trivial, fun r _ => ih r⟩
  exact ⟨fun v _ => empty (m v)⟩

namespace Interleaved

variable [DecidableEq ι] {env : Environment E R S} {first c : Config ι E R α S}
  {programs : ι → Program E R α} {shared : S} {steps : List (Taken ι E R α S)}

theorem reached_of_mem (run : Interleaved env first steps c) {step : Taken ι E R α S}
    (mem : step ∈ steps) :
    ∃ earlier after, Interleaved env first earlier step.before ∧
      env.answers step.before.shared step.event.1 step.event.2 after := by
  induction run with
  | start => cases mem
  | call run asks answered ih =>
    cases List.mem_append.mp mem with
    | inl before => exact ih before
    | inr last =>
      cases List.mem_singleton.mp last
      exact ⟨_, _, run, answered⟩
  | drift run moved ih => exact ih mem

theorem taken_of_mem (run : Interleaved env (.start programs shared) steps c) {i : ι}
    {e : Event E R} (mem : e ∈ c.history i) : ∃ step ∈ steps, step.thread = i ∧ step.event = e := by
  induction run with
  | start => cases mem
  | @call steps c j e' k r after run asks answered ih =>
    by_cases same : i = j
    · subst same
      simp only [Config.advance, Function.update_self] at mem
      cases List.mem_append.mp mem with
      | inl before =>
        obtain ⟨step, there, own⟩ := ih before
        exact ⟨step, List.mem_append_left _ there, own⟩
      | inr last =>
        cases List.mem_singleton.mp last
        exact ⟨_, List.mem_append_right _ List.mem_cons_self, rfl, rfl⟩
    · simp only [Config.advance, Function.update_of_ne same] at mem
      obtain ⟨step, there, own⟩ := ih mem
      exact ⟨step, List.mem_append_left _ there, own⟩
  | drift run moved ih => exact ih mem

end Interleaved

/-- Whatever is known, the programs promise what it takes to keep the invariant, and a step
adds to what is known and tells no more than is known then. -/
structure Learning [Preorder K] (env : Environment E R S) (programs : ι → Program E R α)
    (known : S → K) (T : K → Event E R → Prop) (φ : K → E → Prop) (J : S → Prop) : Prop where
  lasting : ∀ {k k' : K} e, k ≤ k' → T k e → T k' e
  promised : ∀ k i, (programs i).Meets (T k) (φ k) fun _ => True
  keeps : ∀ {s e r s'}, J s → φ (known s) e → env.answers s e r s' →
    known s ≤ known s' ∧ T (known s') ⟨e, r⟩ ∧ J s'
  drifts : ∀ {s s'}, J s → env.drifts s s' → known s ≤ known s' ∧ J s'

namespace Learning

variable [Preorder K] [DecidableEq ι] {env : Environment E R S} {programs : ι → Program E R α}
  {known : S → K} {T : K → Event E R → Prop} {φ : K → E → Prop} {J : S → Prop} {shared : S}
  {steps : List (Taken ι E R α S)} {c : Config ι E R α S}

theorem along (h : Learning env programs known T φ J) (start : J shared)
    (run : Interleaved env (.start programs shared) steps c) :
    J c.shared ∧ ∀ i, ∀ e ∈ c.history i, T (known c.shared) e := by
  induction run with
  | start =>
    refine ⟨start, ?_⟩
    intro i e mem
    cases mem
  | @call steps c j e k r after run asks answered ih =>
    obtain ⟨held, told⟩ := ih
    have promise := (h.promised (known c.shared) j).along (run.reaches j) (told j)
    rw [asks] at promise
    obtain ⟨more, now, kept⟩ := h.keeps held promise.1 answered
    refine ⟨kept, ?_⟩
    intro i e' mem
    by_cases same : i = j
    · subst same
      simp only [Config.advance, Function.update_self] at mem
      cases List.mem_append.mp mem with
      | inl before => exact h.lasting e' more (told i e' before)
      | inr last =>
        cases List.mem_singleton.mp last
        exact now
    · simp only [Config.advance, Function.update_of_ne same] at mem
      exact h.lasting e' more (told i e' mem)
  | drift run moved ih =>
    obtain ⟨held, told⟩ := ih
    obtain ⟨more, kept⟩ := h.drifts held moved
    exact ⟨kept, fun i e mem => h.lasting e more (told i e mem)⟩

end Learning
end Process
