import AgentHive.Process.Program
import Mathlib.Logic.Function.Basic

/-!
Programs that run side by side over a shared state.

A step answers the next call of one program, and the shared state says which
answers it may get. Between the steps the shared state may move by itself.
-/

namespace Process

structure Environment (E : Type) (R : E → Type) (S : Type) where
  answers : S → (e : E) → R e → S → Prop
  drifts : S → S → Prop

def Environment.restrict {E S : Type} {R : E → Type} (env : Environment E R S)
    (given : S → Event E R → Prop) : Environment E R S where
  answers s e r s' := given s ⟨e, r⟩ ∧ env.answers s e r s'
  drifts := env.drifts

/-- What is left of every program, the calls it has made, and the shared state. -/
structure Config (ι E : Type) (R : E → Type) (α S : Type) where
  threads : ι → Program E R α
  history : ι → List (Event E R)
  shared : S

/-- A step of one program, with the configuration it was taken in. -/
structure Taken (ι E : Type) (R : E → Type) (α S : Type) where
  before : Config ι E R α S
  thread : ι
  event : Event E R

variable {ι E S α : Type} {R : E → Type}

namespace Config

def start (programs : ι → Program E R α) (shared : S) : Config ι E R α S :=
  ⟨programs, fun _ => [], shared⟩

variable [DecidableEq ι]

def advance (c : Config ι E R α S) (i : ι) (e : Event E R) (rest : Program E R α) (shared : S) :
    Config ι E R α S :=
  { threads := Function.update c.threads i rest
    history := Function.update c.history i (c.history i ++ [e])
    shared := shared }

end Config

variable [DecidableEq ι] {env : Environment E R S}

/-- The steps of a run in order, and the configuration they lead to. -/
inductive Interleaved (env : Environment E R S) (first : Config ι E R α S) :
    List (Taken ι E R α S) → Config ι E R α S → Prop
  | start : Interleaved env first [] first
  | call {steps : List (Taken ι E R α S)} {c : Config ι E R α S} {i : ι} {e : E}
      {k : R e → Program E R α} {r : R e} {shared : S}
      (run : Interleaved env first steps c) (asks : c.threads i = .call e k)
      (answered : env.answers c.shared e r shared) :
      Interleaved env first (steps ++ [⟨c, i, ⟨e, r⟩⟩]) (c.advance i ⟨e, r⟩ (k r) shared)
  | drift {steps : List (Taken ι E R α S)} {c : Config ι E R α S} {shared : S}
      (run : Interleaved env first steps c) (moved : env.drifts c.shared shared) :
      Interleaved env first steps { c with shared := shared }

namespace Interleaved

variable {first c : Config ι E R α S} {steps : List (Taken ι E R α S)}
  {programs : ι → Program E R α} {shared : S}

theorem reaches (run : Interleaved env (.start programs shared) steps c) (i : ι) :
    Program.Reaches (programs i) (c.history i) (c.threads i) := by
  induction run with
  | start => exact .start _
  | @call _ c j e k r _ run asks answered ih =>
    by_cases same : i = j
    · subst same
      rw [asks] at ih
      simpa [Config.advance] using ih.step r
    · simpa [Config.advance, same] using ih
  | drift run moved ih => exact ih

theorem induct (P : Config ι E R α S → Prop) (meets : Taken ι E R α S → Prop)
    (run : Interleaved env first steps c) (met : ∀ step ∈ steps, meets step) (base : P first)
    (call : ∀ {steps c i e k r shared}, Interleaved env first steps c →
      c.threads i = Program.call e k → env.answers c.shared e r shared → meets ⟨c, i, ⟨e, r⟩⟩ →
      P c → P (c.advance i ⟨e, r⟩ (k r) shared))
    (drift : ∀ {steps c shared}, Interleaved env first steps c → env.drifts c.shared shared →
      P c → P { c with shared := shared }) : P c := by
  induction run with
  | start => exact base
  | call run asks answered ih =>
    obtain ⟨earlier, last⟩ := List.forall_mem_append.mp met
    exact call run asks answered (last _ List.mem_cons_self) (ih earlier)
  | drift run moved ih => exact drift run moved (ih met)

theorem restrict {given : S → Event E R → Prop} (run : Interleaved env first steps c)
    (met : ∀ step ∈ steps, given step.before.shared step.event) :
    Interleaved (env.restrict given) first steps c := by
  induction run with
  | start => exact .start
  | call run asks answered ih =>
    obtain ⟨earlier, last⟩ := List.forall_mem_append.mp met
    exact .call (ih earlier) asks ⟨last _ List.mem_cons_self, answered⟩
  | drift run moved ih => exact .drift (ih met) moved

theorem answered_of_mem (run : Interleaved env (.start programs shared) steps c) {i : ι}
    {e : Event E R} (mem : e ∈ c.history i) :
    ∃ before steps' after, Interleaved env (.start programs shared) steps' before ∧
      env.answers before.shared e.1 e.2 after := by
  induction run with
  | start => cases mem
  | @call _ c j _ _ _ _ run asks answered ih =>
    by_cases same : i = j
    · subst same
      simp only [Config.advance, Function.update_self] at mem
      rcases List.mem_append.mp mem with earlier | last
      · exact ih earlier
      · cases List.mem_singleton.mp last
        exact ⟨c, _, _, run, answered⟩
    · simp only [Config.advance, Function.update_of_ne same] at mem
      exact ih mem
  | drift run moved ih => exact ih mem

end Interleaved

def turnsOf {n : Nat} (turns : List Nat) : List (Fin (n + 1)) := turns.map (Fin.ofNat (n + 1))

def takeTurns (oracle : S → (e : E) → R e × S) :
    List ι → Config ι E R α S → List (Taken ι E R α S) × Config ι E R α S
  | [], c => ([], c)
  | i :: turns, c =>
    match c.threads i with
    | .ret _ => takeTurns oracle turns c
    | .call e k =>
      let answer := oracle c.shared e
      let later := takeTurns oracle turns (c.advance i ⟨e, answer.1⟩ (k answer.1) answer.2)
      (⟨c, i, ⟨e, answer.1⟩⟩ :: later.1, later.2)

variable {oracle : S → (e : E) → R e × S} {first c : Config ι E R α S}
    {steps : List (Taken ι E R α S)}

theorem takeTurns_run_within {I : S → Prop}
    (fits : ∀ s e, I s → env.answers s e (oracle s e).1 (oracle s e).2 ∧ I (oracle s e).2)
    (run : Interleaved env first steps c) (within : I c.shared) (turns : List ι) :
    Interleaved env first (steps ++ (takeTurns oracle turns c).1) (takeTurns oracle turns c).2 := by
  induction turns generalizing c steps with
  | nil => simpa [takeTurns] using run
  | cons i turns ih =>
    cases asks : c.threads i with
    | ret r => simpa only [takeTurns, asks] using ih run within
    | call e k =>
      obtain ⟨answered, kept⟩ := fits c.shared e within
      have later := ih (run.call asks answered) kept
      rw [List.append_assoc, List.singleton_append] at later
      simpa only [takeTurns, asks] using later

theorem takeTurns_run_where (run : Interleaved env first steps c) (turns : List ι)
    (fits : ∀ step ∈ (takeTurns oracle turns c).1, env.answers step.before.shared step.event.1
      (oracle step.before.shared step.event.1).1 (oracle step.before.shared step.event.1).2) :
    Interleaved env first (steps ++ (takeTurns oracle turns c).1) (takeTurns oracle turns c).2 := by
  induction turns generalizing c steps with
  | nil => simpa [takeTurns] using run
  | cons i turns ih =>
    cases asks : c.threads i with
    | ret r =>
      simp only [takeTurns, asks] at fits ⊢
      exact ih run fits
    | call e k =>
      simp only [takeTurns, asks] at fits ⊢
      obtain ⟨now, later⟩ := List.forall_mem_cons.mp fits
      have rest := ih (run.call asks now) later
      rwa [List.append_assoc, List.singleton_append] at rest

theorem takeTurns_run (fits : ∀ s e, env.answers s e (oracle s e).1 (oracle s e).2)
    (run : Interleaved env first steps c) (turns : List ι) :
    Interleaved env first (steps ++ (takeTurns oracle turns c).1) (takeTurns oracle turns c).2 :=
  takeTurns_run_within (I := fun _ => True) (fun s e _ => ⟨fits s e, trivial⟩) run trivial turns

end Process
