import Mathlib.Data.List.Basic

/-!
Asynchronous generators.
-/

namespace Process

inductive Resumption (ω ε σ α : Type) where
  | returned (state : σ) (result : Except ε α)
  | yielded (value : ω) (state : σ) (resume : σ → Resumption ω ε σ α)

structure Delivered (ω ε σ α : Type) where
  values : List ω
  state : σ
  result : Except ε α

namespace Delivered

variable {ω ε σ α β : Type}

def bind (d : Delivered ω ε σ α) (f : α → σ → Delivered ω ε σ β) : Delivered ω ε σ β :=
  match d.result with
  | .ok a => ⟨d.values ++ (f a d.state).values, (f a d.state).state, (f a d.state).result⟩
  | .error x => ⟨d.values, d.state, .error x⟩

def catching (d : Delivered ω ε σ α) (handler : ε → Option (σ → Delivered ω ε σ α)) :
    Delivered ω ε σ α :=
  match d.result with
  | .ok a => ⟨d.values, d.state, .ok a⟩
  | .error x =>
    match handler x with
    | some handle =>
      ⟨d.values ++ (handle d.state).values, (handle d.state).state, (handle d.state).result⟩
    | none => ⟨d.values, d.state, .error x⟩

def lastly (last : Except ε Unit) (result : Except ε α) : Except ε α :=
  match last with
  | .ok () => result
  | .error x => .error x

def ensuring (d : Delivered ω ε σ α) (last : σ → Except ε Unit × σ) : Delivered ω ε σ α :=
  ⟨d.values, (last d.state).2, lastly (last d.state).1 d.result⟩

end Delivered

namespace Resumption

variable {ω ω' ε σ α β γ : Type}

def bind : Resumption ω ε σ α → (α → σ → Resumption ω ε σ β) → Resumption ω ε σ β
  | .returned s (.ok a), f => f a s
  | .returned s (.error x), _ => .returned s (.error x)
  | .yielded w s resume, f => .yielded w s fun s' => (resume s').bind f

def catching : Resumption ω ε σ α → (ε → Option (σ → Resumption ω ε σ α)) → Resumption ω ε σ α
  | .returned s (.ok a), _ => .returned s (.ok a)
  | .returned s (.error x), handler =>
    match handler x with
    | some handle => handle s
    | none => .returned s (.error x)
  | .yielded w s resume, handler => .yielded w s fun s' => (resume s').catching handler

def ensuring : Resumption ω ε σ α → (σ → Except ε Unit × σ) → Resumption ω ε σ α
  | .returned s result, last => .returned (last s).2 (Delivered.lastly (last s).1 result)
  | .yielded w s resume, last => .yielded w s fun s' => (resume s').ensuring last

def forEach : Resumption ω ε σ Unit → (β → ω → σ → Resumption ω' ε σ β) → β →
    Resumption ω' ε σ β
  | .returned s (.ok ()), _, b => .returned s (.ok b)
  | .returned s (.error x), _, _ => .returned s (.error x)
  | .yielded w s resume, body, b =>
    (body b w s).bind fun b' s' => (resume s').forEach body b'

def onFirst {τ : Type} : Resumption ω ε σ α → τ → Resumption ω ε (σ × τ) α
  | .returned s result, t => .returned (s, t) result
  | .yielded w s resume, t => .yielded w (s, t) fun s' => (resume s'.1).onFirst s'.2

def deliver : Resumption ω ε σ α → Delivered ω ε σ α
  | .returned s result => ⟨[], s, result⟩
  | .yielded w s resume =>
    let rest := (resume s).deliver
    ⟨w :: rest.values, rest.state, rest.result⟩

variable (r : Resumption ω ε σ α)

theorem deliver_bind (f : α → σ → Resumption ω ε σ β) :
    (r.bind f).deliver = r.deliver.bind fun a s => (f a s).deliver := by
  induction r with
  | returned s result =>
    cases result with
    | ok a => rfl
    | error x => rfl
  | yielded w s resume ih =>
    simp only [bind, deliver, ih, Delivered.bind]
    cases (resume s).deliver.result with
    | ok a => rfl
    | error x => rfl

theorem deliver_catching (handler : ε → Option (σ → Resumption ω ε σ α)) :
    (r.catching handler).deliver =
      r.deliver.catching fun x => (handler x).map fun handle s => (handle s).deliver := by
  induction r with
  | returned s result =>
    cases result with
    | ok a => rfl
    | error x =>
      simp only [catching, deliver, Delivered.catching]
      cases handler x with
      | none => rfl
      | some handle => rfl
  | yielded w s resume ih =>
    simp only [catching, deliver, ih, Delivered.catching]
    cases (resume s).deliver.result with
    | ok a => rfl
    | error x =>
      dsimp only
      cases handler x with
      | none => rfl
      | some handle => rfl

theorem deliver_ensuring (last : σ → Except ε Unit × σ) :
    (r.ensuring last).deliver = r.deliver.ensuring last := by
  induction r with
  | returned s result => rfl
  | yielded w s resume ih => simp only [ensuring, deliver, ih, Delivered.ensuring]

theorem deliver_onFirst {τ : Type} (t : τ) :
    (r.onFirst t).deliver = ⟨r.deliver.values, (r.deliver.state, t), r.deliver.result⟩ := by
  induction r with
  | returned s result => rfl
  | yielded w s resume ih => simp only [onFirst, deliver, ih]

theorem bind_assoc (f : α → σ → Resumption ω ε σ β) (h : β → σ → Resumption ω ε σ γ) :
    (r.bind f).bind h = r.bind fun a s => (f a s).bind h := by
  induction r with
  | returned s result =>
    cases result with
    | ok a => rfl
    | error x => rfl
  | yielded w s resume ih =>
    simp only [bind]
    congr
    funext s'
    exact ih s'

def handedOut (out : β → ω → List ω') (next : β → ω → β) : β → List ω → List ω'
  | _, [] => []
  | b, w :: values => out b w ++ handedOut out next (next b w) values

theorem deliver_forEach (r : Resumption ω ε σ Unit) {body : β → ω → σ → Resumption ω' ε σ β}
    {out : β → ω → List ω'} {next : β → ω → β}
    (quiet : ∀ b w s, (body b w s).deliver = ⟨out b w, s, .ok (next b w)⟩) (b : β) :
    (r.forEach body b).deliver =
      ⟨handedOut out next b r.deliver.values, r.deliver.state,
        r.deliver.result.map fun _ => r.deliver.values.foldl next b⟩ := by
  induction r generalizing b with
  | returned s result =>
    cases result with
    | ok a => rfl
    | error x => rfl
  | yielded w s resume ih =>
    simp only [forEach, deliver_bind, quiet, Delivered.bind, ih, deliver, handedOut,
      List.foldl_cons]

end Resumption

def Generator (ω ε σ α : Type) := σ → Resumption ω ε σ α

namespace Generator

variable {ω ω' ε σ α β : Type}

instance instMonad : Monad (Generator ω ε σ) where
  pure a := fun s => .returned s (.ok a)
  bind g f := fun s => (g s).bind f

def yielding (w : ω) : Generator ω ε σ Unit := fun s =>
  .yielded w s fun s' => .returned s' (.ok ())

def raising (x : ε) : Generator ω ε σ α := fun s => .returned s (.error x)

variable (call : σ → Except ε α × σ)

def awaiting : Generator ω ε σ α := fun s =>
  .returned (call s).2 (call s).1

def computing (result : Except ε α) : Generator ω ε σ α := fun s => .returned s result

def catching (g : Generator ω ε σ α) (handler : ε → Option (Generator ω ε σ α)) :
    Generator ω ε σ α := fun s => (g s).catching handler

def attempting (g : Generator ω ε σ α) (handler : ε → Option (Generator ω ε σ (Option α))) :
    Generator ω ε σ (Option α) :=
  catching (g >>= fun a => pure (some a)) handler

def ensuring (g : Generator ω ε σ α) (last : σ → Except ε Unit × σ) : Generator ω ε σ α :=
  fun s => (g s).ensuring last

def forEach (g : Generator ω ε σ Unit) (body : β → ω → Generator ω' ε σ β) (b : β) :
    Generator ω' ε σ β := fun s => (g s).forEach body b

def onFirst {τ : Type} (g : Generator ω ε σ α) : Generator ω ε (σ × τ) α :=
  fun s => (g s.1).onFirst s.2

def run (g : Generator ω ε σ α) (s : σ) : Delivered ω ε σ α := (g s).deliver

@[simp] theorem run_pure (a : α) (s : σ) :
    (pure a : Generator ω ε σ α).run s = ⟨[], s, .ok a⟩ := rfl

@[simp] theorem run_yielding (w : ω) (s : σ) :
    (yielding w : Generator ω ε σ Unit).run s = ⟨[w], s, .ok ()⟩ := rfl

@[simp] theorem run_raising (x : ε) (s : σ) :
    (raising x : Generator ω ε σ α).run s = ⟨[], s, .error x⟩ := rfl

@[simp] theorem run_computing (result : Except ε α) (s : σ) :
    (computing result : Generator ω ε σ α).run s = ⟨[], s, result⟩ := rfl

@[simp] theorem run_awaiting (s : σ) :
    (awaiting call : Generator ω ε σ α).run s = ⟨[], (call s).2, (call s).1⟩ := rfl

variable (g : Generator ω ε σ α)

theorem run_bind (f : α → Generator ω ε σ β) (s : σ) :
    (g >>= f).run s = (g.run s).bind fun a => (f a).run :=
  Resumption.deliver_bind (g s) f

theorem run_catching (handler : ε → Option (Generator ω ε σ α)) (s : σ) :
    (g.catching handler).run s = (g.run s).catching fun x => (handler x).map run :=
  Resumption.deliver_catching (g s) handler

theorem run_ensuring (last : σ → Except ε Unit × σ) (s : σ) :
    (g.ensuring last).run s = (g.run s).ensuring last :=
  Resumption.deliver_ensuring (g s) last

theorem run_onFirst {τ : Type} (s : σ × τ) :
    (g.onFirst : Generator ω ε (σ × τ) α).run s =
      ⟨(g.run s.1).values, ((g.run s.1).state, s.2), (g.run s.1).result⟩ :=
  Resumption.deliver_onFirst (g s.1) s.2

variable {body : β → ω → Generator ω' ε σ β}

theorem run_forEach (g : Generator ω ε σ Unit) {out : β → ω → List ω'} {next : β → ω → β}
    (quiet : ∀ b w s, (body b w).run s = ⟨out b w, s, .ok (next b w)⟩) (b : β) (s : σ) :
    (g.forEach body b).run s =
      ⟨Resumption.handedOut out next b (g.run s).values, (g.run s).state,
        (g.run s).result.map fun _ => (g.run s).values.foldl next b⟩ :=
  Resumption.deliver_forEach (g s) quiet b

theorem pure_bind (a : α) (f : α → Generator ω ε σ β) :
    (pure a : Generator ω ε σ α) >>= f = f a := rfl

theorem bind_assoc {γ : Type} (f : α → Generator ω ε σ β)
    (h : β → Generator ω ε σ γ) : g >>= f >>= h = g >>= fun a => f a >>= h := by
  funext s
  exact Resumption.bind_assoc (g s) f h

variable {g : Generator ω ε σ α} {f : α → Generator ω ε σ β} {s : σ} {a : α}

theorem run_bind_of_ok (h : (g.run s).result = .ok a) :
    (g >>= f).run s =
      ⟨(g.run s).values ++ ((f a).run (g.run s).state).values,
        ((f a).run (g.run s).state).state, ((f a).run (g.run s).state).result⟩ := by
  rw [run_bind, Delivered.bind, h]

theorem run_bind_of_error {x : ε} (h : (g.run s).result = .error x) :
    (g >>= f).run s = ⟨(g.run s).values, (g.run s).state, .error x⟩ := by
  rw [run_bind, Delivered.bind, h]

def Returns (g : Generator ω ε σ α) (s : σ) : Prop := ∃ a, (g.run s).result = .ok a

theorem returns_pure (a : α) (s : σ) : Returns (pure a : Generator ω ε σ α) s := ⟨a, rfl⟩

def Answers (g : Generator ω ε σ α) (s : σ) (a : α) (s' : σ) : Prop :=
  (g.run s).result = .ok a ∧ (g.run s).state = s'

def Raises (g : Generator ω ε σ α) (s : σ) (x : ε) (s' : σ) : Prop :=
  (g.run s).result = .error x ∧ (g.run s).state = s'

variable {s' : σ}

theorem Raises.not_returns {x : ε} (h : Raises g s x s') : ¬ Returns g s := by
  intro returned
  obtain ⟨a, ok⟩ := returned
  rw [h.1] at ok
  cases ok

theorem answers_awaiting {call : σ → Except ε α × σ} :
    Answers (awaiting call : Generator ω ε σ α) s a s' ↔ call s = (.ok a, s') := by
  rw [Answers, run_awaiting, Prod.ext_iff]

theorem answers_pure {b : α} : Answers (pure a : Generator ω ε σ α) s b s' ↔ a = b ∧ s = s' := by
  rw [Answers, run_pure, Except.ok.injEq]

theorem answers_computing {result : Except ε α} :
    Answers (computing result : Generator ω ε σ α) s a s' ↔ result = .ok a ∧ s = s' := by
  rw [Answers, run_computing]

theorem answers_bind {s'' : σ} {b : β} :
    Answers (g >>= f) s b s'' ↔ ∃ a s', Answers g s a s' ∧ Answers (f a) s' b s'' := by
  cases h : (g.run s).result with
  | ok a =>
    rw [Answers, run_bind_of_ok h]
    constructor
    · intro answered
      exact ⟨a, _, ⟨h, rfl⟩, answered⟩
    · intro found
      obtain ⟨a', s', ⟨eq, rfl⟩, answered⟩ := found
      rw [h] at eq
      cases eq
      exact answered
  | error x =>
    rw [Answers, run_bind_of_error h]
    constructor
    · intro answered
      cases answered.1
    · intro found
      obtain ⟨a', s', ⟨eq, rfl⟩, answered⟩ := found
      rw [h] at eq
      cases eq

theorem run_bind_of_answers (answered : Answers g s a s') :
    (g >>= f).run s =
      ⟨(g.run s).values ++ ((f a).run s').values, ((f a).run s').state,
        ((f a).run s').result⟩ := by
  rw [run_bind_of_ok answered.1, answered.2]

theorem answers_forEach {g : Generator ω ε σ Unit} {out : β → ω → List ω'} {next : β → ω → β}
    (quiet : ∀ b w s, (body b w).run s = ⟨out b w, s, .ok (next b w)⟩) {b b' : β} :
    Answers (g.forEach body b) s b' s' ↔
      Answers g s () s' ∧ (g.run s).values.foldl next b = b' := by
  rw [Answers, Answers, run_forEach g quiet b s]
  cases (g.run s).result with
  | ok u =>
    simp only [Except.map, Except.ok.injEq, true_and]
    exact And.comm
  | error x => simp only [Except.map, reduceCtorEq, false_and]

theorem mem_run_bind {w : ω} (mem : w ∈ ((g >>= f).run s).values) :
    w ∈ (g.run s).values ∨ ∃ a s', Answers g s a s' ∧ w ∈ ((f a).run s').values := by
  cases h : (g.run s).result with
  | ok a =>
    rw [run_bind_of_ok h] at mem
    cases List.mem_append.mp mem with
    | inl before => exact .inl before
    | inr after => exact .inr ⟨a, _, ⟨h, rfl⟩, after⟩
  | error x =>
    rw [run_bind_of_error h] at mem
    exact .inl mem

theorem returns_bind :
    Returns (g >>= f) s ↔
      Returns g s ∧ ∀ a s', Answers g s a s' → Returns (f a) s' := by
  cases h : (g.run s).result with
  | ok a =>
    rw [Returns, run_bind_of_ok h]
    constructor
    · intro returned
      refine ⟨⟨a, h⟩, fun b s' answered => ?_⟩
      obtain ⟨eq, rfl⟩ := answered
      rw [h] at eq
      cases eq
      exact returned
    · intro both
      exact both.2 a _ ⟨h, rfl⟩
  | error x =>
    have raises : Raises g s x (g.run s).state := ⟨h, rfl⟩
    constructor
    · intro returned
      obtain ⟨b, eq⟩ := returned
      rw [run_bind_of_error h] at eq
      cases eq
    · intro both
      exact absurd both.1 raises.not_returns

theorem run_catching_of_ok {handler : ε → Option (Generator ω ε σ α)} (h : (g.run s).result = .ok a) :
    (g.catching handler).run s = ⟨(g.run s).values, (g.run s).state, .ok a⟩ := by
  rw [run_catching, Delivered.catching, h]

theorem run_catching_of_none {handler : ε → Option (Generator ω ε σ α)} {x : ε}
    (h : (g.run s).result = .error x) (declined : handler x = none) :
    (g.catching handler).run s = ⟨(g.run s).values, (g.run s).state, .error x⟩ := by
  simp only [run_catching, Delivered.catching, h, declined, Option.map_none]

theorem run_catching_of_some {handle : Generator ω ε σ α} {handler : ε → Option (Generator ω ε σ α)}
    {x : ε} (h : (g.run s).result = .error x) (taken : handler x = some handle) :
    (g.catching handler).run s =
      ⟨(g.run s).values ++ (handle.run (g.run s).state).values,
        (handle.run (g.run s).state).state, (handle.run (g.run s).state).result⟩ := by
  simp only [run_catching, Delivered.catching, h, taken, Option.map_some]

theorem returns_catching {handler : ε → Option (Generator ω ε σ α)} :
    Returns (g.catching handler) s ↔
      ∀ x s', Raises g s x s' → ∃ handle, handler x = some handle ∧ Returns handle s' := by
  cases h : (g.run s).result with
  | ok a =>
    refine ⟨fun _ x s' raised => ?_, fun _ => ⟨a, by rw [run_catching_of_ok h]⟩⟩
    rw [Raises, h] at raised
    cases raised.1
  | error x =>
    have raises : Raises g s x (g.run s).state := ⟨h, rfl⟩
    cases taken : handler x with
    | none =>
      constructor
      · intro returned
        obtain ⟨a, ok⟩ := returned
        rw [run_catching_of_none h taken] at ok
        cases ok
      · intro handled
        obtain ⟨handle, found, _⟩ := handled x _ raises
        rw [taken] at found
        cases found
    | some handle =>
      rw [Returns, run_catching_of_some h taken]
      constructor
      · intro returned y s' raised
        obtain ⟨eq, rfl⟩ := raised
        rw [h] at eq
        cases eq
        exact ⟨handle, taken, returned⟩
      · intro handled
        obtain ⟨found, same, returned⟩ := handled x _ raises
        rw [taken] at same
        cases same
        exact returned

variable {handler : ε → Option (Generator ω ε σ (Option α))}

theorem run_attempting_of_ok (h : (g.run s).result = .ok a) :
    (g.attempting handler).run s = ⟨(g.run s).values, (g.run s).state, .ok (some a)⟩ := by
  have bound := run_bind_of_ok (f := fun a => (pure (some a) : Generator ω ε σ (Option α))) h
  rw [attempting, run_catching_of_ok (by rw [bound]; rfl), bound]
  simp only [run_pure, List.append_nil]

theorem run_attempting_of_none {x : ε} (h : (g.run s).result = .error x)
    (declined : handler x = none) :
    (g.attempting handler).run s = ⟨(g.run s).values, (g.run s).state, .error x⟩ := by
  have bound := run_bind_of_error (f := fun a => (pure (some a) : Generator ω ε σ (Option α))) h
  rw [attempting, run_catching_of_none (by rw [bound]) declined, bound]

theorem run_attempting_of_some {handle : Generator ω ε σ (Option α)} {x : ε}
    (h : (g.run s).result = .error x) (taken : handler x = some handle) :
    (g.attempting handler).run s =
      ⟨(g.run s).values ++ (handle.run (g.run s).state).values,
        (handle.run (g.run s).state).state, (handle.run (g.run s).state).result⟩ := by
  have bound := run_bind_of_error (f := fun a => (pure (some a) : Generator ω ε σ (Option α))) h
  rw [attempting, run_catching_of_some (by rw [bound]) taken, bound]

theorem answers_attempting
    (ends : ∀ x handle s a s', handler x = some handle → ¬ Answers handle s (some a) s') :
    Answers (g.attempting handler) s (some a) s' ↔ Answers g s a s' := by
  cases h : (g.run s).result with
  | ok b =>
    rw [Answers, Answers, run_attempting_of_ok h, h]
    simp only [Except.ok.injEq, Option.some.injEq]
  | error x =>
    constructor
    · intro answered
      cases taken : handler x with
      | none =>
        rw [Answers, run_attempting_of_none h taken] at answered
        cases answered.1
      | some handle =>
        rw [Answers, run_attempting_of_some h taken] at answered
        exact absurd answered (ends x handle _ a s' taken)
    · intro answered
      rw [Answers, h] at answered
      cases answered.1

theorem raises_some {x : ε} :
    Raises (g >>= fun a => (pure (some a) : Generator ω ε σ (Option α))) s x s' ↔
      Raises g s x s' := by
  cases h : (g.run s).result with
  | ok a =>
    rw [Raises, Raises, run_bind_of_ok h, h]
    constructor <;> intro raised <;> cases raised.1
  | error y =>
    rw [Raises, Raises, run_bind_of_error h, h]
    simp only [Except.error.injEq]

theorem returns_attempting :
    Returns (g.attempting handler) s ↔
      ∀ x s', Raises g s x s' → ∃ handle, handler x = some handle ∧ Returns handle s' := by
  simp only [attempting, returns_catching, raises_some]

def Yields (P : ω → Prop) (g : Generator ω ε σ α) : Prop := ∀ s, ∀ w ∈ (g.run s).values, P w

abbrev Silent (g : Generator ω ε σ α) : Prop := Yields (fun _ => False) g

theorem Silent.values_eq (silent : Silent g) (s : σ) : (g.run s).values = [] :=
  List.eq_nil_iff_forall_not_mem.mpr (silent s)

theorem Silent.yields (silent : Silent g) (P : ω → Prop) : Yields P g := by
  intro s w mem
  exact (silent s w mem).elim

variable {P : ω → Prop}

theorem yields_pure (a : α) : Yields P (pure a : Generator ω ε σ α) := by
  intro s w mem
  cases mem

theorem yields_raising (x : ε) : Yields P (raising x : Generator ω ε σ α) := by
  intro s w mem
  cases mem

theorem yields_computing (result : Except ε α) :
    Yields P (computing result : Generator ω ε σ α) := by
  intro s w mem
  cases mem

theorem yields_awaiting : Yields P (awaiting call : Generator ω ε σ α) := by
  intro s w mem
  cases mem

theorem yields_yielding {w : ω} (h : P w) : Yields P (yielding w : Generator ω ε σ Unit) := by
  intro s w' mem
  cases List.mem_singleton.mp mem
  exact h

theorem yields_bind (first : Yields P g) (rest : ∀ a, Yields P (f a)) : Yields P (g >>= f) := by
  intro s w mem
  cases h : (g.run s).result with
  | ok a =>
    rw [run_bind_of_ok h] at mem
    cases List.mem_append.mp mem with
    | inl before => exact first s w before
    | inr after => exact rest a _ w after
  | error x =>
    rw [run_bind_of_error h] at mem
    exact first s w mem

theorem yields_catching {handler : ε → Option (Generator ω ε σ α)} (body : Yields P g)
    (handles : ∀ x handle, handler x = some handle → Yields P handle) :
    Yields P (g.catching handler) := by
  intro s w mem
  cases h : (g.run s).result with
  | ok a =>
    rw [run_catching_of_ok h] at mem
    exact body s w mem
  | error x =>
    cases taken : handler x with
    | none =>
      rw [run_catching_of_none h taken] at mem
      exact body s w mem
    | some handle =>
      rw [run_catching_of_some h taken] at mem
      cases List.mem_append.mp mem with
      | inl before => exact body s w before
      | inr after => exact handles x handle taken _ w after

theorem yields_ensuring (body : Yields P g) (last : σ → Except ε Unit × σ) :
    Yields P (g.ensuring last) := by
  intro s w mem
  rw [run_ensuring] at mem
  exact body s w mem

theorem yields_forEach {P : ω' → Prop} (g : Generator ω ε σ Unit)
    (step : ∀ b w, Yields P (body b w)) (b : β) : Yields P (g.forEach body b) := by
  intro s
  change ∀ w ∈ ((g s).forEach body b).deliver.values, P w
  generalize g s = r
  induction r generalizing b with
  | returned s result =>
    cases result <;> intro w mem <;> cases mem
  | yielded w s resume ih =>
    exact yields_bind (g := body b w) (f := fun b' s' => (resume s').forEach body b')
      (step b w) (fun b' s' => ih s' b') s

end Generator
namespace Resumption

variable {ω ω' ε σ α β : Type}

inductive Traces : Resumption ω ε σ α → List ω → σ → Except ε α → Prop
  | returned (s : σ) (result : Except ε α) : Traces (.returned s result) [] s result
  | yielded {w : ω} {s s' last : σ} {resume : σ → Resumption ω ε σ α} {values : List ω}
      {result : Except ε α} (rest : Traces (resume s') values last result) :
      Traces (.yielded w s resume) (w :: values) last result

theorem traces_deliver (r : Resumption ω ε σ α) :
    Traces r r.deliver.values r.deliver.state r.deliver.result := by
  induction r with
  | returned s result => exact .returned s result
  | yielded w s resume ih => exact .yielded (ih s)

theorem traces_bind {r : Resumption ω ε σ α} {f : α → σ → Resumption ω ε σ β} {values : List ω}
    {last : σ} {b : β} (traced : Traces (r.bind f) values last (.ok b)) :
    ∃ first a s rest, values = first ++ rest ∧ Traces r first s (.ok a) ∧
      Traces (f a s) rest last (.ok b) := by
  induction r generalizing values with
  | returned s result =>
    cases result with
    | ok a => exact ⟨[], a, s, values, rfl, .returned s (.ok a), traced⟩
    | error x => cases traced
  | yielded w s resume ih =>
    cases traced with
    | yielded later =>
      obtain ⟨first, a, s', rest, rfl, before, after⟩ := ih _ later
      exact ⟨w :: first, a, s', rest, rfl, .yielded before, after⟩

inductive Looped (body : β → ω → σ → Resumption ω' ε σ β) : β → List ω → List ω' → β → Prop
  | nil (b : β) : Looped body b [] [] b
  | cons {b b' b'' : β} {w : ω} {values : List ω} {s s' : σ} {sent later : List ω'}
      (now : Traces (body b w s) sent s' (.ok b')) (rest : Looped body b' values later b'') :
      Looped body b (w :: values) (sent ++ later) b''

theorem traces_forEach {r : Resumption ω ε σ Unit} {body : β → ω → σ → Resumption ω' ε σ β}
    {b b' : β} {sent : List ω'} {last : σ} (traced : Traces (r.forEach body b) sent last (.ok b')) :
    ∃ values, Traces r values last (.ok ()) ∧ Looped body b values sent b' := by
  induction r generalizing b sent with
  | returned s result =>
    cases result with
    | ok u =>
      cases traced
      exact ⟨[], .returned _ _, .nil _⟩
    | error x => cases traced
  | yielded w s resume ih =>
    obtain ⟨first, next, s', rest, rfl, now, later⟩ := traces_bind traced
    obtain ⟨values, traced, looped⟩ := ih s' later
    exact ⟨w :: values, .yielded traced, .cons now looped⟩

end Resumption

namespace Generator

variable {ω ω' ε σ α β : Type}

def Returning (g : Generator ω ε σ α) (s : σ) (values : List ω) (s' : σ) (a : α) : Prop :=
  Resumption.Traces (g s) values s' (.ok a)

variable {g : Generator ω ε σ α} {s : σ}

theorem returning_of_run {a : α} (h : (g.run s).result = .ok a) :
    Returning g s (g.run s).values (g.run s).state a := by
  rw [Returning, ← h]
  exact Resumption.traces_deliver (g s)

variable {values : List ω}

theorem returning_bind {f : α → Generator ω ε σ β} {last : σ} {b : β}
    (traced : Returning (g >>= f) s values last b) :
    ∃ first a s' rest, values = first ++ rest ∧ Returning g s first s' a ∧
      Returning (f a) s' rest last b :=
  Resumption.traces_bind traced

theorem returning_pure {a b : α} {s' : σ}
    (traced : Returning (pure a : Generator ω ε σ α) s values s' b) :
    values = [] ∧ s' = s ∧ b = a := by
  cases traced
  exact ⟨rfl, rfl, rfl⟩

theorem returning_yielding {w : ω} {s' : σ} {u : Unit}
    (traced : Returning (yielding w : Generator ω ε σ Unit) s values s' u) : values = [w] := by
  cases traced with
  | yielded rest =>
    cases rest
    rfl

theorem returning_awaiting {call : σ → Except ε α × σ} {s' : σ} {a : α}
    (traced : Returning (awaiting call : Generator ω ε σ α) s values s' a) :
    values = [] ∧ call s = (.ok a, s') := by
  have ended : (awaiting call : Generator ω ε σ α) s = .returned (call s).2 (call s).1 := rfl
  rw [Returning, ended] at traced
  generalize met : call s = answer at traced
  obtain ⟨result, state⟩ := answer
  cases traced
  exact ⟨rfl, rfl⟩

theorem returning_computing {result : Except ε α} {s' : σ} {a : α}
    (traced : Returning (computing result : Generator ω ε σ α) s values s' a) :
    values = [] ∧ result = .ok a := by
  cases traced
  exact ⟨rfl, rfl⟩

theorem returning_forEach {g : Generator ω ε σ Unit} {body : β → ω → Generator ω' ε σ β} {b b' : β}
    {s' : σ} {sent : List ω'} (traced : Returning (g.forEach body b) s sent s' b') :
    ∃ values, Returning g s values s' () ∧ Resumption.Looped body b values sent b' :=
  Resumption.traces_forEach traced

theorem Silent.returning (silent : Silent g) {s' : σ} {a : α} (traced : Returning g s values s' a) :
    values = [] := by
  have nothing := silent s
  rw [Generator.run] at nothing
  rw [Returning] at traced
  cases reached : g s with
  | returned s₁ result =>
    rw [reached] at traced
    cases traced
    rfl
  | yielded w s₁ resume =>
    rw [reached] at nothing
    exact (nothing w List.mem_cons_self).elim

end Generator
end Process
