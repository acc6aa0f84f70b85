import AgentHive.Process.Action

/-!
Two programs that run side by side with answers that are alike.
-/

namespace Process

structure Pairing (E : Type) (R : E → Type) where
  pairs : E → E → Prop
  alike : (e e' : E) → R e → R e' → Prop
  alone : E → Bool
  given : (e : E) → R e → Prop
  together : ∀ e e', pairs e e' → alone e = false ∧ alone e' = false

variable {E : Type} {R : E → Type} {α β γ δ σ X : Type}

namespace Program

inductive Paired (p : Pairing E R) (Q : α → β → Prop) : Program E R α → Program E R β → Prop
  | ret {a : α} {b : β} (related : Q a b) : Paired p Q (.ret a) (.ret b)
  | call {e e' : E} {k : R e → Program E R α} {k' : R e' → Program E R β}
      (pairs : p.pairs e e')
      (rest : ∀ r r', p.alike e e' r r' → Paired p Q (k r) (k' r')) :
      Paired p Q (.call e k) (.call e' k')
  | left {e : E} {k : R e → Program E R α} {m' : Program E R β} (alone : p.alone e = true)
      (rest : ∀ r, p.given e r → Paired p Q (k r) m') : Paired p Q (.call e k) m'
  | right {e : E} {m : Program E R α} {k : R e → Program E R β} (alone : p.alone e = true)
      (rest : ∀ r, p.given e r → Paired p Q m (k r)) : Paired p Q m (.call e k)

section Answers

variable (p : Pairing E R)

def shared (t : List (Event E R)) : List (Event E R) := t.filter fun e => !p.alone e.1

def AnsweredAlone (t : List (Event E R)) : Prop :=
  ∀ e ∈ t, p.alone e.1 = true → p.given e.1 e.2

def AlikeInTurn : List (Event E R) → List (Event E R) → Prop
  | e :: t, e' :: t' =>
    p.pairs e.1 e'.1 → p.alike e.1 e'.1 e.2 e'.2 ∧ AlikeInTurn t t'
  | _, _ => True

structure AnswersAlike (t t' : List (Event E R)) : Prop where
  first : AnsweredAlone p t
  second : AnsweredAlone p t'
  inTurn : AlikeInTurn p (shared p t) (shared p t')

end Answers

variable {p : Pairing E R} {Q : α → β → Prop} {Q' : γ → δ → Prop} {e : Event E R}

theorem shared_alone (alone : p.alone e.1 = true) (t : List (Event E R)) :
    shared p (e :: t) = shared p t := by
  simp [shared, alone]

theorem shared_cons (together : p.alone e.1 = false) (t : List (Event E R)) :
    shared p (e :: t) = e :: shared p t := by
  simp [shared, together]

variable {t : List (Event E R)}

theorem AnsweredAlone.tail (answered : AnsweredAlone p (e :: t)) : AnsweredAlone p t :=
  fun e' mem => answered e' (.tail _ mem)

variable {m : Program E R α} {m' : Program E R β}

theorem Paired.mono {Q' : α → β → Prop} (paired : Paired p Q m m') (imp : ∀ a b, Q a b → Q' a b) :
    Paired p Q' m m' := by
  induction paired with
  | ret related => exact .ret (imp _ _ related)
  | call pairs _ ih => exact .call pairs ih
  | left alone _ ih => exact .left alone ih
  | right alone _ ih => exact .right alone ih

theorem Paired.bind {f : α → Program E R γ} {f' : β → Program E R δ} (first : Paired p Q m m')
    (rest : ∀ a b, Q a b → Paired p Q' (f a) (f' b)) : Paired p Q' (m.bind f) (m'.bind f') := by
  induction first with
  | ret related => exact rest _ _ related
  | call pairs _ ih => exact .call pairs ih
  | left alone _ ih => exact .left alone ih
  | right alone _ ih => exact .right alone ih

theorem Paired.runs (paired : Paired p Q m m') {t' : List (Event E R)} {a : α} {b : β}
    (run : Runs m t a) (run' : Runs m' t' b) (alike : AnswersAlike p t t') :
    List.Forall₂ (fun e e' => p.pairs e.1 e'.1) (shared p t) (shared p t') ∧ Q a b := by
  induction paired generalizing t t' with
  | ret related =>
    cases run
    cases run'
    exact ⟨.nil, related⟩
  | call pairs _ ih =>
    obtain ⟨first, second, inTurn⟩ := alike
    cases run with
    | @call _ _ r t _ tail =>
      cases run' with
      | @call _ _ r' t' _ tail' =>
        obtain ⟨own, own'⟩ := p.together _ _ pairs
        rw [shared_cons own, shared_cons own'] at inTurn ⊢
        obtain ⟨now, later⟩ := inTurn pairs
        obtain ⟨together, related⟩ := ih r r' now tail tail' ⟨first.tail, second.tail, later⟩
        exact ⟨.cons pairs together, related⟩
  | left alone _ ih =>
    obtain ⟨first, second, inTurn⟩ := alike
    cases run with
    | @call _ _ r t _ tail =>
      rw [shared_alone alone] at inTurn ⊢
      exact ih r (first _ (.head _) alone) tail run' ⟨first.tail, second, inTurn⟩
  | right alone _ ih =>
    obtain ⟨first, second, inTurn⟩ := alike
    cases run' with
    | @call _ _ r t' _ tail' =>
      rw [shared_alone alone] at inTurn ⊢
      exact ih r (second _ (.head _) alone) run tail' ⟨first, second.tail, inTurn⟩

theorem alikeInTurn_of_answers {answer : (e : E) → R e}
    (alike : ∀ e e', p.pairs e e' → p.alike e e' (answer e) (answer e')) {t' : List (Event E R)}
    (told : ∀ e ∈ t, e.2 = answer e.1) (told' : ∀ e ∈ t', e.2 = answer e.1) :
    AlikeInTurn p t t' := by
  induction t generalizing t' with
  | nil => trivial
  | cons e t ih =>
    cases t' with
    | nil => trivial
    | cons e' t' =>
      intro pairs
      rw [told e (.head _), told' e' (.head _)]
      exact ⟨alike _ _ pairs, ih (fun e mem => told e (.tail _ mem)) fun e mem =>
        told' e (.tail _ mem)⟩

theorem answersAlike_follow {answer : (e : E) → R e}
    (alike : ∀ e e', p.pairs e e' → p.alike e e' (answer e) (answer e'))
    (given : ∀ e, p.alone e = true → p.given e (answer e)) (m : Program E R α)
    (m' : Program E R β) : AnswersAlike p (m.follow answer).1 (m'.follow answer).1 where
  first := follow_told given m
  second := follow_told given m'
  inTurn := alikeInTurn_of_answers alike
    (fun e mem => follow_told (T := fun e => e.2 = answer e.1) (fun _ => rfl) m e
      (List.mem_of_mem_filter mem))
    (fun e mem => follow_told (T := fun e => e.2 = answer e.1) (fun _ => rfl) m' e
      (List.mem_of_mem_filter mem))

end Program

def ResultsPaired (F : X → X → Prop) (Q : α → β → Prop) : Except X α → Except X β → Prop
  | .ok a, .ok b => Q a b
  | .error x, .error y => F x y
  | _, _ => False

theorem ResultsPaired.mono {F F' : X → X → Prop} {Q Q' : α → β → Prop} {r : Except X α}
    {r' : Except X β} (related : ResultsPaired F Q r r') (failures : ∀ x y, F x y → F' x y)
    (values : ∀ a b, Q a b → Q' a b) : ResultsPaired F' Q' r r' := by
  cases r with
  | ok a =>
    cases r' with
    | ok b => exact values a b related
    | error y => exact related
  | error x =>
    cases r' with
    | ok b => exact related
    | error y => exact failures x y related

theorem resultsPaired_self {F : X → X → Prop} (same : ∀ x, F x x) (r : Except X α) :
    ResultsPaired F (· = ·) r r := by
  cases r with
  | ok a => rfl
  | error x => exact same x

theorem ResultsPaired.eq {r r' : Except X α} (related : ResultsPaired (· = ·) (· = ·) r r') :
    r = r' := by
  cases r with
  | ok a =>
    cases r' with
    | ok b => exact congrArg Except.ok related
    | error y => cases related
  | error x =>
    cases r' with
    | ok b => cases related
    | error y => exact congrArg Except.error related

namespace Action

def Paired (p : Pairing E R) (F : X → X → Prop) (Q : α → β → Prop) (m : Action E R σ X α)
    (m' : Action E R σ X β) : Prop :=
  ∀ s, Program.Paired p (fun a b => ResultsPaired F Q a.1 b.1 ∧ a.2 = b.2) (m s) (m' s)

variable {p : Pairing E R} {F F' : X → X → Prop} {Q : α → β → Prop} {Q' : γ → δ → Prop}
  {m : Action E R σ X α} {m' : Action E R σ X β}

theorem Paired.mono {Q' : α → β → Prop} (paired : Paired p F Q m m')
    (failures : ∀ x y, F x y → F' x y) (values : ∀ a b, Q a b → Q' a b) : Paired p F' Q' m m' :=
  fun s => (paired s).mono fun _ _ related => ⟨related.1.mono failures values, related.2⟩

theorem paired_pure {a : α} {b : β} (related : Q a b) :
    Paired p F Q (Pure.pure a : Action E R σ X α) (Pure.pure b : Action E R σ X β) :=
  fun _ => .ret ⟨related, rfl⟩

theorem paired_throw {x y : X} (related : F x y) :
    Paired p F Q (throw x : Action E R σ X α) (throw y : Action E R σ X β) :=
  fun _ => .ret ⟨related, rfl⟩

theorem Paired.bind {f : α → Action E R σ X γ} {f' : β → Action E R σ X δ}
    (first : Paired p F Q m m') (rest : ∀ a b, Q a b → Paired p F Q' (f a) (f' b)) :
    Paired p F Q' (m >>= f) (m' >>= f') := by
  intro s
  refine (first s).bind fun a b related => ?_
  obtain ⟨r, t⟩ := a
  obtain ⟨r', t'⟩ := b
  obtain ⟨related, same⟩ := related
  subst same
  cases r with
  | ok a =>
    cases r' with
    | ok b => exact rest a b related t
    | error y => cases related
  | error x =>
    cases r' with
    | ok b => cases related
    | error y => exact .ret ⟨related, rfl⟩

theorem Paired.tryCatch {handler : X → Action E R σ X α} {handler' : X → Action E R σ X β}
    (body : Paired p F Q m m') (handled : ∀ x y, F x y → Paired p F' Q (handler x) (handler' y)) :
    Paired p F' Q (m.tryCatch handler) (m'.tryCatch handler') := by
  intro s
  refine (body s).bind fun a b related => ?_
  obtain ⟨r, t⟩ := a
  obtain ⟨r', t'⟩ := b
  obtain ⟨related, same⟩ := related
  subst same
  cases r with
  | ok a =>
    cases r' with
    | ok b => exact .ret ⟨related, rfl⟩
    | error y => cases related
  | error x =>
    cases r' with
    | ok b => cases related
    | error y => exact handled x y related t

theorem paired_perform {e e' : E} (pairs : p.pairs e e') :
    Paired p F (p.alike e e') (perform e : Action E R σ X (R e)) (perform e') :=
  fun _ => .call pairs fun _ _ alike => .ret ⟨alike, rfl⟩

theorem paired_left {e : E} (alone : p.alone e = true) {f : R e → Action E R σ X α}
    (rest : ∀ r, p.given e r → Paired p F Q (f r) m') : Paired p F Q (perform e >>= f) m' :=
  fun s => .left alone fun r given => rest r given s

theorem paired_right {e : E} (alone : p.alone e = true) {f : R e → Action E R σ X β}
    (rest : ∀ r, p.given e r → Paired p F Q m (f r)) : Paired p F Q m (perform e >>= f) :=
  fun s => .right alone fun r given => rest r given s

theorem paired_ofExcept {r : Except X α} {r' : Except X β} (related : ResultsPaired F Q r r') :
    Paired p F Q (ofExcept r : Action E R σ X α) (ofExcept r') := by
  cases r with
  | ok a =>
    cases r' with
    | ok b => exact fun _ => .ret ⟨related, rfl⟩
    | error y => cases related
  | error x =>
    cases r' with
    | ok b => cases related
    | error y => exact fun _ => .ret ⟨related, rfl⟩

theorem Paired.run (paired : Paired p F Q m m') (start : σ) :
    Program.Paired p (ResultsPaired F Q) (m.run start) (m'.run start) :=
  (paired start).bind fun _ _ related => .ret related.1

end Action
end Process
