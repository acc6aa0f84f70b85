import AgentHive.Process.Alone

/-!
Programs and actions whose calls are carried out by ones over finer calls.

A run of the whole carries out a run of the program alone, call by call. So a
property that a monitor checks on the coarse calls is one of the fine ones
whenever a fine monitor keeps up with it over every single call. The finer actions
have local variables of their own, which last from one call to the next.
-/

namespace Process

section

variable {E F : Type} {R : E → Type} {Q : F → Type} {α : Type}

namespace Program

def handle (handler : (e : E) → Program F Q (R e)) : Program E R α → Program F Q α
  | .ret a => .ret a
  | .call e k => (handler e).bind fun r => (k r).handle handler

inductive Carries (handler : (e : E) → Program F Q (R e)) :
    List (Event E R) → List (Event F Q) → Prop
  | nil : Carries handler [] []
  | cons {e : E} {r : R e} {t : List (Event E R)} {u v : List (Event F Q)}
      (run : Runs (handler e) u r) (rest : Carries handler t v) :
      Carries handler (⟨e, r⟩ :: t) (u ++ v)

theorem runs_handle {handler : (e : E) → Program F Q (R e)} {p : Program E R α}
    {v : List (Event F Q)} {a : α} (run : Runs (p.handle handler) v a) :
    ∃ t, Runs p t a ∧ Carries handler t v := by
  induction p generalizing v with
  | ret b =>
    cases run
    exact ⟨[], .ret _, .nil⟩
  | call e k ih =>
    obtain ⟨u, w, r, rfl, first, rest⟩ := runs_bind run
    obtain ⟨t, alone, carried⟩ := ih r rest
    exact ⟨⟨e, r⟩ :: t, .call alone, .cons first carried⟩

end Program

namespace Monitor

variable {S U : Type}

def KeepsUp (handler : (e : E) → Program F Q (R e)) (T : Event F Q → Prop)
    (coarse : Monitor E R S) (ok : S → Event E R → Bool)
    (fine : Monitor F Q U) (ok' : U → Event F Q → Bool) (rel : S → U → Prop) : Prop :=
  ∀ ⦃s s' e r u⦄, rel s s' → Program.Runs (handler e) u r → (∀ e ∈ u, T e) →
    ok s ⟨e, r⟩ = true →
      rel (coarse.next s ⟨e, r⟩) (fine.stateAfter s' u) ∧ fine.Always ok' s' u

theorem KeepsUp.always {handler : (e : E) → Program F Q (R e)} {T : Event F Q → Prop}
    {coarse : Monitor E R S} {ok : S → Event E R → Bool} {fine : Monitor F Q U}
    {ok' : U → Event F Q → Bool} {rel : S → U → Prop}
    (keeps : KeepsUp handler T coarse ok fine ok' rel) {t : List (Event E R)}
    {v : List (Event F Q)} (carried : Program.Carries handler t v) (fits : ∀ e ∈ v, T e)
    {s : S} {s' : U} (related : rel s s') (h : coarse.Always ok s t) : fine.Always ok' s' v := by
  induction carried generalizing s s' with
  | nil => trivial
  | cons run rest ih =>
    obtain ⟨now, later⟩ := List.forall_mem_append.mp fits
    obtain ⟨still, here⟩ := keeps related run now h.1
    exact (always_append _ _ _).mpr ⟨here, ih later still h.2⟩

end Monitor

end

namespace Program

variable {E : Type} {R : E → Type} {α β γ : Type}

@[simp] theorem bind_ret (p : Program E R α) : p.bind .ret = p := by
  induction p with
  | ret a => rfl
  | call e k ih => simp only [bind, ih]

theorem bind_assoc (p : Program E R α) (f : α → Program E R β) (g : β → Program E R γ) :
    (p.bind f).bind g = p.bind fun a => (f a).bind g := by
  induction p with
  | ret a => rfl
  | call e k ih => simp only [bind, ih]

end Program

namespace Action

variable {E F : Type} {R : E → Type} {A : F → Type} {σ X α β : Type}

instance : LawfulMonad (Action E R σ X) := by
  refine LawfulMonad.mk' _ ?_ ?_ ?_
  · intro α m
    funext s
    change (m s).bind _ = m s
    refine Eq.trans (congrArg (m s).bind ?_) (Program.bind_ret (m s))
    funext r
    obtain ⟨r | r, s'⟩ := r <;> rfl
  · intro α β a f
    rfl
  · intro α β γ m f g
    funext s
    change ((m s).bind _).bind _ = (m s).bind _
    rw [Program.bind_assoc]
    refine congrArg (m s).bind ?_
    funext r
    obtain ⟨r | r, s'⟩ := r <;> rfl

end Action

def Program.carry {E F : Type} {R : E → Type} {A : F → Type} {σ X α : Type}
    (handler : (e : E) → Action F A σ X (R e)) : Program E R (Except X α) → Action F A σ X α
  | .ret r => Action.ofExcept r
  | .call e k => handler e >>= fun r => (k r).carry handler

namespace Action

variable {E F : Type} {R : E → Type} {A : F → Type} {σ X α β : Type}
  {handler : (e : E) → Action F A σ X (R e)}

def carry (handler : (e : E) → Action F A σ X (R e)) (m : Action E R Unit X α) : Action F A σ X α :=
  (m.run ()).carry handler

@[simp] theorem carry_pure (a : α) :
    (Pure.pure a : Action E R Unit X α).carry handler = Pure.pure a := rfl

@[simp] theorem carry_throw (x : X) :
    (throw x : Action E R Unit X α).carry handler = throw x := rfl

@[simp] theorem carry_perform (e : E) :
    (perform e : Action E R Unit X (R e)).carry handler = handler e :=
  bind_pure (handler e)

@[simp] theorem carry_bind (m : Action E R Unit X α) (f : α → Action E R Unit X β) :
    (m >>= f).carry handler = m.carry handler >>= fun a => (f a).carry handler := by
  change (((m ()).bind _).bind _).carry handler = ((m ()).bind _).carry handler >>= _
  generalize m () = p
  induction p with
  | ret r =>
    obtain ⟨r | r, s⟩ := r
    · rfl
    · rfl
  | call e k ih =>
    simp only [Program.bind, Program.carry, bind_assoc]
    refine congrArg (handler e >>= ·) ?_
    funext r
    exact ih r

@[simp] theorem carry_ite (c : Prop) [Decidable c] (m n : Action E R Unit X α) :
    (if c then m else n).carry handler = if c then m.carry handler else n.carry handler := by
  split <;> rfl

end Action
end Process
