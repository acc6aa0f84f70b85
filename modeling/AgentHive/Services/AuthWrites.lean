import AgentHive.Services.AuthService

/-!
What the operations on sessions write, beside those of the administration: a
login may renew a password hash, and a logout counts a version up.
-/

namespace AgentHive

open Process (Program)

theorem OrgSession.Writes.from {α : Type} {good : OrgWrite → Prop} {m : OrgSession α}
    (writes : OrgSession.Writes good m fun _ => True) {I : OrgTables → Prop}
    (keeps : ∀ tables after ws, (∀ w ∈ ws, good w) → OrgTables.write tables ws = some after →
      I tables → I after) (start : I tables) :
    m.From orgEnvironment [] tables fun _ left after => I after ∧ ∀ w ∈ left, good w := by
  refine Program.From.mono (Program.Meets.from (writes [] fun w none => nomatch none)
    (fun _ _ _ _ _ => orgAdmissible) ?_ start) fun r after post => ⟨post.1, post.2.1⟩
  intro tables e r after promise answered kept
  cases e with
  | commit ws =>
    rcases answered with stored | ⟨_, same⟩
    · exact keeps tables after ws promise stored kept
    · exact same ▸ kept
  | isLocked | utcNow => exact answered ▸ kept
  | _ => exact answered.1 ▸ kept

theorem OrgSession.Writes.silent {α : Type} {m : OrgSession α} {tables : OrgTables}
    (writes : OrgSession.Writes (fun _ => False) m fun _ => True) :
    m.From orgEnvironment [] tables fun _ left after => left = [] ∧ after = tables := by
  refine (writes.from (I := fun t => t = tables) ?_ rfl).mono fun _ left after ⟨same, empty⟩ =>
    ⟨List.eq_nil_iff_forall_not_mem.mpr empty, same⟩
  intro t after ws empty stored same
  rw [List.eq_nil_iff_forall_not_mem.mpr empty, OrgTables.write_nothing, Option.some.injEq] at stored
  exact stored.symm.trans same

def AuthOperation.MayWrite {Token : Type} (lib : TextLibrary) :
    AuthOperation Token → OrgWrite → Prop
  | .login _ _, w => ∃ id hash, w = .updateUser id { hashedPassword := some hash }
  | .refresh _, _ => False
  | .logout _, w => ∃ id version, w = .updateUser id { authVersion := some version }
  | .org call, w => call.MayWrite lib w

namespace AuthService

open OrgSession

variable {Token : Type} {lib : TextLibrary} {settings : AuthSettings} {jwt : Jwt Token}
  {good : OrgWrite → Prop}

theorem loadPermissions_writes (userId : UUID) (user : User) :
    Writes good (loadPermissions userId user) fun _ => True := by
  unfold loadPermissions
  split
  · exact writes_pure trivial
  · refine (writes_ask (e := .rolesOf userId user.tenantId) trivial).bind fun rows _ => ?_
    exact writes_pure trivial

theorem build_writes (userId : UUID) (user : User) (permissions : List Permission) :
    Writes good (do
        commit
        let now ← query .utcNow
        pure (buildTokenResponse settings jwt userId user permissions now))
      fun _ => True := by
  refine writes_commit.bind fun _ _ => ?_
  exact (writes_ask (e := .utcNow) trivial).bind fun _ _ => writes_pure trivial

theorem rejectLogin_writes {α : Type} (keys : List String) :
    Writes good (rejectLogin (α := α) keys) fun _ => True := by
  refine writes_commit.bind fun _ _ => ?_
  exact (writes_ask (e := .recordFailure keys) trivial).bind fun _ _ => writes_fail _ _

theorem login_writes (payload : LoginRequest) (ipAddress : Option String) :
    Writes (AuthOperation.MayWrite lib (.login payload ipAddress : AuthOperation Token))
      (login lib settings jwt payload ipAddress) fun _ => True := by
  refine (writes_ask (e := .isLocked _) trivial).bind fun locked _ => ?_
  refine (writes_refuse _ _).bind fun _ _ => ?_
  refine (writes_ask (e := .loginUser _ _) trivial).bind fun row _ => ?_
  cases row with
  | none =>
    refine Writes.bind (Q := fun _ => True) ?_ fun _ _ => ?_
    · refine (writes_ask (e := .activeTenantBySlug _) trivial).bind fun tenant _ => ?_
      cases tenant with
      | none => exact writes_pure trivial
      | some id => exact writes_commit
    · exact (writes_ask (e := .recordFailure _) trivial).bind fun _ _ => writes_fail _ _
  | some entry =>
    dsimp only
    split
    · exact rejectLogin_writes _
    split
    · exact rejectLogin_writes _
    refine (writes_ask (e := .resetFailures _) trivial).bind fun _ _ => ?_
    refine (writes_add ?_).bind fun _ _ => ?_
    · intro w mem
      split at mem
      · exact ⟨_, _, List.mem_singleton.mp mem⟩
      · cases mem
    refine (loadPermissions_writes _ _).bind fun permissions _ => ?_
    exact build_writes _ _ _

theorem assertPrincipalIsActive_writes (principal : Principal) :
    Writes good (assertPrincipalIsActive principal) fun _ => True := by
  refine (writes_ask (e := .getUser principal.userId) trivial).bind fun found _ => ?_
  cases found with
  | none => exact writes_fail _ _
  | some user =>
    refine (writes_refuse _ _).bind fun _ _ => ?_
    refine (writes_ask (e := .getTenant principal.tenantId) trivial).bind fun tenant _ => ?_
    exact writes_refuse _ _

theorem getCurrentPrincipal_writes (headers : AuthHeaders Token) :
    Writes good (getCurrentPrincipal lib settings jwt headers) fun _ => True := by
  unfold getCurrentPrincipal
  split
  · exact writes_throw _
  · exact writes_pure trivial
  · refine (writes_ask (e := .utcNow) trivial).bind fun now _ => ?_
    split
    · exact writes_fail _ _
    · refine (assertPrincipalIsActive_writes _).bind fun _ _ => ?_
      exact writes_pure trivial

theorem loadActiveSessionUser_writes (tenantId userId : UUID) :
    Writes good (loadActiveSessionUser tenantId userId) fun _ => True := by
  refine (writes_ask (e := .activeSessionUser tenantId userId) trivial).bind fun row _ => ?_
  cases row with
  | none => exact writes_fail _ _
  | some entry => exact writes_pure trivial

theorem refreshSession_writes (tenantId userId : UUID) :
    Writes good (refreshSession settings jwt tenantId userId) fun _ => True := by
  refine (loadActiveSessionUser_writes _ _).bind fun user _ => ?_
  refine (loadPermissions_writes _ _).bind fun permissions _ => ?_
  exact build_writes _ _ _

theorem logout_writes (headers : AuthHeaders Token) (tenantId userId : UUID) :
    Writes (AuthOperation.MayWrite lib (.logout headers)) (logout tenantId userId)
      fun _ => True := by
  refine (loadActiveSessionUser_writes _ _).bind fun user _ => ?_
  refine (writes_add ?_).bind fun _ _ => writes_commit
  intro w mem
  exact ⟨_, _, List.mem_singleton.mp mem⟩

theorem endpoint_writes (operation : AuthOperation Token) :
    Writes (operation.MayWrite lib) (operation.endpoint lib settings jwt) fun _ => True := by
  cases operation with
  | login payload ipAddress =>
    exact (login_writes payload ipAddress).bind fun _ _ => writes_pure trivial
  | refresh headers =>
    refine (getCurrentPrincipal_writes headers).bind fun principal _ => ?_
    exact (refreshSession_writes _ _).bind fun _ _ => writes_pure trivial
  | logout headers =>
    refine (getCurrentPrincipal_writes headers).bind fun principal _ => ?_
    exact (logout_writes headers _ _).bind fun _ _ => writes_pure trivial
  | org call =>
    exact (call.endpoint_writes lib).bind fun _ _ => writes_pure trivial

end AuthService

theorem AuthOperation.alone_keeps {Token : Type} {lib : TextLibrary} {settings : AuthSettings}
    {jwt : Jwt Token} {operation : AuthOperation Token} {tables next : OrgTables}
    {result : Except Exc (AuthResult Token)} {I : OrgRows → Prop}
    (alone : Program.Alone orgEnvironment (operation.program lib settings jwt) tables result next)
    (step : ∀ rows after w, operation.MayWrite lib w → OrgRows.apply rows w = some after →
      I rows → I after) (start : I tables.toOrgRows) : I next.toOrgRows := by
  have writes := @AuthService.endpoint_writes Token lib settings jwt operation
  have kept := writes.from (I := fun t => I t.toOrgRows) (fun t after ws may stored =>
    OrgRows.applyAll_keeps (fun rows after w mem => step rows after w (may w mem))
      (OrgTables.applyAll_of_write stored)) start
  have ended : (operation.program lib settings jwt).From orgEnvironment tables
      fun _ after => I after.toOrgRows :=
    (Process.Action.from_run _ _ _ _).mpr (kept.mono fun _ _ _ post => post.1)
  exact Program.from_iff_alone.mp ended result next alone

end AgentHive
