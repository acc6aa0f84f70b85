import AgentHive.Services.AuthWrites

/-!
The rights of an accepted access token beside the rights its user has by now.
-/

namespace AgentHive

open Process (Action Program)

namespace OrgSession

variable {α β : Type} {pending : List OrgWrite} {tables : OrgTables}
  {Q : α → List OrgWrite → OrgTables → Prop}

def Ends (m : OrgSession α) (pending : List OrgWrite) (tables : OrgTables)
    (Q : α → List OrgWrite → OrgTables → Prop) : Prop :=
  m.From orgEnvironment pending tables fun r left after => ∀ a, r = .ok a → Q a left after

theorem Ends.mono {m : OrgSession α} {Q' : α → List OrgWrite → OrgTables → Prop}
    (h : m.Ends pending tables Q) (imp : ∀ a left after, Q a left after → Q' a left after) :
    m.Ends pending tables Q' :=
  Action.From.mono h fun _ left after post a eq => imp a left after (post a eq)

theorem ends_trivial (m : OrgSession α) : m.Ends pending tables fun _ _ _ => True :=
  Program.from_iff_alone.mpr fun _ _ _ _ _ => trivial

theorem ends_pure {a : α} (h : Q a pending tables) : Ends (Pure.pure a) pending tables Q := by
  intro b eq
  cases eq
  exact h

theorem ends_fail (statusCode : Nat) (detail : String) :
    Ends (fail statusCode detail) pending tables Q := fun _ eq => nomatch eq

theorem Ends.bind {m : OrgSession α} {f : α → OrgSession β}
    {Q' : β → List OrgWrite → OrgTables → Prop} (first : m.Ends pending tables Q)
    (rest : ∀ a left after, Q a left after → (f a).Ends left after Q') :
    Ends (m >>= f) pending tables Q' := by
  unfold Ends
  rw [Action.from_bind]
  refine Action.From.mono first fun r left after post => ?_
  cases r with
  | error x =>
    intro b eq
    cases eq
  | ok a => exact rest a left after (post a rfl)

theorem ends_query {e : OrgEffect} (reads : ∀ r after, orgEnvironment.answers tables e r after →
    after = tables ∧ ∀ row, r = .ok row → row = tables.read e) :
    Ends (query e) pending tables fun row left after =>
      row = tables.read e ∧ left = pending ∧ after = tables := by
  unfold Ends query
  rw [Action.from_bind, Action.from_perform]
  intro r after answered
  obtain ⟨same, row⟩ := reads r after answered
  cases r with
  | error x =>
    intro b eq
    cases eq
  | ok a =>
    intro b eq
    cases eq
    exact ⟨row a rfl, rfl, same⟩

theorem ends_free {e : OrgEffect} (free : ∀ r after, orgEnvironment.answers tables e r after →
    after = tables) :
    Ends (query e) pending tables fun _ left after => left = pending ∧ after = tables := by
  unfold Ends query
  rw [Action.from_bind, Action.from_perform]
  intro r after answered
  cases r with
  | error x =>
    intro b eq
    cases eq
  | ok a =>
    intro b eq
    exact ⟨rfl, free _ after answered⟩

theorem ends_add (writes : List OrgWrite) :
    Ends (add writes) pending tables fun _ left after =>
      left = pending ++ writes ∧ after = tables :=
  fun _ _ => ⟨rfl, rfl⟩

theorem ends_commit :
    Ends commit pending tables fun _ left after => tables.write pending = some after ∧ left = [] := by
  unfold Ends
  simp only [commit, query, Action.from_bind, Action.from_get, Action.from_perform]
  intro r after answered
  cases r with
  | error x =>
    intro b eq
    cases eq
  | ok u =>
    intro b eq
    rcases answered with stored | ⟨⟨x, failed⟩, _⟩
    · exact ⟨stored, rfl⟩
    · cases failed

theorem ends_refuse {condition : Prop} [Decidable condition] (statusCode : Nat) (detail : String) :
    Ends (refuse condition statusCode detail) pending tables fun _ left after =>
      ¬ condition ∧ left = pending ∧ after = tables := by
  unfold refuse
  split
  · exact ends_fail _ _
  · rename_i not
    exact ends_pure ⟨not, rfl, rfl⟩

end OrgSession

namespace TokenRights

open OrgSession

variable {Token : Type} {lib : TextLibrary} {settings : AuthSettings} {jwt : Jwt Token}
  {pending : List OrgWrite} {tables : OrgTables} {permission : Permission}

theorem mem_sortedPermissions {lists : List (List Permission)} :
    permission ∈ OrgAdmin.sortedPermissions lists ↔ ∃ list ∈ lists, permission ∈ list := by
  simp [OrgAdmin.sortedPermissions, List.mem_insertionSort]

variable {userId : UUID} {user : User}

theorem ends_loadPermissions (stored : tables.users.get userId = some user) :
    Ends (AuthService.loadPermissions userId user) pending tables fun permissions left after =>
      (∀ p, p ∈ permissions ↔ tables.Holds userId p) ∧ left = pending ∧ after = tables := by
  unfold AuthService.loadPermissions
  split
  · rename_i all
    refine ends_pure ⟨fun p => ?_, rfl, rfl⟩
    rw [Bool.or_eq_true] at all
    refine ⟨fun _ => ⟨user, stored, ?_⟩, fun _ => Permission.mem_all p⟩
    rcases all with admin | isSuper
    · exact .inl admin
    · exact .inr (.inl isSuper)
  · rename_i plain
    rw [Bool.or_eq_true, not_or] at plain
    refine (ends_query (e := .rolesOf userId user.tenantId) fun _ _ => id).bind ?_
    intro rows left after ⟨read, sameLeft, sameAfter⟩
    refine ends_pure ⟨fun p => ?_, sameLeft, sameAfter⟩
    rw [mem_sortedPermissions]
    constructor
    · intro ⟨list, mem, named⟩
      obtain ⟨entry, isRole, rfl⟩ := List.mem_map.mp mem
      rw [read] at isRole
      exact ⟨user, stored, .inr (.inr ⟨entry, isRole, named⟩)⟩
    · intro ⟨account, found, rights⟩
      cases Option.some.inj (stored.symm.trans found)
      rcases rights with admin | isSuper | ⟨entry, isRole, named⟩
      · exact absurd admin plain.1
      · exact absurd isSuper plain.2
      · refine ⟨_, List.mem_map.mpr ⟨entry, ?_, rfl⟩, named⟩
        rw [read]
        exact isRole

structure IsSnapshot (tables : OrgTables) (payload : AccessToken) : Prop where
  account : ∃ user, tables.users.get payload.sub = some user ∧ user.tenantId = payload.tenantId ∧
    user.authVersion = payload.ver
  permissions : ∀ p, p ∈ payload.permissions ↔ tables.Holds payload.sub p

variable {permissions : List Permission}

theorem isSnapshot_created (stored : tables.users.get userId = some user)
    (loaded : ∀ p, p ∈ permissions ↔ tables.Holds userId p) (now : Nat) :
    IsSnapshot tables (AuthService.createAccessToken settings userId user permissions now) :=
  ⟨⟨user, stored, rfl, rfl⟩, loaded⟩

def Issues (jwt : Jwt Token) (tables : OrgTables) (response : AuthTokenResponse Token) : Prop :=
  ∃ payload, response.accessToken = jwt.encode payload ∧ IsSnapshot tables payload

theorem ends_build (stored : tables.users.get userId = some user)
    (loaded : ∀ p, p ∈ permissions ↔ tables.Holds userId p) {now : OrgTables} :
    Ends (do
        commit
        let now ← query .utcNow
        pure (AuthService.buildTokenResponse settings jwt userId user permissions now))
      pending now fun response _ _ => Issues jwt tables response := by
  refine ends_commit.bind fun _ left after _ => ?_
  refine (ends_free (e := .utcNow) fun _ _ => id).bind fun time left after _ => ends_pure ?_
  exact ⟨_, rfl, isSnapshot_created stored loaded time⟩

theorem ends_acceptLogin {payload : LoginRequest} {keys : List String}
    (stored : tables.users.get userId = some user) :
    Ends (AuthService.acceptLogin lib settings jwt payload keys userId user) pending tables
      fun response _ _ => Issues jwt tables response := by
  refine (ends_query (e := .resetFailures keys) fun _ _ => id).bind ?_
  intro _ left after ⟨_, _, same⟩
  subst same
  refine (ends_add _).bind ?_
  intro _ left now ⟨_, same⟩
  subst same
  refine (ends_loadPermissions stored).bind fun permissions left now ⟨loaded, _⟩ => ?_
  exact ends_build stored loaded

theorem ends_rejectLogin {α : Type} {keys : List String}
    {Q : α → List OrgWrite → OrgTables → Prop} :
    Ends (AuthService.rejectLogin keys) pending tables Q := by
  refine ends_commit.bind fun _ left after _ => ?_
  refine (ends_query (e := .recordFailure keys) fun _ _ => id).bind fun _ left after _ => ?_
  exact ends_fail _ _

theorem ends_login {payload : LoginRequest} {ipAddress : Option String} :
    Ends (AuthService.login lib settings jwt payload ipAddress) pending tables
      fun response _ _ => Issues jwt tables response := by
  refine (ends_free (e := .isLocked _) fun _ _ => id).bind fun locked left after ⟨_, same⟩ => ?_
  subst same
  refine (ends_refuse _ _).bind fun _ left now ⟨_, _, same⟩ => ?_
  subst same
  refine (ends_query (e := .loginUser _ _) fun _ _ => id).bind fun row left now
    ⟨read, _, same⟩ => ?_
  subst same
  cases row with
  | none =>
    refine (ends_trivial _).bind fun _ left now _ => ?_
    refine (ends_query (e := .recordFailure _) fun _ _ => id).bind fun _ left now _ => ?_
    exact ends_fail _ _
  | some entry =>
    have stored := OrderedDict.get_of_mem_entries (List.mem_of_find?_eq_some read.symm)
    dsimp only
    split
    · exact ends_rejectLogin
    · split
      · exact ends_rejectLogin
      · exact ends_acceptLogin stored

variable {tenantId : UUID}

theorem ends_loadActiveSessionUser :
    Ends (AuthService.loadActiveSessionUser tenantId userId) pending tables
      fun user left after => tables.users.get userId = some user ∧ left = pending ∧
        after = tables := by
  refine (ends_query (e := .activeSessionUser tenantId userId) fun _ _ => id).bind ?_
  intro row left after ⟨read, sameLeft, same⟩
  cases row with
  | none => exact ends_fail _ _
  | some entry =>
    have stored := OrderedDict.get_of_mem_entries (List.mem_of_find?_eq_some read.symm)
    have mine := List.find?_some read.symm
    simp only [Bool.and_eq_true, beq_iff_eq] at mine
    refine ends_pure ⟨?_, sameLeft, same⟩
    rw [← mine.1.1.1.1]
    exact stored

theorem ends_refreshSession :
    Ends (AuthService.refreshSession settings jwt tenantId userId) pending tables
      fun response _ _ => Issues jwt tables response := by
  refine ends_loadActiveSessionUser.bind fun user left after ⟨stored, _, same⟩ => ?_
  subst same
  refine (ends_loadPermissions stored).bind fun permissions left now ⟨loaded, _⟩ => ?_
  exact ends_build stored loaded

structure IsCurrent (tables : OrgTables) (principal : Principal) : Prop where
  account : ∃ user, tables.users.get principal.userId = some user ∧
    user.tenantId = principal.tenantId ∧ user.deleted = false ∧ user.isActive = true ∧
    user.authVersion = principal.authVersion

theorem ends_assertPrincipalIsActive {principal : Principal} :
    Ends (AuthService.assertPrincipalIsActive principal) pending tables
      fun _ left after => IsCurrent tables principal ∧ left = pending ∧ after = tables := by
  refine (ends_query (e := .getUser principal.userId) fun _ _ => id).bind ?_
  intro found left after ⟨read, sameLeft, same⟩
  cases found with
  | none => exact ends_fail _ _
  | some user =>
    refine (ends_refuse _ _).bind fun _ left' after' ⟨valid, sameLeft', same'⟩ => ?_
    refine (ends_query (e := .getTenant principal.tenantId) fun _ _ => id).bind ?_
    intro tenant left'' after'' ⟨_, sameLeft'', same''⟩
    refine (ends_refuse _ _).mono fun _ last final ⟨_, lastLeft, lastSame⟩ => ?_
    refine ⟨⟨user, read.symm, ?_⟩, ?_, ?_⟩
    · simpa using valid
    · rw [lastLeft, sameLeft'', sameLeft', sameLeft]
    · rw [lastSame, same'', same', same]

theorem ends_principalOfToken {token : Token} {payload : AccessToken}
    (decoded : jwt.decode token = some payload) :
    Ends (AuthService.principalOfToken jwt token) pending tables fun principal left after =>
      (principal.userId = payload.sub ∧ principal.permissions = payload.permissions ∧
        principal.authVersion = payload.ver ∧ IsCurrent tables principal) ∧
      left = pending ∧ after = tables := by
  refine (ends_free (e := .utcNow) fun _ _ => id).bind fun now left after ⟨sameLeft, same⟩ => ?_
  unfold AuthService.decodeAccessToken
  rw [decoded]
  cases valid : (some payload).filter fun payload =>
      payload.iss == "AgentHive" && decide (now < payload.exp) with
  | none => exact ends_fail _ _
  | some checked =>
    have same' : payload = checked := Option.some.inj (Option.filter_eq_some_iff.mp valid).1
    subst same'
    refine ends_assertPrincipalIsActive.bind fun _ left' after' ⟨current, sameLeft', same'⟩ => ?_
    rw [same] at current
    exact ends_pure ⟨⟨rfl, rfl, rfl, current⟩, sameLeft'.trans sameLeft, same'.trans same⟩

def KeepsRights (userId : UUID) (rows : OrgRows) : OrgWrite → Prop
  | .updateUser id columns => id = userId → columns.isTenantAdmin ≠ some false
  | .deleteUserRoles id => id ≠ userId
  | .updateRole id columns =>
    columns.permissions = none ∨ ∀ b ∈ rows.userRoles, b.userId = userId → b.roleId ≠ id
  | _ => True

def HasVersion (userId tenantId : UUID) (ver : Nat) (rows : OrgRows) : Prop :=
  ∃ user, rows.users.get userId = some user ∧ user.tenantId = tenantId ∧ ver ≤ user.authVersion

variable {rows after : OrgRows} {w : OrgWrite} {userId : UUID}

theorem hasVersion_apply {ver : Nat}
    (counts : ∀ id columns value, w = .updateUser id columns → columns.authVersion = some value →
      ver ≤ value) (applied : rows.apply w = some after)
    (has : HasVersion userId tenantId ver rows) :
    HasVersion userId tenantId ver after := by
  refine OrgRows.user_apply applied (fun _ => id) ?_ has
  rintro columns user rfl ⟨ofTenant, le⟩
  refine ⟨ofTenant, ?_⟩
  cases given : columns.authVersion with
  | none => simpa [UserColumns.apply, given] using le
  | some value => simpa [UserColumns.apply, given] using counts userId columns value rfl given

theorem mem_rolesOf {entry : UUID × Role} :
    entry ∈ rows.rolesOf userId tenantId ↔ entry ∈ rows.roles.entries ∧
      entry.2.tenantId = tenantId ∧ ∃ b ∈ rows.userRoles, b.userId = userId ∧ b.roleId = entry.1 := by
  simp [OrgRows.rolesOf]

theorem role_apply (keeps : KeepsRights userId rows w) (applied : rows.apply w = some after)
    (holds : ∃ entry ∈ rows.rolesOf userId tenantId, permission ∈ entry.2.permissions) :
    ∃ entry ∈ after.rolesOf userId tenantId, permission ∈ entry.2.permissions := by
  obtain ⟨entry, isRole, named⟩ := holds
  obtain ⟨there, ofTenant, b, bound, isUser, names⟩ := mem_rolesOf.mp isRole
  cases w with
  | insertUser id new =>
    have roles := OrgRows.roles_apply applied nofun nofun
    have bindings := OrgRows.userRoles_apply applied
    exact ⟨entry, mem_rolesOf.mpr ⟨roles ▸ there, ofTenant, b, bindings ▸ bound, isUser, names⟩,
      named⟩
  | insertRole id role =>
    obtain ⟨fresh, ⟨⟩⟩ := Option.ite_none_left_eq_some.mp applied
    refine ⟨entry, mem_rolesOf.mpr ⟨?_, ofTenant, b, bound, isUser, names⟩, named⟩
    rw [OrderedDict.entries_set, if_neg fresh]
    exact List.mem_append_left _ there
  | updateRole id columns =>
    cases applied
    by_cases same : entry.1 = id
    · have kept : columns.permissions = none := by
        rcases keeps with none | unbound
        · exact none
        · exact absurd (names.trans same) (unbound b bound isUser)
      refine ⟨(entry.1, columns.apply entry.2), mem_rolesOf.mpr ⟨?_, ofTenant, b, bound, isUser,
        names⟩, by simpa [RoleColumns.apply, kept] using named⟩
      exact List.mem_map.mpr ⟨entry, there, by simp [same]⟩
    · refine ⟨entry, mem_rolesOf.mpr ⟨?_, ofTenant, b, bound, isUser, names⟩, named⟩
      exact List.mem_map.mpr ⟨entry, there, by simp [same]⟩
  | insertUserRole row =>
    cases applied
    exact ⟨entry, mem_rolesOf.mpr ⟨there, ofTenant, b, List.mem_append_left _ bound, isUser, names⟩,
      named⟩
  | deleteUserRoles id =>
    cases applied
    have kept : b.userId ≠ id := fun same => keeps (same.symm.trans isUser)
    exact ⟨entry, mem_rolesOf.mpr ⟨there, ofTenant, b, by simp [bound, kept], isUser, names⟩, named⟩
  | updateUser | insertUserDepartment | deleteUserDepartments =>
    cases applied
    exact ⟨entry, mem_rolesOf.mpr ⟨there, ofTenant, b, bound, isUser, names⟩, named⟩

theorem holds_apply (keeps : KeepsRights userId rows w) (applied : rows.apply w = some after)
    (holds : rows.Holds userId permission) : after.Holds userId permission := by
  refine OrgRows.user_apply applied (fun user => .imp_right (.imp_right (role_apply keeps applied)))
    ?_ holds
  rintro columns user rfl (admin | isSuper | bound)
  · refine .inl ?_
    have notDemoted := keeps rfl
    cases given : columns.isTenantAdmin with
    | none => simpa [UserColumns.apply, given] using admin
    | some value =>
      cases value with
      | false => exact absurd given notDemoted
      | true => simp [UserColumns.apply, given]
  · exact .inr (.inl isSuper)
  · exact .inr (.inr (role_apply keeps applied bound))

end TokenRights

structure AuthTaken (Token : Type) where
  before : OrgTables
  operation : AuthOperation Token
  result : Except Exc (AuthResult Token)

inductive AuthRun {Token : Type} (lib : TextLibrary) (settings : AuthSettings) (jwt : Jwt Token) :
    OrgTables → List (AuthTaken Token) → OrgTables → Prop
  | nil (tables : OrgTables) : AuthRun lib settings jwt tables [] tables
  | cons {tables next last : OrgTables} {operation : AuthOperation Token}
      {result : Except Exc (AuthResult Token)} {rest : List (AuthTaken Token)}
      (alone : Program.Alone orgEnvironment (operation.program lib settings jwt) tables result next)
      (run : AuthRun lib settings jwt next rest last) :
      AuthRun lib settings jwt tables (⟨tables, operation, result⟩ :: rest) last

/-- The operation may take a permission of the user away: it takes the flag of
an administrator, replaces the roles of the user, or the permissions of one. -/
def AuthTaken.TakesRights {Token : Type} (step : AuthTaken Token) (userId : UUID) : Prop :=
  match step.operation with
  | .org ⟨_, .updateUser target payload⟩ =>
    target = userId ∧ (payload.isTenantAdmin = some false ∨ payload.roleIds.isSome = true)
  | .org ⟨_, .updateRole roleId payload⟩ =>
    payload.permissions.isSome = true ∧
      ∃ b ∈ step.before.userRoles, b.userId = userId ∧ b.roleId = roleId
  | _ => False

namespace TokenRights

open OrgSession

variable {Token : Type} {lib : TextLibrary} {settings : AuthSettings} {jwt : Jwt Token}
  {userId : UUID} {tables last : OrgTables}

theorem AuthRun.split {first second : List (AuthTaken Token)}
    (run : AuthRun lib settings jwt tables (first ++ second) last) :
    ∃ middle, AuthRun lib settings jwt tables first middle ∧
      AuthRun lib settings jwt middle second last := by
  induction first generalizing tables with
  | nil => exact ⟨tables, .nil tables, run⟩
  | cons step rest ih =>
    cases run with
    | cons alone run =>
      obtain ⟨middle, before, after⟩ := ih run
      exact ⟨middle, .cons alone before, after⟩

theorem keepsRights_of_mayWrite {step : AuthTaken Token} {rows : OrgRows} {w : OrgWrite}
    (may : step.operation.MayWrite lib w) (harmless : ¬ step.TakesRights userId)
    (same : ∀ principal roleId payload, step.operation = .org ⟨principal, .updateRole roleId payload⟩ →
      rows.userRoles = step.before.userRoles) : KeepsRights userId rows w := by
  obtain ⟨before, operation, result⟩ := step
  dsimp only [AuthTaken.TakesRights] at may harmless same
  cases operation with
  | login payload ipAddress =>
    obtain ⟨id, hash, rfl⟩ := may
    exact fun _ => nofun
  | refresh headers => exact may.elim
  | logout headers =>
    obtain ⟨id, version, rfl⟩ := may
    exact fun _ => nofun
  | org call =>
    cases may with
    | columns permitted allowed user =>
      intro mine demoted
      exact harmless ⟨mine, .inl (OrgAdmin.of_changed demoted)⟩
    | noBindings permitted given => exact fun mine => harmless ⟨mine, .inr given⟩
    | roleColumns permitted name =>
      rename_i principal roleId payload
      cases given : payload.permissions with
      | none => exact .inl rfl
      | some permissions =>
        refine .inr fun b bound mine isRole => harmless ⟨by rw [given]; rfl, b, ?_, mine, isRole⟩
        exact same principal roleId payload rfl ▸ bound
    | status | password => exact fun _ => nofun
    | newUser | newMembership | newBinding | noMemberships | membership | binding | newRole =>
      trivial

variable {next : OrgTables} {operation : AuthOperation Token}
    {result : Except Exc (AuthResult Token)}

theorem holds_of_step {permission : Permission}
    (alone : Program.Alone orgEnvironment (operation.program lib settings jwt) tables result next)
    (harmless : ¬ AuthTaken.TakesRights ⟨tables, operation, result⟩ userId)
    (holds : tables.Holds userId permission) : next.Holds userId permission := by
  have kept := AuthOperation.alone_keeps (I := fun rows => rows.Holds userId permission ∧
      ∀ principal roleId payload, operation = .org ⟨principal, .updateRole roleId payload⟩ →
        rows.userRoles = tables.userRoles) alone ?_ ⟨holds, fun _ _ _ _ => rfl⟩
  · exact kept.1
  intro rows after w may applied ⟨has, same⟩
  refine ⟨holds_apply (keepsRights_of_mayWrite may harmless same) applied has, ?_⟩
  intro principal roleId payload isUpdate
  rw [OrgRows.userRoles_apply applied, ← same principal roleId payload isUpdate]
  subst isUpdate
  cases may
  rfl

def CountsUp (tables : OrgTables) (userId : UUID) (next : OrgTables) : Prop :=
  ∃ user, tables.users.get userId = some user ∧
    tables.write [.updateUser userId { authVersion := some (user.authVersion + 1) }] = some next

theorem from_logout (tables : OrgTables) (tenantId userId : UUID) :
    (AuthService.logout tenantId userId).From orgEnvironment [] tables fun r _ next =>
      (next = tables ∧ ∀ u, r ≠ .ok u) ∨ CountsUp tables userId next := by
  have silent : (AuthService.loadActiveSessionUser tenantId userId).From orgEnvironment [] tables
      fun _ left after => left = [] ∧ after = tables :=
    Writes.silent (AuthService.loadActiveSessionUser_writes tenantId userId)
  have loaded := silent.and ends_loadActiveSessionUser
  unfold AuthService.logout
  rw [Action.from_bind]
  refine loaded.mono fun r left after ⟨⟨noRows, same⟩, found⟩ => ?_
  subst noRows same
  cases r with
  | error x => exact .inl ⟨rfl, nofun⟩
  | ok user =>
    have stored := (found user rfl).1
    simp only [add, commit, query, Action.from_bind, Action.from_modify, Action.from_get,
      Action.from_perform, List.nil_append]
    intro r next answered
    rcases answered with counted | ⟨⟨x, failed⟩, same⟩
    · cases r with
      | error x => exact .inr ⟨user, stored, counted⟩
      | ok u => exact .inr ⟨user, stored, counted⟩
    · subst failed
      exact .inl ⟨same, nofun⟩

theorem logout_alone {headers : AuthHeaders Token} (alone : Program.Alone orgEnvironment
      (AuthOperation.program lib settings jwt (.logout headers)) tables result next) :
    (next = tables ∧ ∀ u, result ≠ .ok (.loggedOut u)) ∨
      ∃ u, CountsUp tables u next ∧ ∀ v, result = .ok (.loggedOut v) → v = u := by
  have ends : (AuthOperation.endpoint lib settings jwt (.logout headers)).From orgEnvironment []
      tables fun r _ next => (next = tables ∧ ∀ u, r ≠ .ok (.loggedOut u)) ∨
        ∃ u, CountsUp tables u next ∧ ∀ v, r = .ok (.loggedOut v) → v = u := by
    unfold AuthOperation.endpoint
    rw [Action.from_bind]
    refine (Writes.silent (AuthService.getCurrentPrincipal_writes headers)).mono
      fun r left after ⟨noRows, same⟩ => ?_
    subst noRows same
    cases r with
    | error x => exact .inl ⟨rfl, nofun⟩
    | ok principal =>
      dsimp only
      rw [Action.from_bind]
      refine (from_logout after principal.tenantId principal.userId).mono fun r left next post => ?_
      cases r with
      | error x =>
        rcases post with ⟨same, _⟩ | counted
        · exact .inl ⟨same, nofun⟩
        · exact .inr ⟨principal.userId, counted, nofun⟩
      | ok u =>
        rcases post with ⟨_, never⟩ | counted
        · exact absurd rfl (never u)
        · refine .inr ⟨principal.userId, counted, ?_⟩
          intro v eq
          cases eq
          rfl
  exact Program.from_iff_alone.mp ((Action.from_run _ _ _ _).mpr ends) result next alone

theorem get_of_countsUp {u : UUID} (counted : CountsUp tables u next) :
    ∃ user, tables.users.get u = some user ∧ ∀ v, next.users.get v =
      (tables.users.get v).map fun account =>
        if v = u then { account with authVersion := user.authVersion + 1 } else account := by
  obtain ⟨user, stored, written⟩ := counted
  have applied := OrgTables.applyAll_of_write written
  obtain ⟨rows, first, last⟩ := Option.bind_eq_some_iff.mp applied
  cases last
  exact ⟨user, stored, fun v => OrgRows.get_user_apply first v⟩

variable {tenantId : UUID} {ver : Nat}

theorem hasVersion_countsUp {u : UUID} (counted : CountsUp tables u next)
    (has : HasVersion userId tenantId ver tables.toOrgRows) :
    HasVersion userId tenantId ver next.toOrgRows ∧
      (userId = u → HasVersion userId tenantId (ver + 1) next.toOrgRows) := by
  obtain ⟨user, stored, after⟩ := get_of_countsUp counted
  obtain ⟨account, there, ofTenant, le⟩ := has
  unfold HasVersion
  rw [after, there]
  by_cases same : userId = u
  · subst same
    cases Option.some.inj (stored.symm.trans there)
    refine ⟨⟨_, rfl, ?_, ?_⟩, fun _ => ⟨_, rfl, ?_, ?_⟩⟩
    · simpa using ofTenant
    · simpa using Nat.le_succ_of_le le
    · simpa using ofTenant
    · simpa using le
  · refine ⟨⟨account, ?_, ofTenant, le⟩, fun eq => absurd eq same⟩
    simp [same]

theorem hasVersion_of_step
    (alone : Program.Alone orgEnvironment (operation.program lib settings jwt) tables result next)
    (has : HasVersion userId tenantId ver tables.toOrgRows) :
    HasVersion userId tenantId ver next.toOrgRows := by
  by_cases isLogout : ∃ headers, operation = .logout headers
  · obtain ⟨headers, rfl⟩ := isLogout
    rcases logout_alone alone with ⟨same, _⟩ | ⟨u, counted, _⟩
    · exact same ▸ has
    · exact (hasVersion_countsUp counted has).1
  · refine AuthOperation.alone_keeps (I := HasVersion userId tenantId ver) alone ?_ has
    intro rows after w may applied
    refine hasVersion_apply ?_ applied
    intro id columns value isUpdate given
    subst isUpdate
    cases operation with
    | login payload ipAddress =>
      obtain ⟨id', hash, eq⟩ := may
      cases eq
      cases given
    | refresh headers => exact may.elim
    | logout headers => exact absurd ⟨headers, rfl⟩ isLogout
    | org call =>
      cases may with
      | columns | status | password => cases given

variable {later : List (AuthTaken Token)}

section

variable (run : AuthRun lib settings jwt tables later last)

include run

theorem holds_of_run {permission : Permission}
    (harmless : ∀ step ∈ later, ¬ step.TakesRights userId)
    (holds : tables.Holds userId permission) : last.Holds userId permission := by
  induction run with
  | nil => exact holds
  | cons alone _ ih =>
    obtain ⟨first, rest⟩ := List.forall_mem_cons.mp harmless
    exact ih rest (holds_of_step alone first holds)

theorem hasVersion_of_run (has : HasVersion userId tenantId ver tables.toOrgRows) :
    HasVersion userId tenantId ver last.toOrgRows := by
  induction run with
  | nil => exact has
  | cons alone _ ih => exact ih (hasVersion_of_step alone has)

def IsResultOf (jwt : Jwt Token) (tables : OrgTables) (operation : AuthOperation Token) :
    AuthResult Token → Prop
  | .token response => Issues jwt tables response ∧ ∀ call, operation ≠ .org call
  | .loggedOut _ => ∃ headers, operation = .logout headers
  | .org _ => True

omit run in
theorem isResultOf_alone {result : AuthResult Token}
    (alone : Program.Alone orgEnvironment (operation.program lib settings jwt) tables (.ok result)
      next) : IsResultOf jwt tables operation result := by
  have ends : Ends (operation.endpoint lib settings jwt) [] tables fun result _ _ =>
      IsResultOf jwt tables operation result := by
    cases operation with
    | login payload ipAddress =>
      refine ends_login.bind fun response left after issued => ends_pure ⟨issued, ?_⟩
      intro call eq
      cases eq
    | refresh headers =>
      have silent : Ends (AuthService.getCurrentPrincipal lib settings jwt headers) [] tables
          fun _ left after => left = [] ∧ after = tables :=
        (Writes.silent (AuthService.getCurrentPrincipal_writes headers)).mono
          fun _ _ _ post _ _ => post
      refine silent.bind fun principal left after ⟨_, same⟩ => ?_
      subst same
      refine ends_refreshSession.bind fun response left after issued => ends_pure ⟨issued, ?_⟩
      intro call eq
      cases eq
    | logout headers =>
      refine (ends_trivial _).bind fun principal left after _ => ?_
      exact (ends_trivial _).bind fun _ left after _ => ends_pure ⟨headers, rfl⟩
    | org call => exact (ends_trivial _).bind fun response left after _ => ends_pure trivial
  exact Program.from_iff_alone.mp ((Action.from_run _ _ _ _).mpr ends) _ next alone result rfl

theorem hasVersion_of_logout (has : HasVersion userId tenantId ver tables.toOrgRows)
    (loggedOut : ∃ step ∈ later, step.result = .ok (.loggedOut userId)) :
    HasVersion userId tenantId (ver + 1) last.toOrgRows := by
  induction run with
  | nil => exact absurd loggedOut (by simp)
  | @cons tables next last operation result rest alone run ih =>
    obtain ⟨step, mem, isLogout⟩ := loggedOut
    rcases List.mem_cons.mp mem with here | later
    · subst here
      subst isLogout
      obtain ⟨headers, rfl⟩ := isResultOf_alone alone
      rcases logout_alone alone with ⟨_, never⟩ | ⟨u, counted, reported⟩
      · exact absurd rfl (never userId)
      · exact hasVersion_of_run run ((hasVersion_countsUp counted has).2 (reported userId rfl))
    · exact ih (hasVersion_of_step alone has) ⟨step, later, isLogout⟩

end

/-- An accepted token has the permissions its user had when it was issued, and
no logout has come since; they are still the user's unless a call since then
has taken rights of the user away. -/
theorem accepted_token_is_snapshot {tables last after : OrgTables}
    {first later : List (AuthTaken Token)} {issue : AuthTaken Token}
    {response : AuthTokenResponse Token} {headers : AuthHeaders Token} {principal : Principal}
    (run : AuthRun lib settings jwt tables (first ++ issue :: later) last)
    (issued : issue.result = .ok (.token response))
    (presented : AuthService.presentedToken lib settings headers = .ok (some response.accessToken))
    (accepted : Program.Alone orgEnvironment
      ((AuthService.getCurrentPrincipal lib settings jwt headers).run []) last (.ok principal)
      after) :
    IsCurrent last principal ∧
      (∀ permission, permission ∈ principal.permissions ↔
        issue.before.Holds principal.userId permission) ∧
      (∀ step ∈ later, step.result ≠ .ok (.loggedOut principal.userId)) ∧
      ((∀ step ∈ later, ¬ step.TakesRights principal.userId) →
        ∀ permission ∈ principal.permissions, last.Holds principal.userId permission) := by
  obtain ⟨middle, _, issuing⟩ := AuthRun.split run
  cases issuing with
  | @cons _ next _ operation result _ alone since =>
    dsimp only at issued
    subst issued
    obtain ⟨⟨payload, isEncoded, ⟨user, stored, ofTenant, version⟩, rights⟩, notOrg⟩ :=
      isResultOf_alone alone
    rw [isEncoded] at presented
    have ends : Ends (AuthService.getCurrentPrincipal lib settings jwt headers) [] last
        fun principal _ _ => principal.userId = payload.sub ∧
          principal.permissions = payload.permissions ∧ principal.authVersion = payload.ver ∧
          IsCurrent last principal := by
      unfold AuthService.getCurrentPrincipal
      rw [presented]
      exact (ends_principalOfToken (jwt.decode_encode payload)).mono fun _ _ _ post => post.1
    obtain ⟨isUser, samePermissions, sameVersion, current⟩ :=
      Program.from_iff_alone.mp ((Action.from_run _ _ _ _).mpr ends) _ after accepted principal rfl
    have snapshot : ∀ permission, permission ∈ principal.permissions ↔
        middle.Holds principal.userId permission := by
      rw [samePermissions, isUser]
      exact rights
    refine ⟨current, snapshot, ?_, ?_⟩
    · intro step mem isLogout
      have has : HasVersion principal.userId payload.tenantId payload.ver middle.toOrgRows :=
        ⟨user, isUser ▸ stored, ofTenant, version.ge⟩
      obtain ⟨account, now, _, counted⟩ := hasVersion_of_logout since (hasVersion_of_step alone has)
        ⟨step, mem, isLogout⟩
      obtain ⟨account', now', _, _, _, same⟩ := current.account
      cases Option.some.inj (now.symm.trans now')
      omega
    · intro harmless permission mem
      refine holds_of_run since harmless (holds_of_step alone ?_ ((snapshot permission).mp mem))
      cases operation with
      | org call => exact absurd rfl (notOrg call)
      | login | refresh | logout => exact id

open Office

def plainJwt : Jwt AccessToken := ⟨id, some, fun _ => rfl⟩

def serveOperation (operation : AuthOperation AccessToken) (tables : OrgTables) :
    Except Exc (AuthResult AccessToken) × OrgTables :=
  (operation.program plainLibrary {} plainJwt).finish OrgTables.serve tables

theorem serveOperation_alone (operation : AuthOperation AccessToken) (tables : OrgTables) :
    Program.Alone orgEnvironment (operation.program plainLibrary {} plainJwt) tables
      (serveOperation operation tables).1 (serveOperation operation tables).2 :=
  Program.finish_alone OrgTables.serve_answers _ _

def tokenOf : Except Exc (AuthResult AccessToken) → Option AccessToken
  | .ok (.token response) => some response.accessToken
  | _ => none

theorem of_tokenOf {result : Except Exc (AuthResult AccessToken)} {token : AccessToken}
    (h : tokenOf result = some token) :
    ∃ response, result = .ok (.token response) ∧ response.accessToken = token := by
  match result, h with
  | .ok (.token response), h => exact ⟨response, rfl, Option.some.inj h⟩

def bearer (token : AccessToken) : AuthHeaders AccessToken where
  authorization := some ("bearer", some token)

def acceptAt (tables : OrgTables) (token : AccessToken) : Option Principal :=
  ((AuthService.getCurrentPrincipal plainLibrary {} plainJwt (bearer token)).run []
    |>.finish OrgTables.serve tables).1.toOption

theorem alone_of_acceptAt {token : AccessToken} {principal : Principal}
    (h : acceptAt tables token = some principal) :
    ∃ after, Program.Alone orgEnvironment
      ((AuthService.getCurrentPrincipal plainLibrary {} plainJwt (bearer token)).run []) tables
      (.ok principal) after := by
  have alone := Program.finish_alone OrgTables.serve_answers
    ((AuthService.getCurrentPrincipal plainLibrary {} plainJwt (bearer token)).run []) tables
  unfold acceptAt at h
  generalize Program.finish OrgTables.serve _ tables = ended at alone h
  obtain ⟨result, after⟩ := ended
  cases result with
  | error x => cases h
  | ok found =>
    cases h
    exact ⟨after, alone⟩

def signIn (email password : String) : AuthOperation AccessToken :=
  .login { tenantSlug := "office", email := email, password := password } none

def managerToken : AccessToken where
  sub := 13
  tenantId := 1
  permissions := [.usersWrite]
  ver := 0
  iat := 0
  exp := 3600

theorem manager_token_is_current :
    let issued := serveOperation (signIn "manager@office.example" "3") (officeTables true)
    let last := (serveOperation
      (.org ⟨administrator 11, .updateUserStatus 12 { isActive := false }⟩) issued.2).2
    ∃ principal, acceptAt last managerToken = some principal ∧
      ∀ permission ∈ principal.permissions, last.Holds principal.userId permission := by
  intro issued last
  have accepted : acceptAt last managerToken =
      some { userId := 13, tenantId := 1, permissions := [.usersWrite] } := by decide +kernel
  obtain ⟨response, isIssued, isToken⟩ := of_tokenOf
    (show tokenOf issued.1 = some managerToken by decide +kernel)
  obtain ⟨after, alone⟩ := alone_of_acceptAt accepted
  have kept := @accepted_token_is_snapshot _ _ _ _ _ _ _ [] _ _ _ _ _
    (.cons (serveOperation_alone _ (officeTables true))
      (.cons (serveOperation_alone _ issued.2) (.nil last)))
    isIssued (by rw [isToken]; rfl) alone
  refine ⟨_, accepted, kept.2.2.2 ?_⟩
  intro step mem
  rw [List.mem_singleton.mp mem]
  exact id

def administratorToken : AccessToken where
  sub := 11
  tenantId := 1
  permissions := Permission.all
  ver := 0
  iat := 0
  exp := 3600

theorem demoted_token_keeps_rights :
    let issued := serveOperation (signIn "first@office.example" "1") (officeTables true)
    let last := (serveOperation
      (.org ⟨administrator 12, .updateUser 11 { isTenantAdmin := some false }⟩) issued.2).2
    tokenOf issued.1 = some administratorToken ∧
      (acceptAt last administratorToken).any (fun principal =>
        principal.userId == 11 && principal.permissions.contains .tenantAdmin) = true ∧
      ¬ last.Holds 11 .tenantAdmin := by
  decide +kernel

end TokenRights

end AgentHive
