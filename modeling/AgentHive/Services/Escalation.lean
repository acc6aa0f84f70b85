import AgentHive.Services.OrgWrites
import Mathlib.Data.Set.Basic

/-!
The rights that users gain through the administration of users and roles by
principals who are not tenant administrators.
-/

namespace AgentHive

open Process

def OrgCall.MakesAdmin (call : OrgCall) (userId : UUID) : Prop :=
  match call.operation with
  | .createUser newId payload => newId = userId ∧ payload.isTenantAdmin = true
  | .updateUser target payload => target = userId ∧ payload.isTenantAdmin = some true
  | _ => False

def OrgCall.Binds (call : OrgCall) (userId roleId : UUID) : Prop :=
  match call.operation with
  | .createUser newId payload => newId = userId ∧ roleId ∈ payload.roleIds
  | .updateUser target payload => target = userId ∧ ∃ ids, payload.roleIds = some ids ∧ roleId ∈ ids
  | _ => False

def OrgCall.Grants (call : OrgCall) (tables : OrgTables) (userId : UUID)
    (permission : Permission) : Prop :=
  call.MakesAdmin userId ∨
    ∃ roleId role, call.Binds userId roleId ∧ tables.roles.get roleId = some role ∧
      permission ∈ role.permissions

namespace Escalation

structure GrownFrom (tables : OrgTables) (binds : UUID → UUID → Prop) (makesAdmin : UUID → Prop)
    (rows : OrgRows) : Prop where
  roles : rows.roles = tables.roles
  bindings : ∀ b ∈ rows.userRoles,
    (∃ old ∈ tables.userRoles, old.userId = b.userId ∧ old.roleId = b.roleId) ∨
      binds b.userId b.roleId
  kept : ∀ {userId old}, tables.users.get userId = some old →
    ∃ user, rows.users.get userId = some user ∧ user.tenantId = old.tenantId
  admins : ∀ {userId user}, rows.users.get userId = some user → user.isTenantAdmin = true →
    tables.IsTenantAdmin userId ∨ makesAdmin userId
  superAdmins : ∀ {userId user}, rows.users.get userId = some user → user.isSuperAdmin = true →
    ∃ old, tables.users.get userId = some old ∧ old.isSuperAdmin = true

variable {tables : OrgTables} {binds : UUID → UUID → Prop} {makesAdmin : UUID → Prop}

theorem GrownFrom.refl : GrownFrom tables binds makesAdmin tables.toOrgRows where
  roles := rfl
  bindings := fun b mem => .inl ⟨b, mem, rfl, rfl⟩
  kept := fun stored => ⟨_, stored, rfl⟩
  admins := fun stored admin => .inl ⟨_, stored, admin⟩
  superAdmins := fun stored isSuper => ⟨_, stored, isSuper⟩

variable {rows : OrgRows}

theorem GrownFrom.mono {binds' : UUID → UUID → Prop} {makesAdmin' : UUID → Prop}
    (grown : GrownFrom tables binds makesAdmin rows) (more : ∀ u r, binds u r → binds' u r)
    (others : ∀ u, makesAdmin u → makesAdmin' u) :
    GrownFrom tables binds' makesAdmin' rows where
  roles := grown.roles
  bindings := fun b mem => (grown.bindings b mem).imp_right (more _ _)
  kept := grown.kept
  admins := fun stored admin => (grown.admins stored admin).imp_right (others _)
  superAdmins := grown.superAdmins

variable {after : OrgRows}

theorem GrownFrom.updateUser {id : UUID} {columns : UserColumns}
    (grown : GrownFrom tables binds makesAdmin rows)
    (applied : rows.apply (.updateUser id columns) = some after)
    (made : columns.isTenantAdmin = some true → makesAdmin id) :
    GrownFrom tables binds makesAdmin after := by
  have users := OrgRows.get_user_apply applied
  cases applied
  refine ⟨grown.roles, grown.bindings, ?_, ?_, ?_⟩
  · intro userId old stored
    obtain ⟨user, there, tenant⟩ := grown.kept stored
    rw [users, there]
    refine ⟨_, rfl, ?_⟩
    split
    · exact tenant
    · exact tenant
  · intro userId user stored admin
    rw [users] at stored
    obtain ⟨before, there, same⟩ := Option.map_eq_some_iff.mp stored
    by_cases mine : userId = id
    · rw [if_pos mine] at same
      rw [← same] at admin
      cases given : columns.isTenantAdmin with
      | none => exact grown.admins there (by simpa [UserColumns.apply, given] using admin)
      | some value =>
        have yes : value = true := by simpa [UserColumns.apply, given] using admin
        exact .inr (mine ▸ made (by rw [given, yes]))
    · rw [if_neg mine] at same
      exact grown.admins there (same ▸ admin)
  · intro userId user stored isSuper
    rw [users] at stored
    obtain ⟨before, there, same⟩ := Option.map_eq_some_iff.mp stored
    refine grown.superAdmins there ?_
    rw [← same] at isSuper
    split at isSuper
    · exact isSuper
    · exact isSuper

theorem GrownFrom.insertUser {id : UUID} {new : User}
    (grown : GrownFrom tables binds makesAdmin rows)
    (applied : rows.apply (.insertUser id new) = some after)
    (made : new.isTenantAdmin = true → makesAdmin id) (plain : new.isSuperAdmin = false) :
    GrownFrom tables binds makesAdmin after := by
  have users := OrgRows.get_user_apply applied
  have fresh := OrgRows.fresh_of_insertUser applied
  have roles := OrgRows.roles_apply applied nofun nofun
  have bindings := OrgRows.userRoles_apply applied
  dsimp only at users bindings
  refine ⟨roles.trans grown.roles, bindings ▸ grown.bindings, ?_, ?_, ?_⟩
  · intro userId old stored
    obtain ⟨user, there, tenant⟩ := grown.kept stored
    have other : userId ≠ id := by
      intro same
      rw [same, fresh] at there
      cases there
    exact ⟨user, by rw [users, if_neg other, there], tenant⟩
  · intro userId user stored admin
    rw [users] at stored
    split at stored
    · rename_i mine
      cases stored
      exact .inr (mine ▸ made admin)
    · exact grown.admins stored admin
  · intro userId user stored isSuper
    rw [users] at stored
    split at stored
    · cases stored
      rw [plain] at isSuper
      cases isSuper
    · exact grown.superAdmins stored isSuper

theorem GrownFrom.bind {row : UserRole} (grown : GrownFrom tables binds makesAdmin rows)
    (bound : binds row.userId row.roleId) :
    GrownFrom tables binds makesAdmin { rows with userRoles := rows.userRoles ++ [row] } where
  roles := grown.roles
  bindings := by
    intro b mem
    rcases List.mem_append.mp mem with old | new
    · exact grown.bindings b old
    · rw [List.mem_singleton.mp new]
      exact .inr bound
  kept := grown.kept
  admins := grown.admins
  superAdmins := grown.superAdmins

theorem GrownFrom.unbind {keep : UserRole → Bool} (grown : GrownFrom tables binds makesAdmin rows) :
    GrownFrom tables binds makesAdmin { rows with userRoles := rows.userRoles.filter keep } where
  roles := grown.roles
  bindings := fun b mem => grown.bindings b (List.mem_filter.mp mem).1
  kept := grown.kept
  admins := grown.admins
  superAdmins := grown.superAdmins

theorem GrownFrom.place (userDepartments : List UserDepartment)
    (grown : GrownFrom tables binds makesAdmin rows) :
    GrownFrom tables binds makesAdmin { rows with userDepartments := userDepartments } :=
  ⟨grown.roles, grown.bindings, grown.kept, grown.admins, grown.superAdmins⟩

theorem GrownFrom.apply {lib : TextLibrary} {call : OrgCall} {w : OrgWrite}
    (noAdmin : Permission.tenantAdmin ∉ call.principal.permissions) (may : call.MayWrite lib w)
    (made : ∀ u, call.MakesAdmin u → makesAdmin u) (bound : ∀ u r, call.Binds u r → binds u r)
    (applied : rows.apply w = some after) (grown : GrownFrom tables binds makesAdmin rows) :
    GrownFrom tables binds makesAdmin after := by
  have denied : ∀ {principal : Principal}, Permission.tenantAdmin ∉ principal.permissions →
      principal.hasPermission .tenantAdmin ≠ true := by
    intro principal lacks
    simpa [Principal.hasPermission, Principal.isTenantAdmin] using lacks
  cases may with
  | newUser => exact grown.insertUser applied (fun admin => made _ ⟨rfl, admin⟩) rfl
  | newMembership | membership | noMemberships =>
    cases applied
    exact grown.place _
  | newBinding permitted named =>
    cases applied
    exact grown.bind (bound _ _ ⟨rfl, named⟩)
  | binding permitted given named =>
    cases applied
    exact grown.bind (bound _ _ ⟨rfl, _, given, named⟩)
  | noBindings =>
    cases applied
    exact grown.unbind
  | columns permitted allowed user =>
    refine grown.updateUser applied fun given => made _ ⟨rfl, ?_⟩
    exact OrgAdmin.of_changed given
  | status | password => exact grown.updateUser applied nofun
  | newRole permitted => exact absurd permitted (denied noAdmin)
  | roleColumns permitted => exact absurd permitted (denied noAdmin)

theorem GrownFrom.holds {after : OrgTables}
    (grown : GrownFrom tables binds makesAdmin after.toOrgRows) {userId : UUID}
    {permission : Permission} (holds : after.Holds userId permission) :
    tables.Holds userId permission ∨ makesAdmin userId ∨
      ∃ roleId role, binds userId roleId ∧ tables.roles.get roleId = some role ∧
        permission ∈ role.permissions := by
  obtain ⟨user, stored, admin | isSuper | ⟨entry, mem, named⟩⟩ := holds
  · rcases grown.admins stored admin with ⟨old, before, was⟩ | made
    · exact .inl ⟨old, before, .inl was⟩
    · exact .inr (.inl made)
  · obtain ⟨old, before, was⟩ := grown.superAdmins stored isSuper
    exact .inl ⟨old, before, .inr (.inl was)⟩
  · obtain ⟨isRole, applies⟩ := List.mem_filter.mp mem
    rw [Bool.and_eq_true, beq_iff_eq, List.any_eq_true] at applies
    obtain ⟨ofTenant, b, isBound, names⟩ := applies
    rw [Bool.and_eq_true, beq_iff_eq, beq_iff_eq] at names
    rw [grown.roles] at isRole
    rcases grown.bindings b isBound with ⟨old, was, sameUser, sameRole⟩ | new
    · have known := (tables.consistent.bound old was).1
      obtain ⟨account, before⟩ := Option.isSome_iff_exists.mp (OrderedDict.mem_keys.mp known)
      rw [sameUser, names.1] at before
      obtain ⟨user', now, tenant⟩ := grown.kept before
      have same : user' = user := Option.some.inj (now.symm.trans stored)
      refine .inl ⟨account, before, .inr (.inr ⟨entry, ?_, named⟩)⟩
      refine List.mem_filter.mpr ⟨isRole, ?_⟩
      rw [Bool.and_eq_true, beq_iff_eq, List.any_eq_true]
      refine ⟨ofTenant.trans ((same ▸ tenant)), old, was, ?_⟩
      simp [sameUser, sameRole, names]
    · rw [names.1, names.2] at new
      exact .inr (.inr ⟨entry.1, entry.2, new, OrderedDict.get_of_mem_entries isRole, named⟩)

def Committed {ι : Type} (c : OrgConfig ι) (i : ι) : Prop :=
  ∃ writes r, ⟨.commit writes, r⟩ ∈ c.history i

theorem Committed.advance {ι : Type} [DecidableEq ι] {c : OrgConfig ι} {i j : ι}
    (committed : Committed c j) (e : Process.Event OrgEffect OrgAnswer) (rest : OrgProgram)
    (shared : OrgTables) : Committed (c.advance i e rest shared) j := by
  obtain ⟨writes, r, mem⟩ := committed
  refine ⟨writes, r, ?_⟩
  by_cases same : j = i
  · subst same
    simp [Config.advance, mem]
  · simp [Config.advance, same, mem]

theorem committed_advance {ι : Type} [DecidableEq ι] (c : OrgConfig ι) (i : ι)
    (writes : List OrgWrite) (r : OrgAnswer (.commit writes)) (rest : OrgProgram)
    (shared : OrgTables) : Committed (c.advance i ⟨.commit writes, r⟩ rest shared) i :=
  ⟨writes, r, by simp [Config.advance]⟩

variable {ι : Type} [DecidableEq ι]

def Grown (calls : ι → OrgCall) (tables : OrgTables) (c : OrgConfig ι) (rows : OrgRows) : Prop :=
  GrownFrom tables (fun u r => ∃ i, Committed c i ∧ (calls i).Binds u r)
    (fun u => ∃ i, Committed c i ∧ (calls i).MakesAdmin u) rows

variable {calls : ι → OrgCall} {c : OrgConfig ι}

theorem Grown.advance (grown : Grown calls tables c rows) (i : ι)
    (e : Process.Event OrgEffect OrgAnswer) (rest : OrgProgram) (shared : OrgTables) :
    Grown calls tables (c.advance i e rest shared) rows :=
  grown.mono (fun _ _ ⟨j, committed, binds⟩ => ⟨j, committed.advance e rest shared, binds⟩)
    fun _ ⟨j, committed, makes⟩ => ⟨j, committed.advance e rest shared, makes⟩

variable {steps : List (OrgTaken ι)}

theorem grown_of_run (lib : TextLibrary)
    (noAdmin : ∀ i, Permission.tenantAdmin ∉ (calls i).principal.permissions)
    (run : Interleaved orgEnvironment (.start (fun i => (calls i).program lib) tables) steps c) :
    Grown calls tables c c.shared.toOrgRows := by
  refine run.induct (fun c => Grown calls tables c c.shared.toOrgRows) (fun _ => True)
    (fun _ _ => trivial) .refl ?_ fun _ moved => moved.elim
  intro steps c i e k r after run asks answered _ before
  have grown := before.advance i ⟨e, r⟩ (k r) after
  cases e with
  | commit writes =>
    rcases answered with stored | ⟨_, same⟩
    · have promise := run.promise (fun _ _ _ _ => orgAdmissible)
        (fun i => (calls i).program_meets lib) asks
      have committed := committed_advance c i writes r (k r) after
      refine OrgRows.applyAll_keeps (P := Grown calls tables _) ?_
        (OrgTables.applyAll_of_write stored) grown
      intro rows next w mem applied
      exact GrownFrom.apply (noAdmin i) (promise w mem) (fun u makes => ⟨i, committed, makes⟩)
        (fun u r binds => ⟨i, committed, binds⟩) applied
    · exact same ▸ grown
  | isLocked | utcNow => exact answered ▸ grown
  | _ => exact answered.1 ▸ grown

theorem mayWrite_of_permission {lib : TextLibrary} {call : OrgCall} {w : OrgWrite}
    (may : call.MayWrite lib w) :
    Permission.tenantAdmin ∈ call.principal.permissions ∨
      Permission.usersWrite ∈ call.principal.permissions := by
  have either : call.principal.hasPermission .usersWrite = true ∨
      call.principal.hasPermission .tenantAdmin = true := by
    cases may with
    | newRole permitted => exact .inr permitted
    | roleColumns permitted => exact .inr permitted
    | newUser permitted | newMembership permitted | newBinding permitted | columns permitted
    | noMemberships permitted | membership permitted | noBindings permitted | binding permitted
    | status permitted | password permitted => exact .inl permitted
  simp only [Principal.hasPermission, Principal.isTenantAdmin, Bool.or_eq_true,
    List.contains_iff_mem, or_self] at either
  rcases either with (admin | users) | admin
  · exact .inl admin
  · exact .inr users
  · exact .inl admin

theorem unchanged_of_run (lib : TextLibrary)
    (noAdmin : ∀ i, Permission.tenantAdmin ∉ (calls i).principal.permissions)
    (noUsers : ∀ i, Permission.usersWrite ∉ (calls i).principal.permissions)
    (run : Interleaved orgEnvironment (.start (fun i => (calls i).program lib) tables) steps c) :
    c.shared = tables := by
  refine run.induct (fun c => c.shared = tables) (fun _ => True) (fun _ _ => trivial) rfl ?_
    fun _ moved => moved.elim
  intro steps c i e k r after run asks answered _ before
  cases e with
  | commit writes =>
    have promise := run.promise (fun _ _ _ _ => orgAdmissible)
      (fun i => (calls i).program_meets lib) asks
    have nothing : writes = [] := by
      refine List.eq_nil_iff_forall_not_mem.mpr fun w mem => ?_
      rcases mayWrite_of_permission (promise w mem) with admin | users
      · exact noAdmin i admin
      · exact noUsers i users
    rcases answered with stored | ⟨_, same⟩
    · rw [nothing, OrgTables.write_nothing, Option.some.injEq] at stored
      exact stored.symm.trans before
    · exact same.trans before
  | isLocked | utcNow => exact answered.trans before
  | _ => exact answered.1.trans before

/-- What principals without `tenant.admin` can bring about by the calls of the
administration: no role changes, nothing at all without `users:write`, and
every right a user gains was granted by a call that has committed. -/
theorem rights_are_granted (lib : TextLibrary) (calls : ι → OrgCall) {P : Set Permission}
    (noAdmin : Permission.tenantAdmin ∉ P)
    (within : ∀ i, ∀ permission ∈ (calls i).principal.permissions, permission ∈ P)
    {steps : List (OrgTaken ι)} {c : OrgConfig ι}
    (run : Interleaved orgEnvironment (.start (fun i => (calls i).program lib) tables) steps c) :
    c.shared.roles = tables.roles ∧
      (Permission.usersWrite ∉ P → c.shared = tables) ∧
      ∀ userId,
        (c.shared.IsTenantAdmin userId →
          tables.IsTenantAdmin userId ∨ ∃ i, Committed c i ∧ (calls i).MakesAdmin userId) ∧
        ∀ permission, c.shared.Holds userId permission →
          tables.Holds userId permission ∨
            ∃ i, Committed c i ∧ (calls i).Grants tables userId permission := by
  have noAdmins : ∀ i, Permission.tenantAdmin ∉ (calls i).principal.permissions :=
    fun i admin => noAdmin (within i _ admin)
  have grown := grown_of_run lib noAdmins run
  refine ⟨grown.roles, ?_, ?_⟩
  · intro noUsers
    exact unchanged_of_run lib noAdmins (fun i users => noUsers (within i _ users)) run
  · intro userId
    refine ⟨fun ⟨user, stored, admin⟩ => grown.admins stored admin, ?_⟩
    intro permission holds
    rcases grown.holds holds with before | ⟨i, committed, makes⟩ |
      ⟨r, role, ⟨i, committed, binds⟩, rest⟩
    · exact .inl before
    · exact .inr ⟨i, committed, .inl makes⟩
    · exact .inr ⟨i, committed, .inr ⟨r, role, binds, rest⟩⟩

open Office

def bindingCall : OrgCall :=
  ⟨userManager, .updateUser 12 { roleIds := some [21] }⟩

theorem bound_role_is_granted :
    let c := (officeTurns (officeTables false) (fun _ => bindingCall) [0, 0, 0, 0, 0, 0]).2
    c.shared.Holds 12 .usersWrite ∧
      ((officeTables false).Holds 12 .usersWrite ∨
        ∃ i, Committed c i ∧ bindingCall.Grants (officeTables false) 12 .usersWrite) := by
  have now : (officeTurns (officeTables false) (fun _ => bindingCall)
      [0, 0, 0, 0, 0, 0]).2.shared.Holds 12 .usersWrite := by decide +kernel
  have granted := rights_are_granted (P := {Permission.usersWrite}) plainLibrary
    (fun _ => bindingCall) (by decide) (by simp [bindingCall, userManager])
    (officeTurns_run (officeTables false) (fun _ => bindingCall) [0, 0, 0, 0, 0, 0])
  exact ⟨now, (granted.2.2 12).2 _ now⟩

theorem manager_becomes_admin :
    let call : OrgCall := ⟨userManager, .updateUser 13 { isTenantAdmin := some true }⟩
    let after := (officeTurns (officeTables false) (fun _ => call) [0, 0, 0, 0, 0]).2.shared
    (∀ permission ∈ userManager.permissions, permission ∈ [Permission.usersWrite]) ∧
      (¬ (officeTables false).IsTenantAdmin 13 ∧ ¬ (officeTables false).Holds 13 .auditExport) ∧
      after.IsTenantAdmin 13 ∧ after.Holds 13 .auditExport := by
  decide +kernel

end Escalation

end AgentHive
