import AgentHive.Llm.Values
import AgentHive.Process.Interleaving
import AgentHive.Store.OrderedDict

/-!
The tables of users and roles, what a request reads of them, and how the
database carries out the changed rows of a request at its commit.
-/

namespace AgentHive

inductive Permission
  | tenantAdmin
  | usersRead | usersWrite
  | departmentsRead | departmentsWrite
  | agentsRead | agentsWrite
  | chatRead | chatWrite
  | knowledgeRead | knowledgeWrite
  | channelsRead | channelsWrite
  | mcpRead | mcpWrite | mcpInvoke
  | modelsRead | modelsWrite
  | budgetsRead | budgetsWrite | budgetsExport
  | analyticsRead
  | auditRead | auditExport
  | licenseRead | licenseWrite
  | systemDiagnostics
deriving DecidableEq

def Permission.value : Permission → String
  | .tenantAdmin => "tenant.admin"
  | .usersRead => "users:read"
  | .usersWrite => "users:write"
  | .departmentsRead => "departments:read"
  | .departmentsWrite => "departments:write"
  | .agentsRead => "agents:read"
  | .agentsWrite => "agents:write"
  | .chatRead => "chat:read"
  | .chatWrite => "chat:write"
  | .knowledgeRead => "knowledge:read"
  | .knowledgeWrite => "knowledge:write"
  | .channelsRead => "channels:read"
  | .channelsWrite => "channels:write"
  | .mcpRead => "mcp:read"
  | .mcpWrite => "mcp:write"
  | .mcpInvoke => "mcp:invoke"
  | .modelsRead => "models:read"
  | .modelsWrite => "models:write"
  | .budgetsRead => "budgets:read"
  | .budgetsWrite => "budgets:write"
  | .budgetsExport => "budgets:export"
  | .analyticsRead => "analytics:read"
  | .auditRead => "audit:read"
  | .auditExport => "audit:export"
  | .licenseRead => "license:read"
  | .licenseWrite => "license:write"
  | .systemDiagnostics => "system:diagnostics"

/-- `Permission` in the order of its declaration. -/
def Permission.all : List Permission :=
  [.tenantAdmin, .usersRead, .usersWrite, .departmentsRead, .departmentsWrite, .agentsRead,
    .agentsWrite, .chatRead, .chatWrite, .knowledgeRead, .knowledgeWrite, .channelsRead,
    .channelsWrite, .mcpRead, .mcpWrite, .mcpInvoke, .modelsRead, .modelsWrite, .budgetsRead,
    .budgetsWrite, .budgetsExport, .analyticsRead, .auditRead, .auditExport, .licenseRead,
    .licenseWrite, .systemDiagnostics]

@[simp] theorem Permission.mem_all (p : Permission) : p ∈ Permission.all := by
  cases p <;> decide

structure Tenant where
  slug : String
  isActive : Bool := true
deriving DecidableEq

structure User where
  tenantId : UUID
  email : String
  username : Option String := none
  hashedPassword : String
  fullName : Option String := none
  avatarUrl : Option String := none
  phone : Option String := none
  isSuperAdmin : Bool := false
  isTenantAdmin : Bool := false
  isActive : Bool := true
  authVersion : Nat := 0
  deleted : Bool := false
deriving DecidableEq

structure Role where
  tenantId : UUID
  name : String
  description : Option String := none
  permissions : List Permission := []
  isSystem : Bool := false
deriving DecidableEq

structure UserRole where
  userId : UUID
  roleId : UUID
  grantedBy : Option UUID := none
deriving DecidableEq

structure UserDepartment where
  userId : UUID
  departmentId : UUID
  isLeader : Bool := false
  isPrimary : Bool := false
  positionTitle : Option String := none
  costCenterId : Option UUID := none
deriving DecidableEq

structure UserColumns where
  email : Option String := none
  username : Option (Option String) := none
  hashedPassword : Option String := none
  fullName : Option (Option String) := none
  avatarUrl : Option (Option String) := none
  phone : Option (Option String) := none
  isTenantAdmin : Option Bool := none
  isActive : Option Bool := none
  authVersion : Option Nat := none
deriving DecidableEq

def UserColumns.apply (columns : UserColumns) (user : User) : User :=
  { user with
    email := columns.email.getD user.email
    username := columns.username.getD user.username
    hashedPassword := columns.hashedPassword.getD user.hashedPassword
    fullName := columns.fullName.getD user.fullName
    avatarUrl := columns.avatarUrl.getD user.avatarUrl
    phone := columns.phone.getD user.phone
    isTenantAdmin := columns.isTenantAdmin.getD user.isTenantAdmin
    isActive := columns.isActive.getD user.isActive
    authVersion := columns.authVersion.getD user.authVersion }

structure RoleColumns where
  name : Option String := none
  description : Option (Option String) := none
  permissions : Option (List Permission) := none
deriving DecidableEq

def RoleColumns.apply (columns : RoleColumns) (role : Role) : Role :=
  { role with
    name := columns.name.getD role.name
    description := columns.description.getD role.description
    permissions := columns.permissions.getD role.permissions }

structure OrgRows where
  tenants : OrderedDict UUID Tenant
  users : OrderedDict UUID User
  roles : OrderedDict UUID Role
  userRoles : List UserRole
  departments : OrderedDict UUID UUID
  costCenters : OrderedDict UUID UUID
  userDepartments : List UserDepartment

structure OrgRows.Consistent (rows : OrgRows) : Prop where
  emails : (rows.users.entries.map fun e => (e.2.tenantId, e.2.email)).Nodup
  names : (rows.roles.entries.map fun e => (e.2.tenantId, e.2.name)).Nodup
  bindings : (rows.userRoles.map fun b => (b.userId, b.roleId)).Nodup
  bound : ∀ b ∈ rows.userRoles, b.userId ∈ rows.users.keys ∧ b.roleId ∈ rows.roles.keys
  memberships : (rows.userDepartments.map fun d => (d.userId, d.departmentId)).Nodup
  placed : ∀ d ∈ rows.userDepartments,
    d.userId ∈ rows.users.keys ∧ d.departmentId ∈ rows.departments.keys

instance (rows : OrgRows) : Decidable rows.Consistent :=
  decidable_of_iff
    ((rows.users.entries.map fun e => (e.2.tenantId, e.2.email)).Nodup ∧
      (rows.roles.entries.map fun e => (e.2.tenantId, e.2.name)).Nodup ∧
      (rows.userRoles.map fun b => (b.userId, b.roleId)).Nodup ∧
      (∀ b ∈ rows.userRoles, b.userId ∈ rows.users.keys ∧ b.roleId ∈ rows.roles.keys) ∧
      (rows.userDepartments.map fun d => (d.userId, d.departmentId)).Nodup ∧
      ∀ d ∈ rows.userDepartments,
        d.userId ∈ rows.users.keys ∧ d.departmentId ∈ rows.departments.keys)
    ⟨fun h => ⟨h.1, h.2.1, h.2.2.1, h.2.2.2.1, h.2.2.2.2.1, h.2.2.2.2.2⟩,
      fun h => ⟨h.emails, h.names, h.bindings, h.bound, h.memberships, h.placed⟩⟩

structure OrgTables extends OrgRows where
  consistent : toOrgRows.Consistent

inductive OrgWrite
  | insertUser (id : UUID) (user : User)
  | updateUser (id : UUID) (columns : UserColumns)
  | insertRole (id : UUID) (role : Role)
  | updateRole (id : UUID) (columns : RoleColumns)
  | insertUserRole (row : UserRole)
  | deleteUserRoles (userId : UUID)
  | insertUserDepartment (row : UserDepartment)
  | deleteUserDepartments (userId : UUID)
deriving DecidableEq

variable (rows : OrgRows)

def OrgRows.apply : OrgWrite → Option OrgRows
  | .insertUser id user =>
    if id ∈ rows.users.keys then none else some { rows with users := rows.users.set id user }
  | .updateUser id columns =>
    some { rows with
      users := rows.users.mapValues fun k user => if k = id then columns.apply user else user }
  | .insertRole id role =>
    if id ∈ rows.roles.keys then none else some { rows with roles := rows.roles.set id role }
  | .updateRole id columns =>
    some { rows with
      roles := rows.roles.mapValues fun k role => if k = id then columns.apply role else role }
  | .insertUserRole row => some { rows with userRoles := rows.userRoles ++ [row] }
  | .deleteUserRoles userId =>
    some { rows with userRoles := rows.userRoles.filter fun b => b.userId ≠ userId }
  | .insertUserDepartment row =>
    some { rows with userDepartments := rows.userDepartments ++ [row] }
  | .deleteUserDepartments userId =>
    some { rows with
      userDepartments := rows.userDepartments.filter fun d => d.userId ≠ userId }

def OrgRows.applyAll : OrgRows → List OrgWrite → Option OrgRows
  | rows, [] => some rows
  | rows, w :: rest => (rows.apply w).bind fun next => next.applyAll rest

/-! What a statement does to the rows, table by table. -/

section Applied

variable {rows after : OrgRows} {w : OrgWrite}

variable (applied : rows.apply w = some after)

include applied

theorem OrgRows.get_user_apply (u : UUID) :
    after.users.get u =
      match w with
      | .insertUser id user => if u = id then some user else rows.users.get u
      | .updateUser id columns =>
        (rows.users.get u).map fun user => if u = id then columns.apply user else user
      | _ => rows.users.get u := by
  cases w with
  | insertUser id user =>
    obtain ⟨-, ⟨⟩⟩ := Option.ite_none_left_eq_some.mp applied
    exact OrderedDict.get_set rows.users id user u
  | updateUser id columns =>
    cases applied
    exact OrderedDict.get_mapValues rows.users _ u
  | insertRole id role =>
    obtain ⟨-, ⟨⟩⟩ := Option.ite_none_left_eq_some.mp applied
    rfl
  | updateRole | insertUserRole | deleteUserRoles | insertUserDepartment | deleteUserDepartments =>
    cases applied
    rfl

omit applied in
theorem OrgRows.fresh_of_insertUser {id : UUID} {user : User}
    (applied : rows.apply (.insertUser id user) = some after) : rows.users.get id = none := by
  obtain ⟨fresh, -⟩ := Option.ite_none_left_eq_some.mp applied
  simpa [OrderedDict.mem_keys] using fresh

theorem OrgRows.user_apply {userId : UUID} {p q : User → Prop} (same : ∀ user, p user → q user)
    (changed : ∀ columns user, w = .updateUser userId columns → p user → q (columns.apply user))
    (held : ∃ user, rows.users.get userId = some user ∧ p user) :
    ∃ user, after.users.get userId = some user ∧ q user := by
  obtain ⟨user, stored, of⟩ := held
  rw [get_user_apply applied userId]
  cases w with
  | insertUser id new =>
    have other : userId ≠ id := by
      intro same
      rw [same, fresh_of_insertUser applied] at stored
      cases stored
    exact ⟨user, (if_neg other).trans stored, same user of⟩
  | updateUser id columns =>
    rw [stored]
    by_cases own : userId = id
    · exact ⟨columns.apply user, by simp [own], changed columns user (by rw [own]) of⟩
    · exact ⟨user, by simp [own], same user of⟩
  | insertRole | updateRole | insertUserRole | deleteUserRoles | insertUserDepartment
  | deleteUserDepartments => exact ⟨user, stored, same user of⟩

theorem OrgRows.roles_apply (insert : ∀ id role, w ≠ .insertRole id role)
    (update : ∀ id columns, w ≠ .updateRole id columns) : after.roles = rows.roles := by
  cases w with
  | insertUser id user =>
    obtain ⟨-, ⟨⟩⟩ := Option.ite_none_left_eq_some.mp applied
    rfl
  | insertRole id role => exact absurd rfl (insert id role)
  | updateRole id columns => exact absurd rfl (update id columns)
  | updateUser | insertUserRole | deleteUserRoles | insertUserDepartment | deleteUserDepartments =>
    cases applied
    rfl

theorem OrgRows.userRoles_apply :
    after.userRoles =
      match w with
      | .insertUserRole row => rows.userRoles ++ [row]
      | .deleteUserRoles userId => rows.userRoles.filter fun b => b.userId ≠ userId
      | _ => rows.userRoles := by
  cases w with
  | insertUser id user =>
    obtain ⟨-, ⟨⟩⟩ := Option.ite_none_left_eq_some.mp applied
    rfl
  | insertRole id role =>
    obtain ⟨-, ⟨⟩⟩ := Option.ite_none_left_eq_some.mp applied
    rfl
  | updateUser | updateRole | insertUserRole | deleteUserRoles | insertUserDepartment
  | deleteUserDepartments =>
    cases applied
    rfl

end Applied

theorem OrgRows.applyAll_keeps {P : OrgRows → Prop} {writes : List OrgWrite}
    (step : ∀ rows after w, w ∈ writes → rows.apply w = some after → P rows → P after)
    {rows after : OrgRows} (applied : rows.applyAll writes = some after) (start : P rows) :
    P after := by
  induction writes generalizing rows with
  | nil =>
    cases applied
    exact start
  | cons w rest ih =>
    obtain ⟨next, first, others⟩ := Option.bind_eq_some_iff.mp applied
    refine ih (fun rows after v mem => step rows after v (List.mem_cons_of_mem w mem)) others ?_
    exact step rows next w List.mem_cons_self first start

variable (tables : OrgTables)

def OrgTables.write (writes : List OrgWrite) : Option OrgTables :=
  (tables.toOrgRows.applyAll writes).bind fun rows =>
    if consistent : rows.Consistent then some { toOrgRows := rows, consistent := consistent }
    else none

theorem OrgTables.write_nothing : tables.write [] = some tables := by
  simp [OrgTables.write, OrgRows.applyAll, tables.consistent]

theorem OrgTables.applyAll_of_write {tables after : OrgTables} {writes : List OrgWrite}
    (stored : tables.write writes = some after) :
    tables.toOrgRows.applyAll writes = some after.toOrgRows := by
  obtain ⟨rows, applied, consistent⟩ := Option.bind_eq_some_iff.mp stored
  split at consistent
  · cases consistent
    exact applied
  · cases consistent

inductive OrgEffect
  | getUser (id : UUID)
  | getRole (id : UUID)
  | getTenant (id : UUID)
  /-- The id of the user with an email, other than the given one. -/
  | userIdByEmail (tenantId : UUID) (email : String) (other : Option UUID)
  | roleIdByName (tenantId : UUID) (name : String)
  | ensureLicenseCapacity (tenantId : UUID)
  | departmentIdsIn (tenantId : UUID) (ids : List UUID)
  | costCenterIdsIn (tenantId : UUID) (ids : List UUID)
  | rolesIn (tenantId : UUID) (ids : List UUID)
  | rolesOf (userId tenantId : UUID)
  | departmentsOf (userId tenantId : UUID)
  /-- The user with an email in the active tenant with a slug. -/
  | loginUser (slug email : String)
  | activeSessionUser (tenantId userId : UUID)
  | activeTenantBySlug (slug : String)
  | isLocked (keys : List String)
  | recordFailure (keys : List String)
  | resetFailures (keys : List String)
  | utcNow
  | commit (writes : List OrgWrite)
  | rollback
deriving DecidableEq

abbrev OrgRow : OrgEffect → Type
  | .getUser _ => Option User
  | .getRole _ => Option Role
  | .getTenant _ => Option Tenant
  | .userIdByEmail _ _ _ => Option UUID
  | .roleIdByName _ _ => Option UUID
  | .ensureLicenseCapacity _ => Unit
  | .departmentIdsIn _ _ => List UUID
  | .costCenterIdsIn _ _ => List UUID
  | .rolesIn _ _ => List (UUID × Role)
  | .rolesOf _ _ => List (UUID × Role)
  | .departmentsOf _ _ => List UserDepartment
  | .loginUser _ _ => Option (UUID × User)
  | .activeSessionUser _ _ => Option (UUID × User)
  | .activeTenantBySlug _ => Option UUID
  | .isLocked _ => Bool
  | .recordFailure _ => Unit
  | .resetFailures _ => Unit
  | .utcNow => Nat
  | .commit _ => Unit
  | .rollback => Unit

abbrev OrgAnswer (e : OrgEffect) : Type := Except Exc (OrgRow e)

def OrgRows.rolesOf (userId tenantId : UUID) : List (UUID × Role) :=
  rows.roles.entries.filter fun e =>
    e.2.tenantId == tenantId && rows.userRoles.any fun b => b.userId == userId && b.roleId == e.1

namespace OrgTables

def read (tables : OrgTables) : (e : OrgEffect) → OrgRow e
  | .getUser id => tables.users.get id
  | .getRole id => tables.roles.get id
  | .getTenant id => tables.tenants.get id
  | .userIdByEmail tenantId email other =>
    (tables.users.entries.find? fun e =>
      e.2.tenantId == tenantId && e.2.email == email && !e.2.deleted &&
        other != some e.1).map Prod.fst
  | .roleIdByName tenantId name =>
    (tables.roles.entries.find? fun e =>
      e.2.tenantId == tenantId && e.2.name == name).map Prod.fst
  | .ensureLicenseCapacity _ => ()
  | .departmentIdsIn tenantId ids =>
    (tables.departments.entries.filter fun e =>
      e.2 == tenantId && ids.contains e.1).map Prod.fst
  | .costCenterIdsIn tenantId ids =>
    (tables.costCenters.entries.filter fun e =>
      e.2 == tenantId && ids.contains e.1).map Prod.fst
  | .rolesIn tenantId ids =>
    tables.roles.entries.filter fun e => e.2.tenantId == tenantId && ids.contains e.1
  | .rolesOf userId tenantId => tables.rolesOf userId tenantId
  | .departmentsOf userId tenantId =>
    tables.userDepartments.filter fun d =>
      d.userId == userId && tables.departments.get d.departmentId == some tenantId
  | .loginUser slug email =>
    tables.users.entries.find? fun e =>
      e.2.email == email && !e.2.deleted &&
        (tables.tenants.get e.2.tenantId).any fun t => t.slug == slug && t.isActive
  | .activeSessionUser tenantId userId =>
    tables.users.entries.find? fun e =>
      e.1 == userId && e.2.tenantId == tenantId && !e.2.deleted && e.2.isActive &&
        (tables.tenants.get e.2.tenantId).any fun t => t.isActive
  | .activeTenantBySlug slug =>
    (tables.tenants.entries.find? fun e => e.2.slug == slug && e.2.isActive).map Prod.fst
  | .isLocked _ => false
  | .recordFailure _ => ()
  | .resetFailures _ => ()
  | .utcNow => 0
  | .commit _ => ()
  | .rollback => ()

/-- A statement may fail. A commit that fails may still have been carried out,
when only its confirmation was lost. The limiter and the clock answer freely. -/
def Answers (tables : OrgTables) (e : OrgEffect) (r : OrgAnswer e) (after : OrgTables) : Prop :=
  match e with
  | .commit writes =>
    tables.write writes = some after ∨ (∃ x, r = .error x) ∧ after = tables
  | .isLocked _ | .utcNow => after = tables
  | e => after = tables ∧ ∀ row, r = .ok row → row = tables.read e

end OrgTables

def orgEnvironment : Process.Environment OrgEffect OrgAnswer OrgTables where
  answers := OrgTables.Answers
  drifts := fun _ _ => False

def OrgTables.serve : (e : OrgEffect) → OrgAnswer e × OrgTables
  | .commit writes =>
    match tables.write writes with
    | some after => (.ok (), after)
    | none => (.error (.sqlAlchemy "IntegrityError" "constraint violation"), tables)
  | e => (.ok (tables.read e), tables)

theorem OrgTables.serve_answers (e : OrgEffect) :
    orgEnvironment.answers tables e (tables.serve e).1 (tables.serve e).2 := by
  cases e with
  | commit writes =>
    cases stored : tables.write writes with
    | some after => exact .inl (by simp [serve, stored])
    | none =>
      refine .inr ⟨⟨.sqlAlchemy "IntegrityError" "constraint violation", ?_⟩, ?_⟩
      · simp [serve, stored]
      · simp [serve, stored]
  | isLocked | utcNow => rfl
  | _ =>
    refine ⟨rfl, ?_⟩
    intro row eq
    cases eq
    rfl

/-- The permissions that `_load_permissions` and `_permissions_for_user` collect. -/
def OrgRows.Holds (userId : UUID) (permission : Permission) : Prop :=
  ∃ user, rows.users.get userId = some user ∧
    (user.isTenantAdmin = true ∨ user.isSuperAdmin = true ∨
      ∃ entry ∈ rows.rolesOf userId user.tenantId, permission ∈ entry.2.permissions)

def OrgRows.IsTenantAdmin (userId : UUID) : Prop :=
  ∃ user, rows.users.get userId = some user ∧ user.isTenantAdmin = true

def OrgRows.IsActiveAdmin (tenantId userId : UUID) : Prop :=
  ∃ user, rows.users.get userId = some user ∧ user.tenantId = tenantId ∧ user.deleted = false ∧
    user.isActive = true ∧ user.isTenantAdmin = true

instance decidableFound {β : Type} (found : Option β) (P : β → Prop) [DecidablePred P] :
    Decidable (∃ b, found = some b ∧ P b) :=
  match found with
  | none => .isFalse nofun
  | some b => decidable_of_iff (P b) ⟨fun h => ⟨b, rfl, h⟩, fun ⟨_, rfl, h⟩ => h⟩

instance (rows : OrgRows) (userId : UUID) (permission : Permission) :
    Decidable (rows.Holds userId permission) :=
  inferInstanceAs (Decidable (∃ user, rows.users.get userId = some user ∧ _))

instance (rows : OrgRows) (userId : UUID) : Decidable (rows.IsTenantAdmin userId) :=
  inferInstanceAs (Decidable (∃ user, rows.users.get userId = some user ∧ _))

instance (rows : OrgRows) (tenantId userId : UUID) :
    Decidable (rows.IsActiveAdmin tenantId userId) :=
  inferInstanceAs (Decidable (∃ user, rows.users.get userId = some user ∧ _))

theorem OrgRows.IsActiveAdmin.mem_keys {rows : OrgRows} {tenantId userId : UUID}
    (admin : rows.IsActiveAdmin tenantId userId) : userId ∈ rows.users.keys := by
  obtain ⟨user, stored, _⟩ := admin
  rw [OrderedDict.mem_keys, stored]
  rfl

theorem OrgRows.not_isActiveAdmin {rows : OrgRows} {tenantId : UUID}
    (h : ∀ id ∈ rows.users.keys, ¬ rows.IsActiveAdmin tenantId id) (userId : UUID) :
    ¬ rows.IsActiveAdmin tenantId userId :=
  fun admin => h userId admin.mem_keys admin

end AgentHive
