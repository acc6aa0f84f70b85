import AgentHive.Process.Obligation
import AgentHive.Services.OrgTables
import Mathlib.Data.List.Dedup
import Mathlib.Data.List.Sort

/-!
The administration of users and roles: each operation as the endpoint runs it,
in a session of its own.
-/

namespace AgentHive

open Process (Action)

/-- `Principal`; the permissions are a set in the source. -/
structure Principal where
  userId : UUID
  tenantId : UUID
  permissions : List Permission
  authVersion : Nat := 0
  isDevelopmentFallback : Bool := false
deriving DecidableEq

def Principal.isTenantAdmin (principal : Principal) : Bool :=
  principal.permissions.contains .tenantAdmin

def Principal.hasPermission (principal : Principal) (permission : Permission) : Bool :=
  principal.isTenantAdmin || principal.permissions.contains permission

/-- The library functions the operations use: the salted hash of a password,
its check, whether it is of an old format, and `str.strip` and `str.lower`. -/
structure TextLibrary where
  hashPassword : String → String
  verifyPassword : String → String → Bool
  needsRehash : String → Bool
  strip : String → String
  lower : String → String

abbrev OrgSession (α : Type) : Type := Action OrgEffect OrgAnswer (List OrgWrite) Exc α

namespace OrgSession

def query (e : OrgEffect) : OrgSession (OrgRow e) := do
  let answer ← Action.perform e
  Action.ofExcept answer

def add (writes : List OrgWrite) : OrgSession Unit := Action.modify (· ++ writes)

def commit : OrgSession Unit := do
  let writes ← Action.get
  query (.commit writes)
  Action.modify fun _ => []

def rollback : OrgSession Unit := do
  query .rollback
  Action.modify fun _ => []

def fail {α : Type} (statusCode : Nat) (detail : String) : OrgSession α :=
  Action.throw (.http statusCode (.text detail))

def refuse (condition : Prop) [Decidable condition] (statusCode : Nat) (detail : String) :
    OrgSession Unit :=
  if condition then fail statusCode detail else pure ()

def guarded {α : Type} (unavailable : String) (body : OrgSession α) : OrgSession α :=
  Action.tryCatch body fun x =>
    match x with
    | .http _ _ => do
      rollback
      Action.throw x
    | .os _ _ | .sqlAlchemy _ _ => do
      rollback
      fail 503 unavailable
    | _ => Action.throw x

def requirePermission {α : Type} (permission : Permission) (principal : Principal)
    (endpoint : OrgSession α) : OrgSession α :=
  if principal.hasPermission permission then endpoint
  else fail 403 ("Permission required: " ++ permission.value)

end OrgSession

structure UserDepartmentBindingRequest where
  departmentId : UUID
  isLeader : Bool := false
  isPrimary : Bool := false
  positionTitle : Option String := none
  costCenterId : Option UUID := none
deriving DecidableEq

structure UserCreateRequest where
  email : String
  password : String
  username : Option String := none
  fullName : Option String := none
  avatarUrl : Option String := none
  phone : Option String := none
  isTenantAdmin : Bool := false
  isActive : Bool := true
  departmentBindings : List UserDepartmentBindingRequest := []
  roleIds : List UUID := []
deriving DecidableEq

structure UserUpdateRequest where
  email : Option String := none
  username : Option (Option String) := none
  fullName : Option (Option String) := none
  avatarUrl : Option (Option String) := none
  phone : Option (Option String) := none
  isTenantAdmin : Option Bool := none
  departmentBindings : Option (List UserDepartmentBindingRequest) := none
  roleIds : Option (List UUID) := none
deriving DecidableEq

structure UserStatusUpdateRequest where
  isActive : Bool
deriving DecidableEq

structure UserPasswordResetRequest where
  newPassword : String
deriving DecidableEq

structure RoleCreateRequest where
  name : String
  description : Option String := none
  permissions : List Permission := []
  isSystem : Bool := false
deriving DecidableEq

structure RoleUpdateRequest where
  name : Option String := none
  description : Option (Option String) := none
  permissions : Option (List Permission) := none
deriving DecidableEq

structure UserResponse where
  id : UUID
  tenantId : UUID
  email : String
  username : Option String
  fullName : Option String
  avatarUrl : Option String
  phone : Option String
  isSuperAdmin : Bool
  isTenantAdmin : Bool
  isActive : Bool
  departments : List UserDepartment
  roles : List (UUID × Role)
  permissions : List Permission
deriving DecidableEq

inductive OrgResponse
  | user (response : UserResponse)
  | role (id : UUID) (role : Role)
deriving DecidableEq

namespace OrgAdmin

open OrgSession

/-- `sorted` of the permissions of several roles, each once. -/
def sortedPermissions (lists : List (List Permission)) : List Permission :=
  lists.flatten.dedup.insertionSort fun p q => p.value ≤ q.value

def permissionsForUser (user : User) (roles : List (UUID × Role)) : List Permission :=
  if user.isSuperAdmin || user.isTenantAdmin then Permission.all
  else sortedPermissions (roles.map fun e => e.2.permissions)

variable (userId : UUID)

def toUserResponse : OrgSession OrgResponse := do
  let refreshed ← query (.getUser userId)
  match refreshed with
  | none => Action.throw (.sqlAlchemy "InvalidRequestError" "Could not refresh instance")
  | some user => do
    let joined ← query (.rolesOf userId user.tenantId)
    let roles := joined.insertionSort fun a b => a.2.name ≤ b.2.name
    let departments ← query (.departmentsOf userId user.tenantId)
    pure (.user
      { id := userId
        tenantId := user.tenantId
        email := user.email
        username := user.username
        fullName := user.fullName
        avatarUrl := user.avatarUrl
        phone := user.phone
        isSuperAdmin := user.isSuperAdmin
        isTenantAdmin := user.isTenantAdmin
        isActive := user.isActive
        departments := departments
        roles := roles
        permissions := permissionsForUser user roles })

variable (tenantId : UUID)

def tenantUser (userId : UUID) : OrgSession User := do
  let found ← query (.getUser userId)
  match found with
  | none => fail 404 "User not found."
  | some user =>
    if user.tenantId ≠ tenantId ∨ user.deleted = true then fail 404 "User not found."
    else pure user

def loadRolesByIds (roleIds : List UUID) : OrgSession (List (UUID × Role)) :=
  if roleIds.isEmpty then pure []
  else do
    let roles ← query (.rolesIn tenantId roleIds.dedup)
    if roles.length ≠ roleIds.dedup.length then fail 404 "One or more roles were not found."
    else pure roles

def validateDepartments (departmentIds : List UUID) : OrgSession Unit :=
  if departmentIds.isEmpty then pure ()
  else do
    let found ← query (.departmentIdsIn tenantId departmentIds)
    refuse (∃ id ∈ departmentIds, id ∉ found) 404 "One or more departments were not found."

def validateCostCenters (costCenterIds : List UUID) : OrgSession Unit :=
  if costCenterIds.isEmpty then pure ()
  else do
    let found ← query (.costCenterIdsIn tenantId costCenterIds)
    refuse (∃ id ∈ costCenterIds, id ∉ found) 404 "One or more cost centers were not found."

variable (bindings : List UserDepartmentBindingRequest)

def validateUserBindings : OrgSession Unit := do
  validateDepartments tenantId (bindings.map (·.departmentId)).dedup
  validateCostCenters tenantId (bindings.filterMap (·.costCenterId)).dedup

def validatePrimaryDepartmentBinding : OrgSession Unit :=
  refuse (1 < bindings.countP (·.isPrimary)) 409
    "A user can have at most one primary department."

def departmentRow (binding : UserDepartmentBindingRequest) (isPrimary : Bool) : OrgWrite :=
  .insertUserDepartment
    { userId := userId
      departmentId := binding.departmentId
      isLeader := binding.isLeader
      isPrimary := isPrimary
      positionTitle := binding.positionTitle
      costCenterId := binding.costCenterId }

/-- `_replace_user_department_bindings`: where no binding is primary, the first is. -/
def replaceUserDepartmentBindings : List OrgWrite :=
  .deleteUserDepartments userId :: bindings.zipIdx.map fun b =>
    departmentRow userId b.1 (b.1.isPrimary || b.2 == 0 && !bindings.any (·.isPrimary))

def roleRow (grantedBy : UUID) (role : UUID × Role) : OrgWrite :=
  .insertUserRole { userId := userId, roleId := role.1, grantedBy := some grantedBy }

def replaceUserRoles (roles : List (UUID × Role)) (grantedBy : UUID) : List OrgWrite :=
  .deleteUserRoles userId :: roles.map (roleRow userId grantedBy)

def ensureEmailAvailable (email : String) (other : Option UUID) : OrgSession Unit := do
  let existing ← query (.userIdByEmail tenantId email other)
  refuse existing.isSome 409 "User email already exists in this tenant."

variable (lib : TextLibrary) (principal : Principal)

/-- `create_user`; the id is the one the new row draws. -/
def createUser (newId : UUID) (payload : UserCreateRequest) : OrgSession OrgResponse :=
  guarded "User storage is not available." do
    ensureEmailAvailable principal.tenantId payload.email none
    query (.ensureLicenseCapacity principal.tenantId)
    validateUserBindings principal.tenantId payload.departmentBindings
    let roles ← loadRolesByIds principal.tenantId payload.roleIds
    add
      [.insertUser newId
        { tenantId := principal.tenantId
          email := payload.email
          username := payload.username
          hashedPassword := lib.hashPassword payload.password
          fullName := payload.fullName
          avatarUrl := payload.avatarUrl
          phone := payload.phone
          isTenantAdmin := payload.isTenantAdmin
          isActive := payload.isActive }]
    add (payload.departmentBindings.map fun b => departmentRow newId b b.isPrimary)
    add (roles.map (roleRow newId principal.userId))
    commit
    toUserResponse newId

def updateUserStatus (userId : UUID) (payload : UserStatusUpdateRequest) : OrgSession OrgResponse :=
  if userId = principal.userId ∧ payload.isActive = false then
    fail 409 "Administrators cannot deactivate their own account."
  else
    guarded "User storage is not available." do
      let user ← tenantUser principal.tenantId userId
      add [.updateUser userId
        { isActive := if payload.isActive = user.isActive then none else some payload.isActive }]
      commit
      toUserResponse userId

def changed {α : Type} [DecidableEq α] (given : Option α) (stored : α) : Option α :=
  given.filter fun value => value ≠ stored

def updateColumns (payload : UserUpdateRequest) (user : User) : UserColumns where
  email := changed payload.email user.email
  username := changed payload.username user.username
  fullName := changed payload.fullName user.fullName
  avatarUrl := changed payload.avatarUrl user.avatarUrl
  phone := changed payload.phone user.phone
  isTenantAdmin := changed payload.isTenantAdmin user.isTenantAdmin

def validateNewEmail (userId : UUID) (payload : UserUpdateRequest) (user : User) :
    OrgSession Unit :=
  if truthy payload.email ∧ payload.email ≠ some user.email then
    ensureEmailAvailable tenantId (payload.email.getD "") (some userId)
  else pure ()

def loadRequestedRoles :
    Option (List UUID) → OrgSession (Option (List (UUID × Role)))
  | none => pure none
  | some roleIds => do
    let roles ← loadRolesByIds tenantId roleIds
    pure (some roles)

def validateRequestedBindings :
    Option (List UserDepartmentBindingRequest) → OrgSession Unit
  | none => pure ()
  | some bindings => do
    validatePrimaryDepartmentBinding bindings
    validateUserBindings tenantId bindings

def updateUser (userId : UUID) (payload : UserUpdateRequest) : OrgSession OrgResponse :=
  if userId = principal.userId ∧ payload.isTenantAdmin = some false then
    fail 409 "Administrators cannot remove their own tenant administrator access."
  else
    guarded "User storage is not available." do
      let user ← tenantUser principal.tenantId userId
      validateNewEmail principal.tenantId userId payload user
      let roles ← loadRequestedRoles principal.tenantId payload.roleIds
      validateRequestedBindings principal.tenantId payload.departmentBindings
      add [.updateUser userId (updateColumns payload user)]
      add ((payload.departmentBindings.map (replaceUserDepartmentBindings userId)).getD [])
      add ((roles.map fun found => replaceUserRoles userId found principal.userId).getD [])
      commit
      toUserResponse userId

def resetUserPassword (userId : UUID) (payload : UserPasswordResetRequest) :
    OrgSession OrgResponse :=
  guarded "User storage is not available." do
    let _ ← tenantUser principal.tenantId userId
    add [.updateUser userId { hashedPassword := some (lib.hashPassword payload.newPassword) }]
    commit
    toUserResponse userId

def ensureRoleNameAvailable (name : String) (other : Option UUID) : OrgSession Unit := do
  let existing ← query (.roleIdByName tenantId name)
  refuse (existing.isSome ∧ existing ≠ other) 409 "Role name already exists."

def ensureNewNameAvailable (roleId : UUID) : Option String → OrgSession Unit
  | none => pure ()
  | some nextName => ensureRoleNameAvailable tenantId nextName (some roleId)

def toRoleResponse (roleId : UUID) : OrgSession OrgResponse := do
  let refreshed ← query (.getRole roleId)
  match refreshed with
  | none => Action.throw (.sqlAlchemy "InvalidRequestError" "Could not refresh instance")
  | some role => pure (.role roleId role)

def createRole (newId : UUID) (payload : RoleCreateRequest) : OrgSession OrgResponse :=
  guarded "Role storage is not available." do
    ensureRoleNameAvailable principal.tenantId (lib.strip payload.name) none
    add
      [.insertRole newId
        { tenantId := principal.tenantId
          name := lib.strip payload.name
          description := payload.description
          permissions := payload.permissions
          isSystem := payload.isSystem }]
    commit
    toRoleResponse newId

def updateRole (roleId : UUID) (payload : RoleUpdateRequest) : OrgSession OrgResponse :=
  guarded "Role storage is not available." do
    let found ← query (.getRole roleId)
    match found with
    | none => fail 404 "Role not found."
    | some role => do
      refuse (role.tenantId ≠ principal.tenantId) 404 "Role not found."
      refuse (role.isSystem = true) 409 "System roles cannot be modified."
      let name := changed (payload.name.map lib.strip) role.name
      ensureNewNameAvailable principal.tenantId roleId name
      add [.updateRole roleId
        { name := name
          description := payload.description
          permissions := payload.permissions }]
      commit
      toRoleResponse roleId

end OrgAdmin

inductive OrgOperation
  | createUser (newId : UUID) (payload : UserCreateRequest)
  | updateUser (userId : UUID) (payload : UserUpdateRequest)
  | updateUserStatus (userId : UUID) (payload : UserStatusUpdateRequest)
  | resetUserPassword (userId : UUID) (payload : UserPasswordResetRequest)
  | createRole (newId : UUID) (payload : RoleCreateRequest)
  | updateRole (roleId : UUID) (payload : RoleUpdateRequest)
deriving DecidableEq

structure OrgCall where
  principal : Principal
  operation : OrgOperation
deriving DecidableEq

def OrgCall.endpoint (lib : TextLibrary) (call : OrgCall) : OrgSession OrgResponse :=
  match call.operation with
  | .createUser newId payload =>
    OrgSession.requirePermission .usersWrite call.principal
      (OrgAdmin.createUser lib call.principal newId payload)
  | .updateUser userId payload =>
    OrgSession.requirePermission .usersWrite call.principal
      (OrgAdmin.updateUser call.principal userId payload)
  | .updateUserStatus userId payload =>
    OrgSession.requirePermission .usersWrite call.principal
      (OrgAdmin.updateUserStatus call.principal userId payload)
  | .resetUserPassword userId payload =>
    OrgSession.requirePermission .usersWrite call.principal
      (OrgAdmin.resetUserPassword lib call.principal userId payload)
  | .createRole newId payload =>
    OrgSession.requirePermission .tenantAdmin call.principal
      (OrgAdmin.createRole lib call.principal newId payload)
  | .updateRole roleId payload =>
    OrgSession.requirePermission .tenantAdmin call.principal
      (OrgAdmin.updateRole lib call.principal roleId payload)

abbrev OrgProgram : Type := Process.Program OrgEffect OrgAnswer (Except Exc OrgResponse)

abbrev OrgTaken (ι : Type) : Type :=
  Process.Taken ι OrgEffect OrgAnswer (Except Exc OrgResponse) OrgTables

abbrev OrgConfig (ι : Type) : Type :=
  Process.Config ι OrgEffect OrgAnswer (Except Exc OrgResponse) OrgTables

def OrgCall.program (lib : TextLibrary) (call : OrgCall) : OrgProgram :=
  (call.endpoint lib).run []

end AgentHive
