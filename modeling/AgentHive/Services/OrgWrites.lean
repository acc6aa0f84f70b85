import AgentHive.Services.OrgAdmin

/-!
What the operations of the administration write: every row that a call may
commit, whatever else is committed in between, and the proof that it commits
no others.
-/

namespace AgentHive

open Process (Action Program)

inductive OrgCall.MayWrite (lib : TextLibrary) : OrgCall → OrgWrite → Prop
  | newUser {principal : Principal} {newId : UUID} {payload : UserCreateRequest}
      (permitted : principal.hasPermission .usersWrite = true) :
      MayWrite lib ⟨principal, .createUser newId payload⟩
        (.insertUser newId
          { tenantId := principal.tenantId
            email := payload.email
            username := payload.username
            hashedPassword := lib.hashPassword payload.password
            fullName := payload.fullName
            avatarUrl := payload.avatarUrl
            phone := payload.phone
            isTenantAdmin := payload.isTenantAdmin
            isActive := payload.isActive })
  | newMembership {principal : Principal} {newId : UUID} {payload : UserCreateRequest}
      (permitted : principal.hasPermission .usersWrite = true)
      (binding : UserDepartmentBindingRequest) (isPrimary : Bool) :
      MayWrite lib ⟨principal, .createUser newId payload⟩
        (OrgAdmin.departmentRow newId binding isPrimary)
  | newBinding {principal : Principal} {newId : UUID} {payload : UserCreateRequest}
      (permitted : principal.hasPermission .usersWrite = true) {role : UUID × Role}
      (named : role.1 ∈ payload.roleIds) :
      MayWrite lib ⟨principal, .createUser newId payload⟩
        (OrgAdmin.roleRow newId principal.userId role)
  | columns {principal : Principal} {userId : UUID} {payload : UserUpdateRequest}
      (permitted : principal.hasPermission .usersWrite = true)
      (allowed : ¬ (userId = principal.userId ∧ payload.isTenantAdmin = some false))
      (user : User) :
      MayWrite lib ⟨principal, .updateUser userId payload⟩
        (.updateUser userId (OrgAdmin.updateColumns payload user))
  | noMemberships {principal : Principal} {userId : UUID} {payload : UserUpdateRequest}
      (permitted : principal.hasPermission .usersWrite = true) :
      MayWrite lib ⟨principal, .updateUser userId payload⟩ (.deleteUserDepartments userId)
  | membership {principal : Principal} {userId : UUID} {payload : UserUpdateRequest}
      (permitted : principal.hasPermission .usersWrite = true)
      (binding : UserDepartmentBindingRequest) (isPrimary : Bool) :
      MayWrite lib ⟨principal, .updateUser userId payload⟩
        (OrgAdmin.departmentRow userId binding isPrimary)
  | noBindings {principal : Principal} {userId : UUID} {payload : UserUpdateRequest}
      (permitted : principal.hasPermission .usersWrite = true)
      (given : payload.roleIds.isSome = true) :
      MayWrite lib ⟨principal, .updateUser userId payload⟩ (.deleteUserRoles userId)
  | binding {principal : Principal} {userId : UUID} {payload : UserUpdateRequest}
      {roleIds : List UUID} (permitted : principal.hasPermission .usersWrite = true)
      (given : payload.roleIds = some roleIds) {role : UUID × Role} (named : role.1 ∈ roleIds) :
      MayWrite lib ⟨principal, .updateUser userId payload⟩
        (OrgAdmin.roleRow userId principal.userId role)
  | status {principal : Principal} {userId : UUID} {payload : UserStatusUpdateRequest}
      (permitted : principal.hasPermission .usersWrite = true)
      (allowed : ¬ (userId = principal.userId ∧ payload.isActive = false))
      {value : Option Bool} (given : value = none ∨ value = some payload.isActive) :
      MayWrite lib ⟨principal, .updateUserStatus userId payload⟩
        (.updateUser userId { isActive := value })
  | password {principal : Principal} {userId : UUID} {payload : UserPasswordResetRequest}
      (permitted : principal.hasPermission .usersWrite = true) :
      MayWrite lib ⟨principal, .resetUserPassword userId payload⟩
        (.updateUser userId { hashedPassword := some (lib.hashPassword payload.newPassword) })
  | newRole {principal : Principal} {newId : UUID} {payload : RoleCreateRequest}
      (permitted : principal.hasPermission .tenantAdmin = true) (role : Role) :
      MayWrite lib ⟨principal, .createRole newId payload⟩ (.insertRole newId role)
  | roleColumns {principal : Principal} {roleId : UUID} {payload : RoleUpdateRequest}
      (permitted : principal.hasPermission .tenantAdmin = true) (name : Option String) :
      MayWrite lib ⟨principal, .updateRole roleId payload⟩
        (.updateRole roleId
          { name := name, description := payload.description, permissions := payload.permissions })

def OrgAdmissible (event : Process.Event OrgEffect OrgAnswer) : Prop :=
  match event with
  | ⟨.rolesIn _ ids, .ok rows⟩ => ∀ row ∈ rows, row.1 ∈ ids
  | _ => True

theorem orgAdmissible {tables after : OrgTables} {e : OrgEffect} {r : OrgAnswer e}
    (answered : orgEnvironment.answers tables e r after) : OrgAdmissible ⟨e, r⟩ := by
  cases e with
  | rolesIn tenantId ids =>
    cases r with
    | error x => trivial
    | ok rows =>
      intro row mem
      rw [answered.2 rows rfl] at mem
      have kept := (List.mem_filter.mp mem).2
      rw [Bool.and_eq_true, List.contains_iff_mem] at kept
      exact kept.2
  | _ => trivial

namespace OrgSession

variable {α β : Type} {good : OrgWrite → Prop} {Q : α → Prop}

def CommitsOnly (good : OrgWrite → Prop) : OrgEffect → Prop
  | .commit writes => ∀ w ∈ writes, good w
  | _ => True

def Writes (good : OrgWrite → Prop) (m : OrgSession α) (Q : α → Prop) : Prop :=
  ∀ pending, (∀ w ∈ pending, good w) →
    Action.Meets OrgAdmissible (CommitsOnly good) m pending fun r left =>
      (∀ w ∈ left, good w) ∧ ∀ a, r = .ok a → Q a

theorem writes_pure {a : α} (h : Q a) : Writes good (Pure.pure a) Q := by
  intro pending kept
  refine ⟨kept, ?_⟩
  intro b eq
  cases eq
  exact h

theorem writes_throw (x : Exc) : Writes good (Action.throw x) Q := by
  intro pending kept
  exact ⟨kept, fun b eq => nomatch eq⟩

theorem writes_fail (statusCode : Nat) (detail : String) : Writes good (fail statusCode detail) Q :=
  writes_throw _

theorem writes_refuse {condition : Prop} [Decidable condition] (statusCode : Nat)
    (detail : String) : Writes good (refuse condition statusCode detail) fun _ => True := by
  unfold refuse
  split
  · exact writes_fail _ _
  · exact writes_pure trivial

theorem Writes.bind {m : OrgSession α} {f : α → OrgSession β} {Q' : β → Prop}
    (first : Writes good m Q) (rest : ∀ a, Q a → Writes good (f a) Q') :
    Writes good (m >>= f) Q' := by
  intro pending kept
  rw [Action.meets_bind]
  refine (first pending kept).mono fun r left post => ?_
  cases r with
  | error x => exact ⟨post.1, fun b eq => nomatch eq⟩
  | ok a => exact rest a (post.2 a rfl) left post.1

theorem writes_query {e : OrgEffect} {Q : OrgRow e → Prop} (silent : CommitsOnly good e)
    (h : ∀ row, OrgAdmissible ⟨e, .ok row⟩ → Q row) : Writes good (query e) Q := by
  intro pending kept
  unfold query
  rw [Action.meets_bind, Action.meets_perform]
  refine ⟨silent, fun r fits => ?_⟩
  cases r with
  | error x => exact ⟨kept, fun b eq => nomatch eq⟩
  | ok row =>
    refine ⟨kept, ?_⟩
    intro b eq
    cases eq
    exact h row fits

theorem writes_ask {e : OrgEffect} (silent : CommitsOnly good e) :
    Writes good (query e) fun _ => True :=
  writes_query silent fun _ _ => trivial

theorem writes_add {writes : List OrgWrite} (h : ∀ w ∈ writes, good w) :
    Writes good (add writes) fun _ => True := by
  intro pending kept
  refine ⟨?_, fun _ _ => trivial⟩
  intro w mem
  rcases List.mem_append.mp mem with old | new
  · exact kept w old
  · exact h w new

theorem writes_commit : Writes good commit fun _ => True := by
  intro pending kept
  simp only [commit, query, Action.meets_bind, Action.meets_get, Action.meets_perform]
  refine ⟨kept, fun r _ => ?_⟩
  cases r with
  | error x => exact ⟨kept, fun _ _ => trivial⟩
  | ok u =>
    refine ⟨?_, fun _ _ => trivial⟩
    intro w mem
    cases mem

theorem writes_rollback : Writes good rollback fun _ => True := by
  refine (writes_ask (e := .rollback) trivial).bind fun _ _ => ?_
  intro pending kept
  exact ⟨fun w none => (nomatch none), fun _ _ => trivial⟩

theorem Writes.guarded {unavailable : String} {body : OrgSession α} (h : Writes good body Q) :
    Writes good (guarded unavailable body) Q := by
  intro pending kept
  unfold OrgSession.guarded
  rw [Action.meets_tryCatch]
  refine (h pending kept).mono fun r left post => ?_
  cases r with
  | ok a => exact post
  | error x =>
    have handled : ∀ y : Exc, Writes good (rollback >>= fun _ => Action.throw y) Q := fun y =>
      writes_rollback.bind fun _ _ => writes_throw y
    cases x with
    | http statusCode detail => exact handled _ left post.1
    | os => exact handled _ left post.1
    | sqlAlchemy => exact handled _ left post.1
    | _ => exact writes_throw _ left post.1

theorem Writes.requirePermission {permission : Permission} {principal : Principal}
    {endpoint : OrgSession α}
    (h : principal.hasPermission permission = true → Writes good endpoint Q) :
    Writes good (requirePermission permission principal endpoint) Q := by
  unfold OrgSession.requirePermission
  split
  · rename_i permitted
    exact h permitted
  · exact writes_fail _ _

end OrgSession

namespace OrgAdmin

open OrgSession

theorem of_changed {α : Type} [DecidableEq α] {given : Option α} {stored value : α}
    (h : changed given stored = some value) : given = some value :=
  (Option.filter_eq_some_iff.mp h).1

variable {good : OrgWrite → Prop}

theorem toUserResponse_writes (userId : UUID) :
    Writes good (toUserResponse userId) fun _ => True := by
  refine (writes_ask (e := .getUser userId) trivial).bind fun refreshed _ => ?_
  cases refreshed with
  | none => exact writes_throw _
  | some user =>
    refine (writes_ask (e := .rolesOf userId user.tenantId) trivial).bind fun joined _ => ?_
    refine (writes_ask (e := .departmentsOf userId user.tenantId) trivial).bind fun rows _ => ?_
    exact writes_pure trivial

theorem toRoleResponse_writes (roleId : UUID) :
    Writes good (toRoleResponse roleId) fun _ => True := by
  refine (writes_ask (e := .getRole roleId) trivial).bind fun refreshed _ => ?_
  cases refreshed with
  | none => exact writes_throw _
  | some role => exact writes_pure trivial

variable (tenantId : UUID)

theorem tenantUser_writes (userId : UUID) :
    Writes good (tenantUser tenantId userId) fun _ => True := by
  refine (writes_ask (e := .getUser userId) trivial).bind fun found _ => ?_
  cases found with
  | none => exact writes_fail _ _
  | some user =>
    dsimp only
    split
    · exact writes_fail _ _
    · exact writes_pure trivial

theorem loadRolesByIds_writes (roleIds : List UUID) :
    Writes good (loadRolesByIds tenantId roleIds) fun roles => ∀ role ∈ roles, role.1 ∈ roleIds := by
  unfold loadRolesByIds
  split
  · exact writes_pure fun role none => nomatch none
  · refine (writes_query (e := .rolesIn tenantId roleIds.dedup) trivial fun _ => id).bind ?_
    intro roles found
    split
    · exact writes_fail _ _
    · exact writes_pure fun role mem => List.mem_dedup.mp (found role mem)

theorem validateUserBindings_writes (bindings : List UserDepartmentBindingRequest) :
    Writes good (validateUserBindings tenantId bindings) fun _ => True := by
  refine Writes.bind (Q := fun _ => True) ?_ fun _ _ => ?_
  · unfold validateDepartments
    split
    · exact writes_pure trivial
    · refine (writes_ask (e := .departmentIdsIn tenantId _) trivial).bind fun found _ => ?_
      exact writes_refuse _ _
  · unfold validateCostCenters
    split
    · exact writes_pure trivial
    · refine (writes_ask (e := .costCenterIdsIn tenantId _) trivial).bind fun found _ => ?_
      exact writes_refuse _ _

theorem validateRequestedBindings_writes (bindings : Option (List UserDepartmentBindingRequest)) :
    Writes good (validateRequestedBindings tenantId bindings) fun _ => True := by
  cases bindings with
  | none => exact writes_pure trivial
  | some bindings =>
    refine Writes.bind (Q := fun _ => True) (writes_refuse _ _) fun _ _ => ?_
    exact validateUserBindings_writes tenantId bindings

theorem ensureEmailAvailable_writes (email : String) (other : Option UUID) :
    Writes good (ensureEmailAvailable tenantId email other) fun _ => True := by
  refine (writes_ask (e := .userIdByEmail tenantId email other) trivial).bind fun existing _ => ?_
  exact writes_refuse _ _

theorem loadRequestedRoles_writes (roleIds : Option (List UUID)) :
    Writes good (loadRequestedRoles tenantId roleIds) fun roles => ∀ found, roles = some found →
      ∃ ids, roleIds = some ids ∧ ∀ role ∈ found, role.1 ∈ ids := by
  cases roleIds with
  | none => exact writes_pure fun found none => nomatch none
  | some ids =>
    refine (loadRolesByIds_writes tenantId ids).bind fun roles named => writes_pure ?_
    intro found eq
    cases eq
    exact ⟨ids, rfl, named⟩

theorem ensureRoleNameAvailable_writes (name : String) (other : Option UUID) :
    Writes good (ensureRoleNameAvailable tenantId name other) fun _ => True := by
  refine (writes_ask (e := .roleIdByName tenantId name) trivial).bind fun existing _ => ?_
  exact writes_refuse _ _

theorem store_writes {writes : List OrgWrite} (h : ∀ w ∈ writes, good w) {rest : OrgSession OrgResponse}
    (later : Writes good rest fun _ => True) :
    Writes good (add writes >>= fun _ => rest) fun _ => True :=
  (writes_add h).bind fun _ _ => later

theorem commit_writes {rest : OrgSession OrgResponse} (later : Writes good rest fun _ => True) :
    Writes good (commit >>= fun _ => rest) fun _ => True :=
  writes_commit.bind fun _ _ => later

variable (lib : TextLibrary) {principal : Principal}

section

variable (permitted : principal.hasPermission .usersWrite = true)

include permitted

theorem createUser_writes (newId : UUID)
    (payload : UserCreateRequest) :
    Writes (OrgCall.MayWrite lib ⟨principal, .createUser newId payload⟩)
      (createUser lib principal newId payload) fun _ => True := by
  refine Writes.guarded ?_
  refine (ensureEmailAvailable_writes _ _ _).bind fun _ _ => ?_
  refine (writes_ask (e := .ensureLicenseCapacity _) trivial).bind fun _ _ => ?_
  refine (validateUserBindings_writes _ _).bind fun _ _ => ?_
  refine (loadRolesByIds_writes _ _).bind fun roles found => ?_
  apply store_writes
  · intro w mem
    rw [List.mem_singleton.mp mem]
    exact .newUser permitted
  apply store_writes
  · intro w mem
    obtain ⟨b, _, rfl⟩ := List.mem_map.mp mem
    exact .newMembership permitted b _
  apply store_writes
  · intro w mem
    obtain ⟨role, named, rfl⟩ := List.mem_map.mp mem
    exact .newBinding permitted (found role named)
  exact commit_writes (toUserResponse_writes newId)

theorem updateUserStatus_writes (userId : UUID) (payload : UserStatusUpdateRequest) :
    Writes (OrgCall.MayWrite lib ⟨principal, .updateUserStatus userId payload⟩)
      (updateUserStatus principal userId payload) fun _ => True := by
  unfold updateUserStatus
  split
  · exact writes_fail _ _
  · rename_i allowed
    refine Writes.guarded ((tenantUser_writes _ _).bind fun user _ => ?_)
    apply store_writes
    · intro w mem
      rw [List.mem_singleton.mp mem]
      refine .status permitted allowed ?_
      split
      · exact .inl rfl
      · exact .inr rfl
    exact commit_writes (toUserResponse_writes userId)

theorem replaceUserDepartmentBindings_writes {payload : UserUpdateRequest} {userId : UUID}
    (bindings : List UserDepartmentBindingRequest) :
    ∀ w ∈ replaceUserDepartmentBindings userId bindings,
      OrgCall.MayWrite lib ⟨principal, .updateUser userId payload⟩ w := by
  intro w mem
  rcases List.mem_cons.mp mem with first | later
  · rw [first]
    exact .noMemberships permitted
  · obtain ⟨b, _, rfl⟩ := List.mem_map.mp later
    exact .membership permitted b.1 _

theorem replaceUserRoles_writes {payload : UserUpdateRequest} {userId : UUID} {roleIds : List UUID}
    (given : payload.roleIds = some roleIds) {roles : List (UUID × Role)}
    (found : ∀ role ∈ roles, role.1 ∈ roleIds) :
    ∀ w ∈ replaceUserRoles userId roles principal.userId,
      OrgCall.MayWrite lib ⟨principal, .updateUser userId payload⟩ w := by
  intro w mem
  rcases List.mem_cons.mp mem with first | later
  · rw [first]
    exact .noBindings permitted (by rw [given]; rfl)
  · obtain ⟨role, named, rfl⟩ := List.mem_map.mp later
    exact .binding permitted given (found role named)

theorem updateUser_writes (userId : UUID)
    (payload : UserUpdateRequest) :
    Writes (OrgCall.MayWrite lib ⟨principal, .updateUser userId payload⟩)
      (updateUser principal userId payload) fun _ => True := by
  unfold updateUser
  split
  · exact writes_fail _ _
  rename_i allowed
  refine Writes.guarded ((tenantUser_writes _ _).bind fun user _ => ?_)
  refine Writes.bind (Q := fun _ => True) ?_ fun _ _ => ?_
  · unfold validateNewEmail
    split
    · exact ensureEmailAvailable_writes _ _ _
    · exact writes_pure trivial
  refine (loadRequestedRoles_writes _ _).bind fun roles known => ?_
  refine (validateRequestedBindings_writes _ _).bind fun _ _ => ?_
  apply store_writes
  · intro w mem
    rw [List.mem_singleton.mp mem]
    exact .columns permitted allowed user
  apply store_writes
  · cases payload.departmentBindings with
    | none => exact fun w none => nomatch none
    | some bindings => exact replaceUserDepartmentBindings_writes lib permitted bindings
  apply store_writes
  · cases roles with
    | none => exact fun w none => nomatch none
    | some found =>
      obtain ⟨roleIds, given, named⟩ := known found rfl
      exact replaceUserRoles_writes lib permitted given named
  exact commit_writes (toUserResponse_writes userId)

theorem resetUserPassword_writes (userId : UUID) (payload : UserPasswordResetRequest) :
    Writes (OrgCall.MayWrite lib ⟨principal, .resetUserPassword userId payload⟩)
      (resetUserPassword lib principal userId payload) fun _ => True := by
  refine Writes.guarded ((tenantUser_writes _ _).bind fun user _ => ?_)
  apply store_writes
  · intro w mem
    rw [List.mem_singleton.mp mem]
    exact .password permitted
  exact commit_writes (toUserResponse_writes userId)

end

theorem createRole_writes (permitted : principal.hasPermission .tenantAdmin = true) (newId : UUID)
    (payload : RoleCreateRequest) :
    Writes (OrgCall.MayWrite lib ⟨principal, .createRole newId payload⟩)
      (createRole lib principal newId payload) fun _ => True := by
  refine Writes.guarded ((ensureRoleNameAvailable_writes _ _ _).bind fun _ _ => ?_)
  apply store_writes
  · intro w mem
    rw [List.mem_singleton.mp mem]
    exact .newRole permitted _
  exact commit_writes (toRoleResponse_writes newId)

theorem updateRole_writes (permitted : principal.hasPermission .tenantAdmin = true) (roleId : UUID)
    (payload : RoleUpdateRequest) :
    Writes (OrgCall.MayWrite lib ⟨principal, .updateRole roleId payload⟩)
      (updateRole lib principal roleId payload) fun _ => True := by
  refine Writes.guarded ((writes_ask (e := .getRole roleId) trivial).bind fun found _ => ?_)
  cases found with
  | none => exact writes_fail _ _
  | some role =>
    refine (writes_refuse _ _).bind fun _ _ => ?_
    refine (writes_refuse _ _).bind fun _ _ => ?_
    refine Writes.bind (Q := fun _ => True) ?_ fun _ _ => ?_
    · cases changed (payload.name.map lib.strip) role.name with
      | none => exact writes_pure trivial
      | some nextName => exact ensureRoleNameAvailable_writes _ _ _
    apply store_writes
    · intro w mem
      rw [List.mem_singleton.mp mem]
      exact .roleColumns permitted _
    exact commit_writes (toRoleResponse_writes roleId)

end OrgAdmin

open OrgSession OrgAdmin in
theorem OrgCall.endpoint_writes (lib : TextLibrary) (call : OrgCall) :
    Writes (call.MayWrite lib) (call.endpoint lib) fun _ => True := by
  obtain ⟨principal, operation⟩ := call
  cases operation with
  | createUser newId payload =>
    exact Writes.requirePermission fun permitted => createUser_writes lib permitted newId payload
  | updateUser userId payload =>
    exact Writes.requirePermission fun permitted => updateUser_writes lib permitted userId payload
  | updateUserStatus userId payload =>
    exact Writes.requirePermission fun permitted =>
      updateUserStatus_writes lib permitted userId payload
  | resetUserPassword userId payload =>
    exact Writes.requirePermission fun permitted =>
      resetUserPassword_writes lib permitted userId payload
  | createRole newId payload =>
    exact Writes.requirePermission fun permitted => createRole_writes lib permitted newId payload
  | updateRole roleId payload =>
    exact Writes.requirePermission fun permitted => updateRole_writes lib permitted roleId payload

theorem OrgCall.program_meets (lib : TextLibrary) (call : OrgCall) :
    (call.program lib).Meets OrgAdmissible (OrgSession.CommitsOnly (call.MayWrite lib))
      fun _ => True := by
  rw [OrgCall.program, Action.meets_run]
  exact (call.endpoint_writes lib [] fun w none => nomatch none).mono fun _ _ _ => trivial

namespace Office

open Process

def plainLibrary : TextLibrary where
  hashPassword := fun password => "bcrypt-sha256$" ++ password
  verifyPassword := fun password stored => stored == "bcrypt-sha256$" ++ password
  needsRehash := fun _ => false
  strip := id
  lower := id

def officeTables (secondIsAdmin : Bool) : OrgTables where
  tenants := ⟨[(1, { slug := "office" })], by decide⟩
  users := ⟨[
    (11, { tenantId := 1, email := "first@office.example", hashedPassword := "bcrypt-sha256$1"
           isTenantAdmin := true }),
    (12, { tenantId := 1, email := "second@office.example", hashedPassword := "bcrypt-sha256$2"
           isTenantAdmin := secondIsAdmin }),
    (13, { tenantId := 1, email := "manager@office.example", hashedPassword := "bcrypt-sha256$3" })],
    by simp⟩
  roles := ⟨[(21, { tenantId := 1, name := "User Manager", permissions := [.usersWrite] })],
    by decide⟩
  userRoles := [{ userId := 13, roleId := 21 }]
  departments := .empty
  costCenters := .empty
  userDepartments := []
  consistent := by decide +revert

def administrator (userId : UUID) : Principal where
  userId := userId
  tenantId := 1
  permissions := Permission.all

def userManager : Principal where
  userId := 13
  tenantId := 1
  permissions := [.usersWrite]

def officeTurns (tables : OrgTables) (calls : Nat → OrgCall) (turns : List Nat) :
    List (OrgTaken Nat) × OrgConfig Nat :=
  takeTurns OrgTables.serve turns (.start (fun i => (calls i).program plainLibrary) tables)

theorem officeTurns_run (tables : OrgTables) (calls : Nat → OrgCall) (turns : List Nat) :
    Interleaved orgEnvironment (.start (fun i => (calls i).program plainLibrary) tables)
      (officeTurns tables calls turns).1 (officeTurns tables calls turns).2 := by
  have first : Interleaved orgEnvironment
      (.start (fun i => (calls i).program plainLibrary) tables) [] _ := .start
  simpa [officeTurns] using takeTurns_run OrgTables.serve_answers first turns

end Office

end AgentHive
