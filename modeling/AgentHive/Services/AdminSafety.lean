import AgentHive.Services.OrgWrites

/-!
The administrators of a tenant while its users are administered side by side.

No call takes the rights of the one who makes it. So a tenant keeps an
administrator as long as only its administrators take the rights of others.
-/

namespace AgentHive

open Process

def OrgWrite.Spares (userId : UUID) : OrgWrite → Prop
  | .updateUser id columns =>
    id = userId → columns.isTenantAdmin ≠ some false ∧ columns.isActive ≠ some false
  | _ => True

def OrgTables.Demotes (tables : OrgTables) (tenantId : UUID) (writes : List OrgWrite) : Prop :=
  ∃ userId, tables.IsActiveAdmin tenantId userId ∧ ∃ w ∈ writes, ¬ w.Spares userId

instance (w : OrgWrite) (userId : UUID) : Decidable (w.Spares userId) :=
  match w with
  | .updateUser id columns =>
    inferInstanceAs (Decidable
      (id = userId → columns.isTenantAdmin ≠ some false ∧ columns.isActive ≠ some false))
  | .insertUser _ _ | .insertRole _ _ | .updateRole _ _ | .insertUserRole _ | .deleteUserRoles _
  | .insertUserDepartment _ | .deleteUserDepartments _ => .isTrue trivial

instance (tables : OrgTables) (tenantId : UUID) (writes : List OrgWrite) :
    Decidable (tables.Demotes tenantId writes) :=
  decidable_of_iff
    (∃ userId ∈ tables.users.keys, tables.IsActiveAdmin tenantId userId ∧
      ∃ w ∈ writes, ¬ w.Spares userId)
    ⟨fun ⟨userId, _, takes⟩ => ⟨userId, takes⟩,
      fun ⟨userId, admin, takes⟩ => ⟨userId, admin.mem_keys, admin, takes⟩⟩

namespace AdminSafety

private theorem getD_of_ne_false {given : Option Bool} {stored : Bool} (ne : given ≠ some false)
    (was : stored = true) : given.getD stored = true := by
  match given, ne with
  | none, _ => exact was
  | some true, _ => rfl
  | some false, ne => exact absurd rfl ne

theorem isActiveAdmin_apply {tenantId userId : UUID} {rows after : OrgRows} {w : OrgWrite}
    (spares : w.Spares userId) (applied : rows.apply w = some after)
    (admin : rows.IsActiveAdmin tenantId userId) : after.IsActiveAdmin tenantId userId := by
  refine OrgRows.user_apply applied (fun _ => id) ?_ admin
  rintro columns user rfl ⟨ofTenant, kept, active, isAdmin⟩
  obtain ⟨notDemoted, notDisabled⟩ := spares rfl
  exact ⟨ofTenant, kept, getD_of_ne_false notDisabled active, getD_of_ne_false notDemoted isAdmin⟩

theorem isActiveAdmin_write {tenantId userId : UUID} {tables after : OrgTables}
    {writes : List OrgWrite} (stored : tables.write writes = some after)
    (spared : ∀ w ∈ writes, w.Spares userId) (admin : tables.IsActiveAdmin tenantId userId) :
    after.IsActiveAdmin tenantId userId :=
  OrgRows.applyAll_keeps (P := fun rows => rows.IsActiveAdmin tenantId userId)
    (fun _ _ w mem applied => isActiveAdmin_apply (spared w mem) applied)
    (OrgTables.applyAll_of_write stored) admin

theorem spares_caller {lib : TextLibrary} {call : OrgCall} {w : OrgWrite}
    (may : call.MayWrite lib w) : w.Spares call.principal.userId := by
  cases may with
  | columns permitted allowed user =>
    intro same
    refine ⟨?_, nofun⟩
    intro demoted
    exact allowed ⟨same, OrgAdmin.of_changed demoted⟩
  | status permitted allowed given =>
    intro same
    refine ⟨nofun, ?_⟩
    intro disabled
    rcases given with none | some
    · rw [none] at disabled
      cases disabled
    · rw [some, Option.some.injEq] at disabled
      exact allowed ⟨same, disabled⟩
  | password => exact fun _ => ⟨nofun, nofun⟩
  | newUser | newMembership | newBinding | noMemberships | membership | noBindings | binding
  | newRole | roleColumns => trivial

end AdminSafety

variable {ι : Type} [DecidableEq ι]

def DemotedByAdmin (calls : ι → OrgCall) (tenantId : UUID) (step : OrgTaken ι) : Prop :=
  ∀ writes, step.event.1 = .commit writes → step.before.shared.Demotes tenantId writes →
    step.before.shared.IsActiveAdmin tenantId (calls step.thread).principal.userId

instance (calls : ι → OrgCall) (tenantId : UUID)
    (step : OrgTaken ι) :
    Decidable (DemotedByAdmin calls tenantId step) :=
  match asked : step.event.1 with
  | .commit writes =>
    decidable_of_iff
      (step.before.shared.Demotes tenantId writes →
        step.before.shared.IsActiveAdmin tenantId (calls step.thread).principal.userId)
      ⟨fun h writes' same => by
          rw [asked, OrgEffect.commit.injEq] at same
          exact same ▸ h,
        fun h => h writes asked⟩
  | .getUser _ | .getRole _ | .getTenant _ | .userIdByEmail _ _ _ | .roleIdByName _ _
  | .ensureLicenseCapacity _ | .departmentIdsIn _ _ | .costCenterIdsIn _ _ | .rolesIn _ _
  | .rolesOf _ _ | .departmentsOf _ _ | .loginUser _ _ | .activeSessionUser _ _
  | .activeTenantBySlug _ | .isLocked _ | .recordFailure _ | .resetFailures _ | .utcNow
  | .rollback =>
    .isTrue fun writes same => by simp [asked] at same

namespace AdminSafety

theorem admin_of_commit {tenantId caller : UUID} {tables after : OrgTables}
    {writes : List OrgWrite} (stored : tables.write writes = some after)
    (spared : ∀ w ∈ writes, w.Spares caller)
    (byAdmin : tables.Demotes tenantId writes → tables.IsActiveAdmin tenantId caller)
    (before : ∃ userId, tables.IsActiveAdmin tenantId userId) :
    ∃ userId, after.IsActiveAdmin tenantId userId := by
  obtain ⟨userId, admin⟩ := before
  by_cases demotes : ∀ w ∈ writes, w.Spares userId
  · exact ⟨userId, isActiveAdmin_write stored demotes admin⟩
  · obtain ⟨w, mem, takes⟩ : ∃ w ∈ writes, ¬ w.Spares userId := by
      simpa using demotes
    refine ⟨caller, isActiveAdmin_write stored spared ?_⟩
    exact byAdmin ⟨userId, admin, w, mem, takes⟩

/-- A tenant with an active administrator keeps one in every interleaving of
calls, if each that is demoted or deactivated is so by another active one. -/
theorem administrator_is_kept (lib : TextLibrary) (calls : ι → OrgCall) {tenantId : UUID}
    {tables : OrgTables} {steps : List (OrgTaken ι)} {c : OrgConfig ι}
    (run : Interleaved orgEnvironment (.start (fun i => (calls i).program lib) tables) steps c)
    (met : ∀ step ∈ steps, DemotedByAdmin calls tenantId step)
    (start : ∃ userId, tables.IsActiveAdmin tenantId userId) :
    ∃ userId, c.shared.IsActiveAdmin tenantId userId := by
  refine run.induct (fun c => ∃ userId, c.shared.IsActiveAdmin tenantId userId)
    (DemotedByAdmin calls tenantId) met start ?_ fun _ moved => moved.elim
  intro steps c i e k r after run asks answered byAdmin before
  have promise := run.promise (fun _ _ _ _ => orgAdmissible)
    (fun i => (calls i).program_meets lib) asks
  cases e with
  | commit writes =>
    rcases answered with stored | ⟨_, same⟩
    · exact admin_of_commit stored (fun w mem => spares_caller (promise w mem))
        (byAdmin writes rfl) before
    · exact same ▸ before
  | isLocked | utcNow => exact answered ▸ before
  | _ => exact answered.1 ▸ before

open Office

def demotion (principal : Principal) (userId : UUID) : OrgCall :=
  ⟨principal, .updateUser userId { isTenantAdmin := some false }⟩

theorem one_of_two_is_kept :
    ∃ userId, (officeTurns (officeTables true) (fun _ => demotion (administrator 11) 12)
      [0, 0, 0, 0, 0]).2.shared.IsActiveAdmin 1 userId :=
  administrator_is_kept plainLibrary _ (officeTurns_run _ _ _) (by decide +kernel)
    ⟨11, by decide +kernel⟩

theorem last_administrator_is_lost :
    ((officeTables false).IsActiveAdmin 1 11 ∧ userManager.hasPermission .usersWrite = true ∧
      ∀ userId, ¬ (officeTurns (officeTables false)
        (fun _ => ⟨userManager, .updateUserStatus 11 { isActive := false }⟩)
        [0, 0, 0, 0, 0]).2.shared.IsActiveAdmin 1 userId) ∧
    ((officeTables true).IsActiveAdmin 1 11 ∧ (officeTables true).IsActiveAdmin 1 12 ∧
      ∀ userId, ¬ (officeTurns (officeTables true)
        (fun i => if i = 0 then demotion (administrator 11) 12 else demotion (administrator 12) 11)
        [0, 1, 0, 1, 0, 1, 0, 1, 0, 1]).2.shared.IsActiveAdmin 1 userId) := by
  refine ⟨⟨by decide +kernel, by decide +kernel, ?_⟩, by decide +kernel, by decide +kernel, ?_⟩
  · exact OrgRows.not_isActiveAdmin (by decide +kernel)
  · exact OrgRows.not_isActiveAdmin (by decide +kernel)

end AdminSafety

end AgentHive
