import AgentHive.Services.LicenseActivation

/-!
Which agent instances an activation disables, compared with the license that
is in force afterwards.
-/

namespace AgentHive.LicenseService

open FirstRow InstanceReconcile AgentModuleService
open Process.Fallible

variable {lib : LicenseLibrary} {settings : LicenseSettings} {call : ActivationCall}
  {before after : LicenseTables} {response : LicenseActivationResponse} {data : ActivationData}
  {identity : InstallIdentity} {now later : Instant} {tenantId : UUID} {licenses : List License}
  {record : License} (tables : LicenseTables)

def KeyEnabled (tenantId : UUID) (moduleKey : String) : Prop :=
  ∃ row, tables.catalog.Offers moduleKey row ∧ IsEnabled tables.tenantModules tenantId row

theorem runnable_iff {status : LicenseStatusResponse} {moduleKey : String}
    (read : statusFromRecord identity now record = .ok status) :
    moduleKey ∈ runnableModuleKeys tables.catalog tables.tenantModules tenantId status ↔
      InForce identity now record ∧ moduleKey ∈ record.allowedModules ∧
        KeyEnabled tables tenantId moduleKey := by
  rw [mem_runnableModuleKeys, ← statusFromRecord_active_iff read]
  constructor
  · intro h
    obtain ⟨row, runnable⟩ := h
    have allowed := runnable.allowed
    rw [(statusFromRecord_allowed read runnable.active).1] at allowed
    exact ⟨runnable.active, allowed, row, runnable.offered, runnable.enabled⟩
  · intro h
    obtain ⟨active, allowed, row, offered, enabled⟩ := h
    rw [← (statusFromRecord_allowed read active).1] at allowed
    exact ⟨row, active, allowed, offered, enabled⟩

/-- The key is runnable under what `get_license_status_for_tenant` returns; when
it raises, nothing is. -/
def RunnableUnder (tenantId : UUID) (status : Except Exc LicenseStatusResponse)
    (moduleKey : String) : Prop :=
  ∃ answer, status = .ok answer ∧
    moduleKey ∈ runnableModuleKeys tables.catalog tables.tenantModules tenantId answer

theorem inForce_read (inForce : InForce identity now record) :
    ∃ status, statusFromRecord identity now record = .ok status := by
  unfold statusFromRecord
  rw [inForce.stored, readEnum_value]
  exact ⟨_, rfl⟩

theorem runnableUnder_iff {tables : LicenseTables} {moduleKey : String} :
    RunnableUnder tables tenantId
        (getLicenseStatusForTenant identity now licenses tenantId) moduleKey ↔
      ∃ record, loadCurrentLicense licenses tenantId = some record ∧
        InForce identity now record ∧ moduleKey ∈ record.allowedModules ∧
        KeyEnabled tables tenantId moduleKey := by
  unfold RunnableUnder getLicenseStatusForTenant
  cases current : loadCurrentLicense licenses tenantId with
  | none =>
    constructor
    · intro h
      obtain ⟨answer, eq, runnable⟩ := h
      cases eq
      obtain ⟨row, runnable⟩ := mem_runnableModuleKeys.mp runnable
      cases runnable.active
    · intro h
      obtain ⟨record, eq, _⟩ := h
      cases eq
  | some record =>
    constructor
    · intro h
      obtain ⟨answer, read, runnable⟩ := h
      exact ⟨record, rfl, (runnable_iff tables read).mp runnable⟩
    · intro h
      obtain ⟨_, same, rest⟩ := h
      cases same
      obtain ⟨status, read⟩ := inForce_read rest.1
      exact ⟨status, read, (runnable_iff tables read).mpr rest⟩

theorem supersede_not_active {row : License}
    (mem : row ∈ (supersedeActiveLicenses licenses tenantId).filter fun row =>
      row.tenantId == tenantId) : row.status ≠ TextEnum.value LicenseStatus.active := by
  rw [List.mem_filter] at mem
  obtain ⟨old, _, same⟩ := List.mem_map.mp mem.1
  have own : row.tenantId = tenantId := beq_iff_eq.mp mem.2
  split at same
  · rw [← same]
    have different : TextEnum.value LicenseStatus.inactive ≠ TextEnum.value LicenseStatus.active := by
      decide
    exact different
  · rename_i kept
    rw [← same] at own ⊢
    exact fun active => kept ⟨own, active⟩

theorem loadCurrentLicense_of_active (own : record.tenantId = tenantId)
    (active : record.status = TextEnum.value LicenseStatus.active) :
    loadCurrentLicense (supersedeActiveLicenses licenses tenantId ++ [record]) tenantId =
      some record := by
  unfold loadCurrentLicense
  rw [List.filter_append, List.filter_singleton, own, beq_self_eq_true, cond_true]
  apply firstRow_concat_of_outranks
  intro other mem
  have inactive := supersede_not_active mem
  simp [outranks, active, inactive]

theorem inForce_current_of_inactive (own : record.tenantId = tenantId)
    (inactive : record.status ≠ TextEnum.value LicenseStatus.active) (found : License) :
    (loadCurrentLicense (licenses ++ [record]) tenantId = some found ∧
        InForce identity now found) ↔
      loadCurrentLicense licenses tenantId = some found ∧ InForce identity now found := by
  unfold loadCurrentLicense
  rw [List.filter_append, List.filter_singleton, own, beq_self_eq_true, cond_true,
    firstRow_concat]
  cases current : firstRow outranks (licenses.filter fun row => row.tenantId == tenantId) with
  | none =>
    constructor
    · intro h
      cases h.1
      exact absurd h.2.stored inactive
    · intro h
      cases h.1
  | some best =>
    constructor
    · intro h
      rcases better_eq h.1 with kept | replaced
      · exact ⟨kept, h.2⟩
      · rw [← replaced] at h
        exact absurd h.2.stored inactive
    · intro h
      cases h.1
      have stays : outranks record found = false := by
        simp [outranks, inactive, h.2.stored]
      refine ⟨?_, h.2⟩
      simp [better, stays]

variable (returned : activateLicenseForTenant lib settings call before = (.ok response, after))

include returned in
theorem activate_eq :
    activate lib settings call before = .ok (response, after) := by
  unfold activateLicenseForTenant at returned
  cases run : activate lib settings call before with
  | error x =>
    rw [run] at returned
    cases returned
  | ok result =>
    rw [run] at returned
    cases returned
    rfl

include returned in
theorem activate_read :
    ∃ data, activationDataFromPayload lib settings (lib.strip call.licenseKey) call.now
      call.tenantId = .ok data := by
  have stored := activate_eq returned
  unfold activate at stored
  obtain ⟨tenant, _, stored⟩ := bind_ok.mp stored
  obtain ⟨data, read, _⟩ := bind_ok.mp stored
  exact ⟨data, read⟩

include returned in
theorem activate_ok
    (read : activationDataFromPayload lib settings (lib.strip call.licenseKey) call.now
      call.tenantId = .ok data) :
    ∃ tenant, statusFromRecord settings.identity call.statusAt
        (activatedLicense settings.identity call tenant data) = .ok response.license ∧
      after =
        { before with
          licenses :=
            (if data.status = .active then supersedeActiveLicenses before.licenses call.tenantId
              else before.licenses) ++ [activatedLicense settings.identity call tenant data]
          instances := (reconcileAgentInstances lib.isoformat before.catalog before.tenantModules
            { tenantId := call.tenantId, license := response.license, now := call.reconciledAt
              reason := "license_activation" } before.instances).2 } := by
  have stored := activate_eq returned
  unfold activate at stored
  obtain ⟨tenant, _, stored⟩ := bind_ok.mp stored
  obtain ⟨data', same, stored⟩ := bind_ok.mp stored
  rw [read] at same
  cases same
  obtain ⟨status, shown, stored⟩ := bind_ok.mp stored
  cases faulted : call.fault with
  | some x =>
    rw [faulted] at stored
    cases stored
  | none =>
    rw [faulted] at stored
    cases stored
    exact ⟨tenant, shown, rfl⟩

theorem activate_error {x : Exc}
    (raised : activateLicenseForTenant lib settings call before = (.error x, after)) :
    after = before := by
  unfold activateLicenseForTenant at raised
  cases run : activate lib settings call before with
  | error y =>
    rw [run] at raised
    cases raised
    rfl
  | ok result =>
    rw [run] at raised
    cases raised

theorem keyEnabled_after (moduleKey : String) :
    KeyEnabled (activateLicenseForTenant lib settings call before).2 tenantId moduleKey ↔
      KeyEnabled before tenantId moduleKey := by
  cases returned : activateLicenseForTenant lib settings call before with
  | mk result after =>
    cases result with
    | error x => rw [activate_error returned]
    | ok response =>
      obtain ⟨data, read⟩ := activate_read returned
      obtain ⟨tenant, _, stored⟩ := activate_ok returned read
      rw [stored]
      rfl

/-- The instances the call disabled are the active ones of the tenant whose
module is not runnable under the tenant's license status at `later`. -/
def FollowsLicenseInForce (identity : InstallIdentity) (later : Instant) (tenantId : UUID)
    (before after : LicenseTables) : Prop :=
  ∀ instanceId, Disabled before.instances after.instances instanceId ↔
    ∃ row, ActiveInstance before.instances tenantId instanceId row ∧
      ¬ RunnableUnder after tenantId
        (getLicenseStatusForTenant identity later after.licenses tenantId) row.moduleKey

def InUse (tenantId : UUID) (moduleKeys : List String) : Prop :=
  ∃ instanceId row, ActiveInstance tables.instances tenantId instanceId row ∧
    row.moduleKey ∈ moduleKeys ∧ KeyEnabled tables tenantId row.moduleKey

def SameSide (expiresAt : Option Instant) (first second : Instant) : Prop :=
  (∃ at_ ∈ expiresAt, at_ ≤ first) ↔ ∃ at_ ∈ expiresAt, at_ ≤ second

/-- A license stored as active must not expire between the reconciliation and
`later`, unless nothing in use depends on it. Any other attempt must meet a
tenant whose license in force has no module in use. -/
def AttemptInStep (settings : LicenseSettings) (call : ActivationCall) (later : Instant)
    (before : LicenseTables) (data : ActivationData) : Prop :=
  if data.status = .active then
    SameSide data.expiresAt call.statusAt later ∨
      ¬ InUse before call.tenantId data.allowedModules
  else
    ∀ license, loadCurrentLicense before.licenses call.tenantId = some license →
      InForce settings.identity later license →
        ¬ InUse before call.tenantId license.allowedModules

theorem activatedLicense_inForce {tenant : TenantLimits} :
    InForce identity now (activatedLicense identity call tenant data) ↔
      data.status = .active ∧ ¬ ∃ at_ ∈ data.expiresAt, at_ ≤ now := by
  constructor
  · intro h
    exact ⟨TextEnum.injective h.stored, h.unexpired⟩
  · intro h
    refine ⟨?_, ⟨rfl, rfl, rfl⟩, h.2⟩
    rw [← h.1]
    rfl

include returned in
theorem followsLicenseInForce_iff
    (read : activationDataFromPayload lib settings (lib.strip call.licenseKey) call.now
      call.tenantId = .ok data) :
    FollowsLicenseInForce settings.identity later call.tenantId before after ↔
      ∀ instanceId row, ActiveInstance before.instances call.tenantId instanceId row →
        (row.moduleKey ∈ runnableModuleKeys before.catalog before.tenantModules call.tenantId
            response.license ↔
          RunnableUnder before call.tenantId
            (getLicenseStatusForTenant settings.identity later after.licenses call.tenantId)
            row.moduleKey) := by
  obtain ⟨tenant, shown, stored⟩ := activate_ok returned read
  have disabled (instanceId : UUID) : Disabled before.instances after.instances instanceId ↔
      ∃ row, ActiveInstance before.instances call.tenantId instanceId row ∧
        row.moduleKey ∉ runnableModuleKeys before.catalog before.tenantModules call.tenantId
          response.license := by
    rw [stored]
    exact reconcile_disabled_iff rfl
  have sameModules : RunnableUnder after call.tenantId = RunnableUnder before call.tenantId := by
    rw [stored]
    rfl
  unfold FollowsLicenseInForce
  rw [sameModules]
  constructor
  · intro follows instanceId row active
    have same := (disabled instanceId).symm.trans (follows instanceId)
    rw [active.exists_iff, active.exists_iff] at same
    exact not_iff_not.mp same
  · intro agree instanceId
    rw [disabled instanceId]
    apply exists_congr
    intro row
    apply and_congr_right
    intro active
    exact not_congr (agree instanceId row active)

/-- After an activation the disabled instances are those the license in force
does not allow, exactly for an attempt in step with that license. -/
theorem reconciliation_follows_iff
    (returned : activateLicenseForTenant lib settings call before = (.ok response, after))
    (read : activationDataFromPayload lib settings (lib.strip call.licenseKey) call.now
      call.tenantId = .ok data) :
    FollowsLicenseInForce settings.identity later call.tenantId before after ↔
      AttemptInStep settings call later before data := by
  rw [followsLicenseInForce_iff returned read]
  obtain ⟨tenant, shown, stored⟩ := activate_ok returned read
  let record := activatedLicense settings.identity call tenant data
  simp only [runnable_iff before shown, runnableUnder_iff, activatedLicense_inForce]
  unfold AttemptInStep
  by_cases active : data.status = .active
  · rw [if_pos active]
    have isActive : record.status = TextEnum.value LicenseStatus.active :=
      congrArg TextEnum.value active
    have current : loadCurrentLicense after.licenses call.tenantId = some record := by
      rw [stored]
      simp only [if_pos active]
      exact loadCurrentLicense_of_active rfl isActive
    -- Both sides read the new record; only the clock has moved on.
    have afterwards (moduleKey : String) :
        (∃ found, loadCurrentLicense after.licenses call.tenantId = some found ∧
            InForce settings.identity later found ∧ moduleKey ∈ found.allowedModules ∧
            KeyEnabled before call.tenantId moduleKey) ↔
          (¬ ∃ at_ ∈ data.expiresAt, at_ ≤ later) ∧ moduleKey ∈ data.allowedModules ∧
            KeyEnabled before call.tenantId moduleKey := by
      rw [current]
      constructor
      · intro h
        obtain ⟨found, same, inForce, rest⟩ := h
        cases same
        exact ⟨(activatedLicense_inForce.mp inForce).2, rest⟩
      · intro h
        exact ⟨record, rfl, activatedLicense_inForce.mpr ⟨active, h.1⟩, h.2⟩
    simp only [afterwards, active, true_and]
    constructor
    · intro agree
      by_cases used : InUse before call.tenantId data.allowedModules
      · obtain ⟨instanceId, row, isRow, listed, enabled⟩ := used
        have same := agree instanceId row isRow
        refine .inl (not_iff_not.mp ?_)
        constructor
        · intro unexpired
          exact (same.mp ⟨unexpired, listed, enabled⟩).1
        · intro unexpired
          exact (same.mpr ⟨unexpired, listed, enabled⟩).1
      · exact .inr used
    · intro inStep instanceId row isRow
      rcases inStep with same | unused
      · exact and_congr_left fun _ => not_congr same
      · have free : ¬ (row.moduleKey ∈ data.allowedModules ∧
            KeyEnabled before call.tenantId row.moduleKey) := by
          intro used
          exact unused ⟨instanceId, row, isRow, used⟩
        constructor
        · intro h
          exact absurd h.2 free
        · intro h
          exact absurd h.2 free
  · rw [if_neg active]
    have inactive : record.status ≠ TextEnum.value LicenseStatus.active := by
      intro same
      exact active (TextEnum.injective same)
    have licensesAfter : after.licenses = before.licenses ++ [record] := by
      rw [stored]
      simp only [if_neg active]
      rfl
    have unchanged (found : License) :
        (loadCurrentLicense after.licenses call.tenantId = some found ∧
            InForce settings.identity later found) ↔
          loadCurrentLicense before.licenses call.tenantId = some found ∧
            InForce settings.identity later found := by
      rw [licensesAfter]
      exact inForce_current_of_inactive rfl inactive found
    simp only [active, false_and, false_iff]
    constructor
    · intro agree license current inForce used
      obtain ⟨instanceId, row, isRow, used⟩ := used
      have kept := (unchanged license).mpr ⟨current, inForce⟩
      exact agree instanceId row isRow ⟨license, kept.1, kept.2, used⟩
    · intro inStep instanceId row isRow h
      obtain ⟨license, current, inForce, used⟩ := h
      have kept := (unchanged license).mp ⟨current, inForce⟩
      exact inStep license kept.1 kept.2 ⟨instanceId, row, isRow, used⟩

def plainLibrary : LicenseLibrary where
  strip := id
  lower := id
  looksLikeSigned := fun raw => "\x7b".isPrefixOf raw
  parse := fun _ => .error "JSONDecodeError"
  checkSignature := fun _ _ => .invalid
  uuidText := toString
  isoformat := toString

def developmentSettings : LicenseSettings where
  identity := ⟨1, 2, "machine"⟩
  isDevelopment := true
  publicKey := .error (.http 503 (.text "License public key is not configured."))

def demoLicense : License :=
  { id := 1, tenantId := 1, customerName := "Demo", status := "active", deploymentId := 1
    installId := 2, machineFingerprintHash := "machine"
    allowedModules := ["agent.report_writer"], createdAt := 5 }

def reportingTenant : LicenseTables where
  licenses := [demoLicense]
  catalog := officeModules
  tenantModules := bothEnabled
  instances := .ofEntries
    [(3, { tenantId := 1, agentKey := "report_writer", moduleKey := "agent.report_writer"
           status := "active" })]

def developmentCall (licenseKey : String) : ActivationCall where
  tenantId := 1
  licenseKey := licenseKey
  newId := 2
  tenant := .ok (some { name := "Demo" })
  now := 10
  createdAt := 11
  statusAt := 12
  reconciledAt := 13

def developmentActivation (licenseKey : String) :
    Except Exc LicenseActivationResponse × LicenseTables :=
  activateLicenseForTenant plainLibrary developmentSettings (developmentCall licenseKey)
    reportingTenant

theorem revoked_key_disables_instance :
    (∃ response, (developmentActivation "revoked-demo").1 = .ok response) ∧
      ¬ FollowsLicenseInForce developmentSettings.identity 20 1 reportingTenant
        (developmentActivation "revoked-demo").2 := by
  refine ⟨exists_of_toBool (by decide +kernel), ?_⟩
  intro follows
  have status : ((developmentActivation "revoked-demo").2.instances.get 3).map (·.status) =
      some "disabled" := by
    decide +kernel
  obtain ⟨second, stored, isDisabled⟩ := Option.map_eq_some_iff.mp status
  have disabled : Disabled reportingTenant.instances
      (developmentActivation "revoked-demo").2.instances 3 :=
    ⟨_, rfl, by decide, second, stored, isDisabled⟩
  obtain ⟨row, active, blocked⟩ := (follows 3).mp disabled
  apply blocked
  rw [runnableUnder_iff]
  cases active.1
  have current : loadCurrentLicense (developmentActivation "revoked-demo").2.licenses 1 =
      some demoLicense := by
    decide +kernel
  have enabled : KeyEnabled reportingTenant 1 "agent.report_writer" :=
    ⟨reportWriter, ⟨List.mem_cons_self, rfl, rfl⟩, { state := "enabled" }, rfl, rfl⟩
  exact ⟨demoLicense, current, ⟨rfl, ⟨rfl, rfl, rfl⟩, by decide⟩, List.mem_cons_self,
    (keyEnabled_after _).mpr enabled⟩

theorem standard_key_follows :
    FollowsLicenseInForce developmentSettings.identity 20 1 reportingTenant
      (developmentActivation "standard-demo").2 := by
  have returned : (developmentActivation "standard-demo").1.toBool = true := by decide +kernel
  obtain ⟨response, shown⟩ := exists_of_toBool returned
  have read : activationDataFromPayload plainLibrary developmentSettings "standard-demo" 10 1 =
      .ok (activationDataFromLegacyKey plainLibrary "standard-demo") :=
    (if_neg (by decide +kernel)).trans (if_neg (by decide))
  have active : (activationDataFromLegacyKey plainLibrary "standard-demo").status = .active := by
    decide +kernel
  have unlimited : (activationDataFromLegacyKey plainLibrary "standard-demo").expiresAt = none := by
    decide +kernel
  refine (reconciliation_follows_iff (Prod.ext shown rfl) read).mpr ?_
  unfold AttemptInStep
  rw [if_pos active, unlimited]
  exact .inl (by simp [SameSide])

end AgentHive.LicenseService
