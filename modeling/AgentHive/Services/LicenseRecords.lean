import AgentHive.Process.Machine
import AgentHive.Services.LicenseReconciliation

/-!
The records of licenses and of their activations, over activations and
deactivations in any order.

A session that raises is closed without a commit, so that such a call stores
nothing.
-/

namespace AgentHive

open TextEnum (value)

structure LicenseActivationRow where
  tenantId : UUID
  licenseId : UUID
  status : String
  activatedAt : Option Instant
  deactivatedAt : Option Instant := none
deriving DecidableEq

structure LicenseRecords where
  tables : LicenseTables
  activations : List LicenseActivationRow

structure LicenseDeactivateResponse where
  status : LicenseStatus := .inactive
  message : String := "License deactivated for this deployment."
  deactivatedAt : Instant
deriving DecidableEq

namespace LicenseService

open FirstRow InstanceReconcile
open Process.Fallible

structure DeactivationCall where
  tenantId : UUID
  now : Instant
  statusAt : Instant
  reconciledAt : Instant
  fault : Option Exc := none

def activeLicenses (licenses : List License) (tenantId : UUID) : List License :=
  licenses.filter fun row =>
    row.tenantId == tenantId && row.status == value LicenseStatus.active

def deactivateLicenseActivations (tenantId : UUID) (deactivatedAt : Instant)
    (activations : List LicenseActivationRow) (licenseId : UUID) : List LicenseActivationRow :=
  activations.map fun row =>
    if row.tenantId = tenantId ∧ row.licenseId = licenseId ∧ row.deactivatedAt = none then
      { row with
        status := value LicenseStatus.inactive
        deactivatedAt := some deactivatedAt }
    else row

/-- What `_supersede_active_licenses` does to the activations. -/
def supersedeActivations (licenses : List License) (tenantId : UUID) (deactivatedAt : Instant)
    (activations : List LicenseActivationRow) : List LicenseActivationRow :=
  ((activeLicenses licenses tenantId).map License.id).foldl
    (deactivateLicenseActivations tenantId deactivatedAt) activations

def withPrimaryKey (licenses : List License) (call : ActivationCall) : ActivationCall :=
  if licenses.any fun row => row.id == call.newId then
    { call with fault := some (.sqlAlchemy "IntegrityError" "licenses_pkey") }
  else call

/-- `activate_license_for_tenant` with the activations it writes. -/
def activateRecorded (lib : LicenseLibrary) (settings : LicenseSettings) (call : ActivationCall)
    (records : LicenseRecords) : Except Exc LicenseActivationResponse × LicenseRecords :=
  let checked := withPrimaryKey records.tables.licenses call
  match activateLicenseForTenant lib settings checked records.tables with
  | (.error x, _) => (.error x, records)
  | (.ok response, after) =>
    let kept := if response.status = .active
      then supersedeActivations records.tables.licenses call.tenantId call.now records.activations
      else records.activations
    let row : LicenseActivationRow :=
      { tenantId := call.tenantId
        licenseId := call.newId
        status := value response.status
        activatedAt := if response.status = .active then some call.now else none }
    (.ok response, { tables := after, activations := kept ++ [row] })

def deactivateCurrent (identity : InstallIdentity) (call : DeactivationCall)
    (records : LicenseRecords) :
    Except Exc (LicenseStatusResponse × List License × List LicenseActivationRow) :=
  match loadCurrentLicense records.tables.licenses call.tenantId with
  | none => .ok (inactiveLicenseStatus identity, records.tables.licenses, records.activations)
  | some record => do
    let changed := { record with status := value LicenseStatus.inactive }
    let status ← statusFromRecord identity call.statusAt changed
    return (status,
      records.tables.licenses.map fun row => if row.id = record.id then changed else row,
      deactivateLicenseActivations call.tenantId call.now records.activations record.id)

/-- The body of `deactivate_license_for_tenant`, with the rows its commit stores. -/
def deactivate (lib : LicenseLibrary) (identity : InstallIdentity) (call : DeactivationCall)
    (records : LicenseRecords) : Except Exc (LicenseDeactivateResponse × LicenseRecords) := do
  let (status, licenses, activations) ← deactivateCurrent identity call records
  let request : InstanceReconcile.Request :=
    { tenantId := call.tenantId, license := status, now := call.reconciledAt
      reason := "license_deactivated" }
  let reconciled := reconcileAgentInstances lib.isoformat records.tables.catalog
    records.tables.tenantModules request records.tables.instances
  match call.fault with
  | some x => .error x
  | none => .ok ({ deactivatedAt := call.now },
      { tables := { records.tables with licenses := licenses, instances := reconciled.2 }
        activations := activations })

/-- `deactivate_license_for_tenant`: a call that raises stores nothing. -/
def deactivateLicenseForTenant (lib : LicenseLibrary) (identity : InstallIdentity)
    (call : DeactivationCall) (records : LicenseRecords) :
    Except Exc LicenseDeactivateResponse × LicenseRecords :=
  match deactivate lib identity call records with
  | .error x => (.error x, records)
  | .ok (response, after) => (.ok response, after)

inductive LicenseCall
  | activate (settings : LicenseSettings) (call : ActivationCall)
  | deactivate (identity : InstallIdentity) (call : DeactivationCall)

inductive LicenseAnswer
  | activated (answer : Except Exc LicenseActivationResponse)
  | deactivated (answer : Except Exc LicenseDeactivateResponse)

def licenseStep (lib : LicenseLibrary) (records : LicenseRecords) :
    LicenseCall → LicenseAnswer × LicenseRecords
  | .activate settings call =>
    let result := activateRecorded lib settings call records
    (.activated result.1, result.2)
  | .deactivate identity call =>
    let result := deactivateLicenseForTenant lib identity call records
    (.deactivated result.1, result.2)

def licenseMachine (lib : LicenseLibrary) :
    Process.Machine LicenseRecords LicenseCall LicenseAnswer :=
  ⟨licenseStep lib⟩

structure OneInForce (records : LicenseRecords) : Prop where
  distinct : (records.tables.licenses.map License.id).Nodup
  single : ∀ tenantId, (activeLicenses records.tables.licenses tenantId).length ≤ 1
  bound : ∀ row ∈ records.activations, row.status = value LicenseStatus.active →
    row.deactivatedAt = none ∧
      (activeLicenses records.tables.licenses row.tenantId).map License.id = [row.licenseId]

variable {lib : LicenseLibrary} {licenses : List License} {tenantId : UUID} {record : License}
  {activations : List LicenseActivationRow} {records : LicenseRecords}

theorem inactive_ne_active :
    value LicenseStatus.inactive ≠ value LicenseStatus.active := by
  decide

theorem mem_activeLicenses :
    record ∈ activeLicenses licenses tenantId ↔
      record ∈ licenses ∧ record.tenantId = tenantId ∧
        record.status = value LicenseStatus.active := by
  simp [activeLicenses]

theorem activeLicenses_concat (licenses : List License) (record : License) (tenantId : UUID) :
    activeLicenses (licenses ++ [record]) tenantId =
      activeLicenses licenses tenantId ++ activeLicenses [record] tenantId :=
  List.filter_append _ _

variable {change : License → License}

theorem activeLicenses_map
    (kept : ∀ row ∈ licenses, row.tenantId = tenantId ∨ (change row).tenantId = tenantId →
      change row = row) :
    activeLicenses (licenses.map change) tenantId = activeLicenses licenses tenantId := by
  induction licenses with
  | nil => rfl
  | cons row rest ih =>
    have rest_ := ih fun other mem => kept other (List.mem_cons_of_mem _ mem)
    have here := kept row List.mem_cons_self
    simp only [activeLicenses, List.map_cons, List.filter_cons] at rest_ ⊢
    by_cases own : row.tenantId = tenantId ∨ (change row).tenantId = tenantId
    · rw [here own, rest_]
    · have before : (row.tenantId == tenantId) = false := by
        simpa using fun same => own (.inl same)
      have after : ((change row).tenantId == tenantId) = false := by
        simpa using fun same => own (.inr same)
      simp only [before, after, Bool.false_and, Bool.false_eq_true, if_false]
      exact rest_

theorem activeLicenses_map_nil (ended : ∀ row ∈ licenses, (change row).tenantId = tenantId →
      (change row).status ≠ value LicenseStatus.active) :
    activeLicenses (licenses.map change) tenantId = [] := by
  refine List.filter_eq_nil_iff.mpr fun row mem => ?_
  obtain ⟨old, listed, same⟩ := List.mem_map.mp mem
  subst same
  intro active
  simp only [Bool.and_eq_true, beq_iff_eq] at active
  exact ended old listed active.1 active.2

theorem activeLicenses_supersede_self :
    activeLicenses (supersedeActiveLicenses licenses tenantId) tenantId = [] := by
  refine activeLicenses_map_nil fun row _ own => ?_
  split at own
  · rename_i active
    rw [if_pos active]
    exact inactive_ne_active
  · rename_i kept
    rw [if_neg kept]
    exact fun active => kept ⟨own, active⟩

theorem activeLicenses_supersede_of_ne {other : UUID} (different : other ≠ tenantId) :
    activeLicenses (supersedeActiveLicenses licenses tenantId) other =
      activeLicenses licenses other := by
  refine activeLicenses_map fun row _ own => ?_
  refine if_neg fun active => ?_
  rcases own with own | own
  · exact different (own.symm.trans active.1)
  · rw [if_pos active] at own
    exact different (own.symm.trans active.1)

theorem map_id_supersede :
    (supersedeActiveLicenses licenses tenantId).map License.id = licenses.map License.id := by
  rw [supersedeActiveLicenses, List.map_map]
  refine List.map_congr_left fun row _ => ?_
  dsimp only [Function.comp_apply]
  split
  · rfl
  · rfl

variable {row : LicenseActivationRow} {at_ : Instant}

theorem mem_deactivated {licenseId : UUID}
    (mem : row ∈ deactivateLicenseActivations tenantId at_ activations licenseId)
    (active : row.status = value LicenseStatus.active) :
    row ∈ activations ∧
      ¬ (row.tenantId = tenantId ∧ row.licenseId = licenseId ∧ row.deactivatedAt = none) := by
  obtain ⟨old, listed, same⟩ := List.mem_map.mp mem
  split at same
  · rw [← same] at active
    exact absurd active inactive_ne_active
  · rename_i kept
    rw [← same]
    exact ⟨listed, kept⟩

theorem mem_superseded {ids : List UUID}
    (mem : row ∈ ids.foldl (deactivateLicenseActivations tenantId at_) activations)
    (active : row.status = value LicenseStatus.active) :
    row ∈ activations ∧
      ¬ (row.tenantId = tenantId ∧ row.licenseId ∈ ids ∧ row.deactivatedAt = none) := by
  induction ids generalizing activations with
  | nil => exact ⟨mem, by simp⟩
  | cons id rest ih =>
    obtain ⟨before, later⟩ := ih mem
    obtain ⟨listed, first⟩ := mem_deactivated before active
    refine ⟨listed, fun ended => ?_⟩
    rcases List.mem_cons.mp ended.2.1 with same | there
    · exact first ⟨ended.1, same, ended.2.2⟩
    · exact later ⟨ended.1, there, ended.2.2⟩

theorem OneInForce.ended (one : OneInForce records) (ids : List UUID)
    (all : ∀ row ∈ activeLicenses records.tables.licenses tenantId, row.id ∈ ids)
    (mem : row ∈ ids.foldl (deactivateLicenseActivations tenantId at_) records.activations)
    (active : row.status = value LicenseStatus.active) :
    row ∈ records.activations ∧ row.tenantId ≠ tenantId := by
  obtain ⟨listed, kept⟩ := mem_superseded mem active
  refine ⟨listed, fun own => ?_⟩
  obtain ⟨open_, only⟩ := one.bound row listed active
  rw [own] at only
  have named : row.licenseId ∈ (activeLicenses records.tables.licenses tenantId).map License.id := by
    rw [only]
    exact List.mem_singleton_self _
  obtain ⟨license, inForce, same⟩ := List.mem_map.mp named
  exact kept ⟨own, same ▸ all license inForce, open_⟩

variable {tables : LicenseTables}
  {settings : LicenseSettings} {response : LicenseActivationResponse}

theorem fresh_of_activated {call : ActivationCall} {after : LicenseTables}
    (returned : activateLicenseForTenant lib settings (withPrimaryKey tables.licenses call) tables =
      (.ok response, after)) :
    call.newId ∉ tables.licenses.map License.id ∧
      withPrimaryKey tables.licenses call = call := by
  by_cases taken : (tables.licenses.any fun row => row.id == call.newId) = true
  · have stored := activate_eq returned
    rw [withPrimaryKey, if_pos taken] at stored
    unfold activate at stored
    obtain ⟨tenant, _, stored⟩ := bind_ok.mp stored
    obtain ⟨data, _, stored⟩ := bind_ok.mp stored
    obtain ⟨status, _, stored⟩ := bind_ok.mp stored
    cases stored
  · refine ⟨fun mem => ?_, if_neg taken⟩
    obtain ⟨row, listed, same⟩ := List.mem_map.mp mem
    exact taken (List.any_eq_true.mpr ⟨row, listed, beq_iff_eq.mpr same⟩)

theorem status_of_activated {call : ActivationCall} {after : LicenseTables} {data : ActivationData}
    (returned : activateLicenseForTenant lib settings call tables = (.ok response, after))
    (read : activationDataFromPayload lib settings (lib.strip call.licenseKey) call.now
      call.tenantId = .ok data) : response.status = data.status := by
  have stored := activate_eq returned
  unfold activate at stored
  obtain ⟨tenant, _, stored⟩ := bind_ok.mp stored
  obtain ⟨data', same, stored⟩ := bind_ok.mp stored
  rw [read] at same
  cases same
  obtain ⟨status, _, stored⟩ := bind_ok.mp stored
  cases faulted : call.fault with
  | some x =>
    rw [faulted] at stored
    cases stored
  | none =>
    rw [faulted] at stored
    cases stored
    rfl

theorem OneInForce.superseded (one : OneInForce records) (record : License)
    (active : record.status = value LicenseStatus.active)
    (fresh : record.id ∉ records.tables.licenses.map License.id) (licenses : tables.licenses =
      supersedeActiveLicenses records.tables.licenses record.tenantId ++ [record]) {now : Instant}
    (own : row.tenantId = record.tenantId) (named : row.licenseId = record.id)
    (open_ : row.deactivatedAt = none) :
    OneInForce
      { tables := tables
        activations := supersedeActivations records.tables.licenses record.tenantId now
          records.activations ++ [row] } := by
  have here : activeLicenses tables.licenses record.tenantId = [record] := by
    rw [licenses, activeLicenses_concat, activeLicenses_supersede_self, List.nil_append]
    simp [activeLicenses, active]
  have elsewhere : ∀ other, other ≠ record.tenantId →
      activeLicenses tables.licenses other = activeLicenses records.tables.licenses other := by
    intro other different
    rw [licenses, activeLicenses_concat, activeLicenses_supersede_of_ne different]
    have none_ : activeLicenses [record] other = [] := by
      simp [activeLicenses, different.symm]
    rw [none_, List.append_nil]
  refine ⟨?_, ?_, ?_⟩
  · rw [licenses, List.map_append, map_id_supersede, List.map_singleton,
      ← List.concat_eq_append]
    exact one.distinct.concat fresh
  · intro other
    by_cases same : other = record.tenantId
    · rw [same, here]
      exact Nat.le_refl 1
    · rw [elsewhere other same]
      exact one.single other
  · intro activation mem isActive
    rcases List.mem_append.mp mem with old | new
    · obtain ⟨listed, different⟩ :=
        one.ended _ (fun row mem => List.mem_map_of_mem mem) old isActive
      rw [elsewhere _ different]
      exact one.bound activation listed isActive
    · cases List.mem_singleton.mp new
      refine ⟨open_, ?_⟩
      rw [own, here, named]
      rfl

theorem OneInForce.appended (one : OneInForce records) (record : License)
    (inactive : record.status ≠ value LicenseStatus.active)
    (fresh : record.id ∉ records.tables.licenses.map License.id)
    (licenses : tables.licenses = records.tables.licenses ++ [record])
    (notActive : row.status ≠ value LicenseStatus.active) :
    OneInForce { tables := tables, activations := records.activations ++ [row] } := by
  have same : ∀ other,
      activeLicenses tables.licenses other = activeLicenses records.tables.licenses other := by
    intro other
    have none_ : activeLicenses [record] other = [] := by
      simp [activeLicenses, inactive]
    rw [licenses, activeLicenses_concat, none_, List.append_nil]
  refine ⟨?_, ?_, ?_⟩
  · rw [licenses, List.map_append, List.map_singleton, ← List.concat_eq_append]
    exact one.distinct.concat fresh
  · intro other
    rw [same other]
    exact one.single other
  · intro activation mem isActive
    rcases List.mem_append.mp mem with old | new
    · rw [same activation.tenantId]
      exact one.bound activation old isActive
    · cases List.mem_singleton.mp new
      exact absurd isActive notActive

theorem activateRecorded_oneInForce (one : OneInForce records) (settings : LicenseSettings)
    (call : ActivationCall) : OneInForce (activateRecorded lib settings call records).2 := by
  rw [activateRecorded]
  split
  · exact one
  · rename_i response after returned
    obtain ⟨fresh, unchanged⟩ := fresh_of_activated returned
    rw [unchanged] at returned
    obtain ⟨data, read⟩ := activate_read returned
    obtain ⟨tenant, _, stored⟩ := activate_ok returned read
    have status := status_of_activated returned read
    by_cases active : data.status = .active
    · rw [status, if_pos active]
      refine one.superseded (activatedLicense settings.identity call tenant data)
        (congrArg value active) fresh ?_ rfl rfl rfl
      rw [stored, if_pos active]
      rfl
    · rw [status, if_neg active]
      have other : value data.status ≠ value LicenseStatus.active :=
        fun same => active (TextEnum.injective same)
      refine one.appended (activatedLicense settings.identity call tenant data)
        other fresh ?_ other
      rw [stored, if_neg active]

theorem current_active (mem : record ∈ activeLicenses licenses tenantId) :
    ∃ current, loadCurrentLicense licenses tenantId = some current ∧
      current ∈ activeLicenses licenses tenantId := by
  obtain ⟨listed, own, active⟩ := mem_activeLicenses.mp mem
  have prefers : ∀ a b : License, a.status = value LicenseStatus.active →
      ¬ b.status = value LicenseStatus.active →
      outranks a b = true ∧ outranks b a = false := by
    intro a b isActive other
    simp [outranks, isActive, other]
  have among : record ∈ licenses.filter fun row => row.tenantId == tenantId :=
    List.mem_filter.mpr ⟨listed, beq_iff_eq.mpr own⟩
  obtain ⟨current, first, status⟩ := firstRow_of_kind prefers among active
  obtain ⟨known, same⟩ := List.mem_filter.mp (firstRow_mem first)
  exact ⟨current, first, mem_activeLicenses.mpr ⟨known, beq_iff_eq.mp same, status⟩⟩

theorem eq_of_length_le_one {rows : List License} {first second : License}
    (single : rows.length ≤ 1) (mem : first ∈ rows) (also : second ∈ rows) : first = second := by
  obtain ⟨i, inside, rfl⟩ := List.getElem_of_mem mem
  obtain ⟨j, inside', rfl⟩ := List.getElem_of_mem also
  have same : i = j := by omega
  subst same
  rfl

theorem mem_of_current (current : loadCurrentLicense licenses tenantId = some record) :
    record ∈ licenses ∧ record.tenantId = tenantId := by
  obtain ⟨mem, own⟩ := List.mem_filter.mp (firstRow_mem current)
  exact ⟨mem, beq_iff_eq.mp own⟩

theorem OneInForce.only_current (one : OneInForce records)
    (current : loadCurrentLicense records.tables.licenses tenantId = some record) {other : License}
    (mem : other ∈ activeLicenses records.tables.licenses tenantId) : other = record := by
  obtain ⟨found, first, active⟩ := current_active mem
  rw [current] at first
  cases first
  exact eq_of_length_le_one (one.single tenantId) mem active

theorem OneInForce.withdrawn (one : OneInForce records)
    (current : loadCurrentLicense records.tables.licenses tenantId = some record)
    (licenses : tables.licenses = records.tables.licenses.map fun row =>
      if row.id = record.id
        then { record with status := value LicenseStatus.inactive } else row)
    {now : Instant} :
    OneInForce
      { tables := tables
        activations := deactivateLicenseActivations tenantId now records.activations record.id } := by
  obtain ⟨known, own⟩ := mem_of_current current
  have same_row : ∀ row ∈ records.tables.licenses, row.id = record.id → row = record :=
    fun row mem same => List.inj_on_of_nodup_map one.distinct mem known same
  have here : activeLicenses tables.licenses tenantId = [] := by
    rw [licenses]
    refine activeLicenses_map_nil fun row mem ownAfter => ?_
    split at ownAfter
    · rename_i same
      rw [if_pos same]
      exact inactive_ne_active
    · rename_i different
      rw [if_neg different]
      intro active
      have only := one.only_current current (mem_activeLicenses.mpr ⟨mem, ownAfter, active⟩)
      exact different (congrArg License.id only)
  have elsewhere : ∀ other, other ≠ tenantId →
      activeLicenses tables.licenses other = activeLicenses records.tables.licenses other := by
    intro other different
    rw [licenses]
    refine activeLicenses_map fun row mem ownOther => ?_
    by_cases same : row.id = record.id
    · rw [if_pos same] at ownOther
      rw [same_row row mem same, own] at ownOther
      rcases ownOther with there | there
      · exact absurd there.symm different
      · exact absurd there.symm different
    · exact if_neg same
  refine ⟨?_, ?_, ?_⟩
  · have ids : tables.licenses.map License.id = records.tables.licenses.map License.id := by
      rw [licenses, List.map_map]
      refine List.map_congr_left fun row _ => ?_
      dsimp only [Function.comp_apply]
      split
      · rename_i same
        exact same.symm
      · rfl
    rw [ids]
    exact one.distinct
  · intro other
    by_cases same : other = tenantId
    · rw [same, here]
      exact Nat.zero_le 1
    · rw [elsewhere other same]
      exact one.single other
  · intro activation mem isActive
    have all : ∀ row ∈ activeLicenses records.tables.licenses tenantId, row.id ∈ [record.id] := by
      intro row active
      rw [one.only_current current active]
      exact List.mem_singleton_self _
    obtain ⟨listed, different⟩ := one.ended [record.id] all mem isActive
    rw [elsewhere _ different]
    exact one.bound activation listed isActive

theorem deactivate_oneInForce (one : OneInForce records) (identity : InstallIdentity)
    (call : DeactivationCall) :
    OneInForce (deactivateLicenseForTenant lib identity call records).2 := by
  rw [deactivateLicenseForTenant]
  split
  · exact one
  · rename_i response after done
    unfold deactivate at done
    obtain ⟨changed, first, stored⟩ := bind_ok.mp done
    cases faulted : call.fault with
    | some x =>
      rw [faulted] at stored
      cases stored
    | none =>
      rw [faulted] at stored
      cases stored
      unfold deactivateCurrent at first
      split at first
      · cases first
        exact ⟨one.distinct, one.single, one.bound⟩
      · rename_i record current
        obtain ⟨status, _, made⟩ := bind_ok.mp first
        cases made
        exact one.withdrawn current rfl

theorem licenseStep_oneInForce (one : OneInForce records) (call : LicenseCall) :
    OneInForce (licenseStep lib records call).2 := by
  cases call with
  | activate settings call => exact activateRecorded_oneInForce one settings call
  | deactivate identity call => exact deactivate_oneInForce one identity call

theorem OneInForce.none (noLicenses : tables.licenses = []) :
    OneInForce { tables := tables, activations := [] } where
  distinct := by simp [noLicenses]
  single := by simp [noLicenses, activeLicenses]
  bound := nofun

/-- After any calls a tenant has at most one license stored as active, and every
active activation of the tenant belongs to it. -/
theorem one_license_in_force (lib : LicenseLibrary) (catalog : ModuleCatalog)
    (tenantModules : TenantModules) (instances : AgentInstances) (calls : List LicenseCall)
    (tenantId : UUID) :
    let records := (licenseMachine lib).after
      { tables := ⟨[], catalog, tenantModules, instances⟩, activations := [] } calls
    (activeLicenses records.tables.licenses tenantId).length ≤ 1 ∧
      ∀ row ∈ records.activations, row.tenantId = tenantId →
        row.status = value LicenseStatus.active →
        (activeLicenses records.tables.licenses tenantId).map License.id = [row.licenseId] := by
  intro records
  have one : OneInForce records :=
    Process.Machine.after_of_step (m := licenseMachine lib) (P := OneInForce)
      (fun _ call kept => licenseStep_oneInForce kept call) (OneInForce.none rfl) calls
  refine ⟨one.single tenantId, ?_⟩
  intro row mem own active
  rw [← own]
  exact (one.bound row mem active).2

end LicenseService
end AgentHive
