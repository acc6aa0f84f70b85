import AgentHive.Services.LicenseStatus
import AgentHive.Process.Fallible
import AgentHive.Store.OrderedDict

/-!
Agent modules of a tenant: the catalog, the rows that say which module is
installed and enabled, and the gates over both.
-/

namespace AgentHive

inductive AgentModuleState
  | notInstalled
  | installed
  | enabled
  | disabled
  | expired
  | notLicensed
deriving DecidableEq

instance : TextEnum AgentModuleState where
  value
    | .notInstalled => "not_installed"
    | .installed => "installed"
    | .enabled => "enabled"
    | .disabled => "disabled"
    | .expired => "expired"
    | .notLicensed => "not_licensed"
  all := [.notInstalled, .installed, .enabled, .disabled, .expired, .notLicensed]
  complete := by intro state; cases state <;> decide
  injective := by intro first second; cases first <;> cases second <;> decide

structure AgentModule where
  id : UUID
  moduleKey : String
  isActive : Bool := true
  requiredFeatures : List String := []
  dependencies : List String := []
deriving DecidableEq

/-- The rows of `agent_modules`. -/
structure ModuleCatalog where
  rows : List AgentModule
  keysDistinct : (rows.map (·.moduleKey)).Nodup
  idsDistinct : (rows.map (·.id)).Nodup

structure TenantAgentModule where
  state : String := "not_installed"
  installedBy : Option UUID := none
  installedAt : Option Instant := none
  enabledAt : Option Instant := none
  disabledAt : Option Instant := none
  updatedAt : Instant := 0
deriving DecidableEq

abbrev TenantModules := OrderedDict (UUID × UUID) TenantAgentModule

namespace ModuleCatalog

variable (catalog : ModuleCatalog)

def scalarOneOrNone {α : Type} : List α → Except Exc (Option α)
  | [] => .ok none
  | [a] => .ok (some a)
  | _ => .error (.sqlAlchemy "MultipleResultsFound"
      "Multiple rows were found when one or none was required")

def getModuleRow (moduleKey : String) : Except Exc AgentModule := do
  let found ← scalarOneOrNone
    (catalog.rows.filter fun row => row.moduleKey == moduleKey && row.isActive)
  match found with
  | none => .error (.http 404 (.text "Agent module not found."))
  | some row => .ok row

def loadModulesByKeys (moduleKeys : List String) : OrderedDict String AgentModule :=
  if moduleKeys = [] then .empty
  else .ofEntries ((catalog.rows.filter fun row =>
    decide (row.moduleKey ∈ moduleKeys) && row.isActive).map fun row => (row.moduleKey, row))

variable {catalog}

/-- The catalog offers `module` under the key. -/
structure Offers (catalog : ModuleCatalog) (moduleKey : String) (row : AgentModule) : Prop where
  listed : row ∈ catalog.rows
  named : row.moduleKey = moduleKey
  active : row.isActive = true

variable {moduleKey : String}

theorem Offers.unique {first second : AgentModule} (one : catalog.Offers moduleKey first)
    (other : catalog.Offers moduleKey second) : first = second :=
  List.inj_on_of_nodup_map catalog.keysDistinct one.listed other.listed
    (one.named.trans other.named.symm)

theorem eq_of_id {first second : AgentModule} (one : first ∈ catalog.rows)
    (other : second ∈ catalog.rows) (same : first.id = second.id) : first = second :=
  List.inj_on_of_nodup_map catalog.idsDistinct one other same

variable {row : AgentModule}

theorem offers_iff :
    row ∈ (catalog.rows.filter fun row => row.moduleKey == moduleKey && row.isActive) ↔
      catalog.Offers moduleKey row := by
  rw [List.mem_filter, Bool.and_eq_true, beq_iff_eq]
  constructor
  · intro h
    exact ⟨h.1, h.2.1, h.2.2⟩
  · intro h
    exact ⟨h.listed, h.named, h.active⟩

theorem getModuleRow_ok :
    catalog.getModuleRow moduleKey = .ok row ↔ catalog.Offers moduleKey row := by
  have rowsDistinct : catalog.rows.Nodup := List.Nodup.of_map _ catalog.keysDistinct
  have distinct := rowsDistinct.filter fun row => row.moduleKey == moduleKey && row.isActive
  rw [← offers_iff]
  unfold getModuleRow
  cases found : catalog.rows.filter fun row => row.moduleKey == moduleKey && row.isActive with
  | nil =>
    constructor
    · intro read
      cases read
    · intro mem
      cases mem
  | cons first rest =>
    cases rest with
    | nil =>
      rw [List.mem_singleton]
      constructor
      · intro read
        cases read
        rfl
      · intro same
        rw [same]
        rfl
    | cons second rest =>
      rw [found] at distinct
      have one := offers_iff.mp (found ▸ List.mem_cons_self)
      have other := offers_iff.mp (found ▸ List.mem_cons_of_mem _ List.mem_cons_self)
      have same : first = second := one.unique other
      rw [same] at distinct
      exact absurd List.mem_cons_self (List.nodup_cons.mp distinct).1

theorem get_loadModulesByKeys (moduleKeys : List String) :
    (catalog.loadModulesByKeys moduleKeys).get moduleKey = some row ↔
      moduleKey ∈ moduleKeys ∧ catalog.Offers moduleKey row := by
  unfold loadModulesByKeys
  split
  · rename_i none
    simp [none, OrderedDict.empty, OrderedDict.get]
  · rw [OrderedDict.get_ofEntries_filter catalog.keysDistinct]
    simp only [Bool.and_eq_true, decide_eq_true_eq]
    constructor
    · rintro ⟨listed, ⟨asked, active⟩, rfl⟩
      exact ⟨asked, listed, rfl, active⟩
    · rintro ⟨asked, listed, rfl, active⟩
      exact ⟨listed, ⟨asked, active⟩, rfl⟩

end ModuleCatalog

namespace TenantModules

variable (tenantModules : TenantModules) (tenantId : UUID)

def ofTenant : List (UUID × TenantAgentModule) :=
  (tenantModules.entries.filter fun entry => entry.1.1 == tenantId).map fun entry =>
    (entry.1.2, entry.2)

def loadTenantModuleStates : OrderedDict UUID TenantAgentModule :=
  .ofEntries (ofTenant tenantModules tenantId)

variable {tenantModules tenantId}

theorem mem_ofTenant {moduleId : UUID} {row : TenantAgentModule} :
    (moduleId, row) ∈ ofTenant tenantModules tenantId ↔
      tenantModules.get (tenantId, moduleId) = some row := by
  unfold ofTenant
  rw [List.mem_map]
  constructor
  · intro h
    obtain ⟨⟨⟨tenant, id⟩, found⟩, mem, same⟩ := h
    cases same
    rw [List.mem_filter] at mem
    have own : tenant = tenantId := beq_iff_eq.mp mem.2
    rw [← own]
    exact OrderedDict.get_of_mem_entries mem.1
  · intro h
    exact ⟨_, List.mem_filter.mpr ⟨OrderedDict.mem_entries_of_get h, beq_self_eq_true _⟩, rfl⟩

theorem ofTenant_distinct : ((ofTenant tenantModules tenantId).map Prod.fst).Nodup := by
  unfold ofTenant
  rw [List.map_map]
  have keys : (tenantModules.entries.map Prod.fst).Nodup := tenantModules.distinct
  have own := (List.Nodup.of_map _ keys).filter fun entry => entry.1.1 == tenantId
  refine (List.nodup_map_iff_inj_on own).mpr ?_
  intro first one second other same
  rw [List.mem_filter] at one other
  refine List.inj_on_of_nodup_map keys one.1 other.1 ?_
  exact Prod.ext ((beq_iff_eq.mp one.2).trans (beq_iff_eq.mp other.2).symm) same

@[simp] theorem get_loadTenantModuleStates (moduleId : UUID) :
    (loadTenantModuleStates tenantModules tenantId).get moduleId =
      tenantModules.get (tenantId, moduleId) := by
  apply Option.ext
  intro row
  exact (OrderedDict.get_ofEntries_eq_some ofTenant_distinct).trans mem_ofTenant

end TenantModules

namespace AgentModuleService

open TenantModules
open Process.Fallible

def missingRequiredFeatures (requiredFeatures : List String) (license : LicenseStatusResponse) :
    List String :=
  requiredFeatures.filter fun feature => decide (feature ∉ license.allowedFeatures)

def ensureLicenseAllowsModule (moduleKey : String) (requiredFeatures : List String)
    (license : LicenseStatusResponse) : Except Exc Unit :=
  if license.status = .expired then
    .error (.http 403 (.text "Agent module license is expired."))
  else if license.status ≠ .active then
    .error (.http 403
      (.text "Active AgentHive license is required to manage Agent modules."))
  else if moduleKey ∉ license.allowedModules then
    .error (.http 403 (.text "Agent module is not licensed for this deployment."))
  else if missingRequiredFeatures requiredFeatures license ≠ [] then
    .error (.http 403 (.text ("Agent module requires license features: " ++
      ", ".intercalate (missingRequiredFeatures requiredFeatures license) ++ ".")))
  else .ok ()

/-- `_ensure_db_module_licensed`, with the answer of `get_license_status_for_tenant`. -/
def ensureDbModuleLicensed (row : AgentModule) (license : LicenseStatusResponse) :
    Except Exc Unit :=
  ensureLicenseAllowsModule row.moduleKey row.requiredFeatures license

def ensureAgentModuleRunnableForTenant (catalog : ModuleCatalog) (tenantModules : TenantModules)
    (license : LicenseStatusResponse) (tenantId : UUID) (moduleKey : String)
    (usageLabel : String := "this Agent capability") : Except Exc AgentModule := do
  let row ← catalog.getModuleRow moduleKey
  ensureDbModuleLicensed row license
  match (loadTenantModuleStates tenantModules tenantId).get row.id with
  | none => .error (.http 403
      (.text ("Install and enable " ++ moduleKey ++ " before using " ++ usageLabel ++ ".")))
  | some tenantModule => do
    let moduleState : AgentModuleState ← readEnum "AgentModuleState" tenantModule.state
    if moduleState ≠ .enabled then .error (.http 403
      (.text ("Enable " ++ moduleKey ++ " before using " ++ usageLabel ++ ".")))
    else .ok row

/-- The `modules_by_id` of `_runnable_module_keys`. -/
def licensedModulesById (catalog : ModuleCatalog) (license : LicenseStatusResponse) :
    OrderedDict UUID AgentModule :=
  .ofEntries ((catalog.rows.filter fun row =>
    decide (row.moduleKey ∈ license.allowedModules) && row.isActive).map fun row => (row.id, row))

/-- `_runnable_module_keys`; the set is the list of the keys added to it. -/
def runnableModuleKeys (catalog : ModuleCatalog) (tenantModules : TenantModules)
    (tenantId : UUID) (license : LicenseStatusResponse) : List String :=
  if license.status ≠ .active then []
  else if license.allowedModules = [] then []
  else
    let modulesById := licensedModulesById catalog license
    if modulesById.keys = [] then []
    else
      ((ofTenant tenantModules tenantId).filter fun entry =>
        decide (entry.1 ∈ modulesById.keys)).filterMap fun entry =>
          if entry.2.state ≠ TextEnum.value AgentModuleState.enabled then none
          else (modulesById.get entry.1).map (·.moduleKey)

variable {catalog : ModuleCatalog} {tenantModules : TenantModules} {tenantId : UUID}
  {license : LicenseStatusResponse} {moduleKey : String}

def IsEnabled (tenantModules : TenantModules) (tenantId : UUID) (row : AgentModule) : Prop :=
  ∃ tenantModule, tenantModules.get (tenantId, row.id) = some tenantModule ∧
    tenantModule.state = TextEnum.value AgentModuleState.enabled

structure LicensedAndEnabled (catalog : ModuleCatalog) (tenantModules : TenantModules)
    (tenantId : UUID) (license : LicenseStatusResponse) (moduleKey : String)
    (row : AgentModule) : Prop where
  active : license.status = .active
  allowed : moduleKey ∈ license.allowedModules
  offered : catalog.Offers moduleKey row
  enabled : IsEnabled tenantModules tenantId row

theorem get_licensedModulesById {moduleId : UUID} {row : AgentModule} :
    (licensedModulesById catalog license).get moduleId = some row ↔
      row.id = moduleId ∧ row.moduleKey ∈ license.allowedModules ∧
        catalog.Offers row.moduleKey row := by
  unfold licensedModulesById
  rw [OrderedDict.get_ofEntries_filter catalog.idsDistinct]
  simp only [Bool.and_eq_true, decide_eq_true_eq]
  constructor
  · rintro ⟨listed, ⟨licensed, active⟩, same⟩
    exact ⟨same, licensed, listed, rfl, active⟩
  · rintro ⟨same, licensed, listed, _, active⟩
    exact ⟨listed, ⟨licensed, active⟩, same⟩

theorem runnableModuleKeys_of_active (active : license.status = .active) :
    runnableModuleKeys catalog tenantModules tenantId license =
      ((ofTenant tenantModules tenantId).filter fun entry =>
        decide (entry.1 ∈ (licensedModulesById catalog license).keys)).filterMap fun entry =>
          if entry.2.state ≠ TextEnum.value AgentModuleState.enabled then none
          else ((licensedModulesById catalog license).get entry.1).map (·.moduleKey) := by
  unfold runnableModuleKeys
  rw [if_neg (not_not.mpr active)]
  by_cases none : (licensedModulesById catalog license).keys = []
  · simp [none]
  · have listed : license.allowedModules ≠ [] := by
      intro empty
      apply none
      simp [licensedModulesById, empty, OrderedDict.ofEntries, OrderedDict.setAll,
        OrderedDict.empty, OrderedDict.keys]
    rw [if_neg listed]
    exact if_neg none

theorem mem_runnableModuleKeys :
    moduleKey ∈ runnableModuleKeys catalog tenantModules tenantId license ↔
      ∃ row, LicensedAndEnabled catalog tenantModules tenantId license moduleKey row := by
  by_cases active : license.status = .active
  · rw [runnableModuleKeys_of_active active, List.mem_filterMap]
    constructor
    · intro h
      obtain ⟨⟨moduleId, tenantModule⟩, mem, added⟩ := h
      have own := mem_ofTenant.mp (List.mem_of_mem_filter mem)
      split at added
      · cases added
      · rename_i enabled
        obtain ⟨row, found, named⟩ := Option.map_eq_some_iff.mp added
        obtain ⟨isRow, allowed, offered⟩ := get_licensedModulesById.mp found
        subst named isRow
        exact ⟨row, active, allowed, offered, tenantModule, own, not_not.mp enabled⟩
    · intro h
      obtain ⟨row, runnable⟩ := h
      obtain ⟨tenantModule, own, enabled⟩ := runnable.enabled
      have named := runnable.offered.named
      subst named
      have found := get_licensedModulesById.mpr ⟨rfl, runnable.allowed, runnable.offered⟩
      refine ⟨(row.id, tenantModule), ?_, ?_⟩
      · refine List.mem_filter.mpr ⟨mem_ofTenant.mpr own, decide_eq_true ?_⟩
        rw [OrderedDict.mem_keys, found]
        rfl
      · rw [if_neg (not_not.mpr enabled), found]
        rfl
  · unfold runnableModuleKeys
    rw [if_pos active]
    constructor
    · intro mem
      cases mem
    · intro h
      obtain ⟨row, runnable⟩ := h
      exact absurd runnable.active active

variable {requiredFeatures : List String}

theorem missingRequiredFeatures_eq_nil :
    missingRequiredFeatures requiredFeatures license = [] ↔
      ∀ feature ∈ requiredFeatures, feature ∈ license.allowedFeatures := by
  simp [missingRequiredFeatures, List.filter_eq_nil_iff]

theorem ensureLicenseAllowsModule_ok :
    ensureLicenseAllowsModule moduleKey requiredFeatures license = .ok () ↔
      license.status = .active ∧ moduleKey ∈ license.allowedModules ∧
        ∀ feature ∈ requiredFeatures, feature ∈ license.allowedFeatures := by
  unfold ensureLicenseAllowsModule
  rw [guard_ok, guard_ok, guard_ok, guard_ok, ← missingRequiredFeatures_eq_nil]
  simp only [not_not, and_true]
  constructor
  · intro h
    exact h.2
  · intro h
    refine ⟨?_, h⟩
    rw [h.1]
    decide

theorem ensureAgentModuleRunnable_ok {usageLabel : String} {row : AgentModule} :
    ensureAgentModuleRunnableForTenant catalog tenantModules license tenantId moduleKey usageLabel =
        .ok row ↔
      LicensedAndEnabled catalog tenantModules tenantId license moduleKey row ∧
        ∀ feature ∈ row.requiredFeatures, feature ∈ license.allowedFeatures := by
  unfold ensureAgentModuleRunnableForTenant ensureDbModuleLicensed
  rw [bind_ok]
  constructor
  · intro h
    obtain ⟨found, named, h⟩ := h
    obtain ⟨_, licensed, h⟩ := bind_ok.mp h
    have offered := ModuleCatalog.getModuleRow_ok.mp named
    obtain ⟨active, allowed, features⟩ := ensureLicenseAllowsModule_ok.mp licensed
    rw [get_loadTenantModuleStates] at h
    cases own : tenantModules.get (tenantId, found.id) with
    | none =>
      rw [own] at h
      cases h
    | some tenantModule =>
      rw [own] at h
      obtain ⟨state, read, h⟩ := bind_ok.mp h
      obtain ⟨enabled, same⟩ := guard_ok.mp h
      cases same
      rw [readEnum_ok, not_not.mp enabled] at read
      rw [offered.named] at allowed
      exact ⟨⟨active, allowed, offered, tenantModule, own, read⟩, features⟩
  · intro h
    obtain ⟨runnable, features⟩ := h
    obtain ⟨tenantModule, own, enabled⟩ := runnable.enabled
    have allowed := runnable.allowed
    rw [← runnable.offered.named] at allowed
    refine ⟨row, ModuleCatalog.getModuleRow_ok.mpr runnable.offered, bind_ok.mpr ⟨(), ?_, ?_⟩⟩
    · exact ensureLicenseAllowsModule_ok.mpr ⟨runnable.active, allowed, features⟩
    · rw [get_loadTenantModuleStates, own]
      exact bind_ok.mpr ⟨.enabled, readEnum_ok.mpr enabled, guard_ok.mpr ⟨by decide, rfl⟩⟩

/-- The check before a run asks, over what makes a key runnable, that the
license grants every feature its module requires. -/
theorem ensureAgentModuleRunnable_iff (catalog : ModuleCatalog) (tenantModules : TenantModules)
    (license : LicenseStatusResponse) (tenantId : UUID) (moduleKey usageLabel : String) :
    (∃ row, ensureAgentModuleRunnableForTenant catalog tenantModules license tenantId moduleKey
        usageLabel = .ok row) ↔
      moduleKey ∈ runnableModuleKeys catalog tenantModules tenantId license ∧
        ∀ row, catalog.Offers moduleKey row →
          ∀ feature ∈ row.requiredFeatures, feature ∈ license.allowedFeatures := by
  rw [mem_runnableModuleKeys]
  constructor
  · intro h
    obtain ⟨row, returned⟩ := h
    obtain ⟨runnable, features⟩ := ensureAgentModuleRunnable_ok.mp returned
    refine ⟨⟨row, runnable⟩, ?_⟩
    intro other offered
    rw [offered.unique runnable.offered]
    exact features
  · intro h
    obtain ⟨⟨row, runnable⟩, features⟩ := h
    exact ⟨row, ensureAgentModuleRunnable_ok.mpr ⟨runnable, features row runnable.offered⟩⟩

def reportWriter : AgentModule :=
  { id := 5, moduleKey := "agent.report_writer", requiredFeatures := ["feature.agent_catalog"] }

def finance : AgentModule :=
  { id := 7, moduleKey := "agent.finance"
    requiredFeatures := ["feature.agent_catalog", "feature.model_budget"]
    dependencies := ["agent.report_writer"] }

def officeModules : ModuleCatalog where
  rows := [reportWriter, finance]
  keysDistinct := by decide
  idsDistinct := by decide

def catalogLicense : LicenseStatusResponse :=
  { status := .active, licenseType := "standard", customerName := "Demo", deploymentId := 1
    installId := 1, machineFingerprintHash := "", featureCount := 1, moduleCount := 2
    allowedModules := ["agent.finance", "agent.report_writer"]
    allowedFeatures := ["feature.agent_catalog"] }

def bothEnabled : TenantModules :=
  .ofEntries [((1, 5), { state := "enabled" }), ((1, 7), { state := "enabled" })]

theorem finance_runnable_but_refused :
    "agent.finance" ∈ runnableModuleKeys officeModules bothEnabled 1 catalogLicense ∧
      ¬ ∃ row, ensureAgentModuleRunnableForTenant officeModules bothEnabled catalogLicense 1
        "agent.finance" = .ok row := by
  have runnable :
      "agent.finance" ∈ runnableModuleKeys officeModules bothEnabled 1 catalogLicense := by
    decide +kernel
  refine ⟨runnable, ?_⟩
  intro h
  obtain ⟨row, returned⟩ := h
  have refused : ensureAgentModuleRunnableForTenant officeModules bothEnabled catalogLicense 1
      "agent.finance" = .error (.http 403 (.text
        "Agent module requires license features: feature.model_budget.")) := by
    decide +kernel
  rw [refused] at returned
  cases returned

end AgentModuleService
end AgentHive
