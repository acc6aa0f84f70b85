import AgentHive.Process.Dependencies
import AgentHive.Process.Machine
import AgentHive.Services.InstanceReconcile
import Mathlib.Order.BooleanAlgebra.Set

/-!
Installing, enabling and disabling the agent modules of a tenant.
-/

namespace AgentHive

inductive ModuleOperation
  | install
  | enable
  | disable
deriving DecidableEq

/-- One call. `license` is the status its gate reads, `laterLicense` the one a
disabling call reads again, `fault` the exception of a later statement. -/
structure ModuleCall where
  operation : ModuleOperation
  tenantId : UUID
  moduleKey : String
  actorId : Option UUID := none
  now : Instant := 0
  license : Except Exc LicenseStatusResponse
  laterLicense : Except Exc LicenseStatusResponse := license
  fault : Option Exc := none

structure ModuleTables where
  catalog : ModuleCatalog
  tenantModules : TenantModules
  instances : AgentInstances

structure AgentModuleActionResponse where
  moduleId : String
  state : AgentModuleState
  message : String
deriving DecidableEq

namespace AgentModuleService

open TenantModules InstanceReconcile
open Process.Fallible

/-- The entries `_dependency_states_by_key` collects. -/
def dependencyStates (tenantStates : OrderedDict UUID TenantAgentModule) :
    List (String × AgentModule) → Except Exc (List (String × AgentModuleState))
  | [] => .ok []
  | (moduleKey, row) :: rest =>
    match tenantStates.get row.id with
    | none => dependencyStates tenantStates rest
    | some tenantModule => do
      let state ← readEnum "AgentModuleState" tenantModule.state
      let others ← dependencyStates tenantStates rest
      return (moduleKey, state) :: others

def dependencyStatesByKey (tenantStates : OrderedDict UUID TenantAgentModule)
    (moduleByKey : OrderedDict String AgentModule) :
    Except Exc (OrderedDict String AgentModuleState) := do
  let states ← dependencyStates tenantStates moduleByKey.entries
  return .ofEntries states

/-- The `allowed_states` of `_missing_module_dependencies`. -/
def allowedStates (requireEnabled : Bool) : List AgentModuleState :=
  if requireEnabled then [.enabled] else [.enabled, .installed, .disabled]

def missingModuleDependencies (dependencies : List String)
    (states : OrderedDict String AgentModuleState) (requireEnabled : Bool) : List String :=
  dependencies.filter fun dependency =>
    match states.get dependency with
    | none => true
    | some state => decide (state ∉ allowedStates requireEnabled)

def ensureDbModuleDependencies (catalog : ModuleCatalog) (tenantModules : TenantModules)
    (tenantId : UUID) (row : AgentModule) (requireEnabled : Bool) : Except Exc Unit :=
  if row.dependencies = [] then .ok ()
  else do
    let states ← dependencyStatesByKey (loadTenantModuleStates tenantModules tenantId)
      (catalog.loadModulesByKeys row.dependencies)
    let missing := missingModuleDependencies row.dependencies states requireEnabled
    if missing ≠ [] then
      .error (.http 409 (.text ("Agent module requires " ++
        (if requireEnabled then "enabled" else "installed") ++ " dependencies: " ++
        ", ".intercalate missing ++ ".")))
    else .ok ()

variable (isoformat : Instant → String)

def getOrCreateTenantModule (tenantModules : TenantModules) (tenantId moduleId : UUID) :
    TenantAgentModule :=
  (tenantModules.get (tenantId, moduleId)).getD {}

def isInstalledLike (state : String) : Bool :=
  state == TextEnum.value AgentModuleState.installed ||
    state == TextEnum.value AgentModuleState.enabled ||
    state == TextEnum.value AgentModuleState.disabled

variable (call : ModuleCall)

def committed {α : Type} (result : α) : Except Exc α :=
  match call.fault with
  | some x => .error x
  | none => .ok result

variable (tables : ModuleTables)

def installAgentModule : Except Exc (AgentModuleActionResponse × ModuleTables) := do
  let row ← tables.catalog.getModuleRow call.moduleKey
  let license ← call.license
  ensureDbModuleLicensed row license
  ensureDbModuleDependencies tables.catalog tables.tenantModules call.tenantId row false
  let found := getOrCreateTenantModule tables.tenantModules call.tenantId row.id
  let installed := isInstalledLike found.state
  let tenantModule :=
    if installed then { found with updatedAt := call.now }
    else
      { found with
        state := TextEnum.value AgentModuleState.installed
        installedBy := call.actorId
        installedAt := some call.now
        updatedAt := call.now }
  let state ← readEnum "AgentModuleState" tenantModule.state
  committed call (
    { moduleId := row.moduleKey
      state := state
      message := if installed then "Agent module is already installed."
        else "Agent module installed." },
    { tables with
      tenantModules := tables.tenantModules.set (call.tenantId, row.id) tenantModule })

def recordInstallation (found : TenantAgentModule) : TenantAgentModule :=
  if found.installedAt = none then
    { found with installedBy := call.actorId, installedAt := some call.now }
  else found

def enableAgentModule : Except Exc (AgentModuleActionResponse × ModuleTables) := do
  let row ← tables.catalog.getModuleRow call.moduleKey
  let license ← call.license
  ensureDbModuleLicensed row license
  ensureDbModuleDependencies tables.catalog tables.tenantModules call.tenantId row true
  let found := getOrCreateTenantModule tables.tenantModules call.tenantId row.id
  let tenantModule :=
    { recordInstallation call found with
      state := TextEnum.value AgentModuleState.enabled
      enabledAt := some call.now
      disabledAt := none
      updatedAt := call.now }
  committed call (
    { moduleId := row.moduleKey, state := .enabled, message := "Agent module enabled." },
    { tables with
      tenantModules := tables.tenantModules.set (call.tenantId, row.id) tenantModule })

def disableAgentModule : Except Exc (AgentModuleActionResponse × ModuleTables) := do
  let row ← tables.catalog.getModuleRow call.moduleKey
  let license ← call.license
  ensureDbModuleLicensed row license
  let laterLicense ← call.laterLicense
  let found := getOrCreateTenantModule tables.tenantModules call.tenantId row.id
  let tenantModule :=
    { recordInstallation call found with
      state := TextEnum.value AgentModuleState.disabled
      disabledAt := some call.now
      updatedAt := call.now }
  let tenantModules := tables.tenantModules.set (call.tenantId, row.id) tenantModule
  let reconciled := reconcileAgentInstances isoformat tables.catalog tenantModules
    { tenantId := call.tenantId, license := laterLicense, now := call.now
      reason := "agent_module_disabled", moduleKeys := some [row.moduleKey] } tables.instances
  committed call (
    { moduleId := row.moduleKey, state := .disabled, message := "Agent module disabled." },
    { tables with tenantModules := tenantModules, instances := reconciled.2 })

def runOperation : Except Exc (AgentModuleActionResponse × ModuleTables) :=
  match call.operation with
  | .install => installAgentModule call tables
  | .enable => enableAgentModule call tables
  | .disable => disableAgentModule isoformat call tables

def moduleMachine :
    Process.Machine ModuleTables ModuleCall (Except Exc AgentModuleActionResponse) where
  step tables call :=
    match runOperation isoformat call tables with
    | .error x => (.error x, tables)
    | .ok (response, after) => (.ok response, after)

end AgentModuleService
end AgentHive

namespace AgentHive.AgentModuleService

open TenantModules InstanceReconcile
open Process Process.Fallible

variable {isoformat : Instant → String} {catalog : ModuleCatalog}
  {tenantModules : TenantModules} {tenantId : UUID} {moduleKey : String} {row : AgentModule}
  {states : List AgentModuleState} {requireEnabled : Bool}

def keysIn (catalog : ModuleCatalog) (tenantModules : TenantModules) (tenantId : UUID)
    (states : List AgentModuleState) : Set String :=
  fun moduleKey => ∃ row ∈ catalog.rows, row.moduleKey = moduleKey ∧
    ∃ tenantModule, tenantModules.get (tenantId, row.id) = some tenantModule ∧
      ∃ state ∈ states, tenantModule.state = TextEnum.value state

def enabledKeys (catalog : ModuleCatalog) (tenantModules : TenantModules) (tenantId : UUID) :
    Set String :=
  keysIn catalog tenantModules tenantId (allowedStates true)

def installedKeys (catalog : ModuleCatalog) (tenantModules : TenantModules) (tenantId : UUID) :
    Set String :=
  keysIn catalog tenantModules tenantId (allowedStates false)

def Needs (catalog : ModuleCatalog) (moduleKey dependency : String) : Prop :=
  ∃ row ∈ catalog.rows, row.moduleKey = moduleKey ∧ dependency ∈ row.dependencies

def DependenciesSatisfied (catalog : ModuleCatalog) (tenantModules : TenantModules)
    (tenantId : UUID) : Prop :=
  (∀ moduleKey ∈ enabledKeys catalog tenantModules tenantId, ∀ dependency,
      Needs catalog moduleKey dependency →
        dependency ∈ enabledKeys catalog tenantModules tenantId) ∧
    ∀ moduleKey ∈ installedKeys catalog tenantModules tenantId, ∀ dependency,
      Needs catalog moduleKey dependency →
        dependency ∈ installedKeys catalog tenantModules tenantId

theorem enabledKeys_subset :
    enabledKeys catalog tenantModules tenantId ⊆
      installedKeys catalog tenantModules tenantId := by
  intro moduleKey mem
  obtain ⟨row, listed, named, tenantModule, own, state, enabled, text⟩ := mem
  refine ⟨row, listed, named, tenantModule, own, state, ?_, text⟩
  cases List.mem_singleton.mp enabled
  exact List.mem_cons_self

theorem mem_keysIn (listed : row ∈ catalog.rows) :
    row.moduleKey ∈ keysIn catalog tenantModules tenantId states ↔
      ∃ tenantModule, tenantModules.get (tenantId, row.id) = some tenantModule ∧
        ∃ state ∈ states, tenantModule.state = TextEnum.value state := by
  constructor
  · intro mem
    obtain ⟨other, otherListed, named, rest⟩ := mem
    have same : other = row := List.inj_on_of_nodup_map catalog.keysDistinct otherListed listed named
    rw [same] at rest
    exact rest
  · intro h
    exact ⟨row, listed, rfl, h⟩

theorem mem_keysIn_set (listed : row ∈ catalog.rows) (tenantModule : TenantAgentModule) :
    moduleKey ∈ keysIn catalog (tenantModules.set (tenantId, row.id) tenantModule) tenantId states ↔
      if moduleKey = row.moduleKey then
        ∃ state ∈ states, tenantModule.state = TextEnum.value state
      else moduleKey ∈ keysIn catalog tenantModules tenantId states := by
  by_cases own : moduleKey = row.moduleKey
  · rw [if_pos own, own, mem_keysIn listed, OrderedDict.get_set_self]
    constructor
    · intro h
      obtain ⟨written, same, found⟩ := h
      cases same
      exact found
    · intro h
      exact ⟨tenantModule, rfl, h⟩
  · rw [if_neg own]
    apply exists_congr
    intro other
    refine and_congr_right fun otherListed => and_congr_right fun named => ?_
    have different : (tenantId, other.id) ≠ (tenantId, row.id) := by
      intro same
      have isRow := ModuleCatalog.eq_of_id otherListed listed (congrArg Prod.snd same)
      rw [isRow] at named
      exact own named.symm
    rw [OrderedDict.get_set_of_ne _ _ different]

variable {tenantModule : TenantAgentModule}

theorem keysIn_set_insert (listed : row ∈ catalog.rows)
    (isIn : ∃ state ∈ states, tenantModule.state = TextEnum.value state) :
    keysIn catalog (tenantModules.set (tenantId, row.id) tenantModule) tenantId states =
      insert row.moduleKey (keysIn catalog tenantModules tenantId states) := by
  apply Set.ext
  intro moduleKey
  rw [mem_keysIn_set listed, Set.mem_insert_iff]
  by_cases own : moduleKey = row.moduleKey
  · rw [if_pos own]
    exact iff_of_true isIn (.inl own)
  · rw [if_neg own]
    exact (or_iff_right own).symm

theorem keysIn_set_remove (listed : row ∈ catalog.rows)
    (isOut : ¬ ∃ state ∈ states, tenantModule.state = TextEnum.value state) :
    keysIn catalog (tenantModules.set (tenantId, row.id) tenantModule) tenantId states =
      keysIn catalog tenantModules tenantId states \ {row.moduleKey} := by
  apply Set.ext
  intro moduleKey
  rw [mem_keysIn_set listed, Set.mem_sdiff, Set.mem_singleton_iff]
  by_cases own : moduleKey = row.moduleKey
  · rw [if_pos own]
    exact iff_of_false isOut fun h => h.2 own
  · rw [if_neg own]
    exact (and_iff_left own).symm

variable {written : TenantAgentModule}

theorem keysIn_set_same (listed : row ∈ catalog.rows) {old : TenantAgentModule}
    (stored : tenantModules.get (tenantId, row.id) = some old) (same : written.state = old.state) :
    keysIn catalog (tenantModules.set (tenantId, row.id) written) tenantId states =
      keysIn catalog tenantModules tenantId states := by
  apply Set.ext
  intro moduleKey
  rw [mem_keysIn_set listed]
  by_cases own : moduleKey = row.moduleKey
  · rw [if_pos own, own, mem_keysIn listed, same]
    constructor
    · intro h
      exact ⟨old, stored, h⟩
    · intro h
      obtain ⟨found, isStored, h⟩ := h
      rw [stored] at isStored
      cases isStored
      exact h
  · rw [if_neg own]

theorem keysIn_set_other {other : UUID} (different : tenantId ≠ other)
    (tenantModule : TenantAgentModule) :
    keysIn catalog (tenantModules.set (other, row.id) tenantModule) tenantId states =
      keysIn catalog tenantModules tenantId states := by
  unfold keysIn
  have untouched (moduleId : UUID) :
      (tenantModules.set (other, row.id) tenantModule).get (tenantId, moduleId) =
        tenantModules.get (tenantId, moduleId) := by
    apply OrderedDict.get_set_of_ne
    intro same
    exact different (congrArg Prod.fst same)
  simp only [untouched]
  rfl

variable {tenantStates : OrderedDict UUID TenantAgentModule} {entries : List (String × AgentModule)}
    {found : List (String × AgentModuleState)} {state : AgentModuleState}

theorem dependencyStates_mem (read : dependencyStates tenantStates entries = .ok found)
    (mem : (moduleKey, state) ∈ found) :
    ∃ row, (moduleKey, row) ∈ entries ∧ ∃ tenantModule,
      tenantStates.get row.id = some tenantModule ∧
        tenantModule.state = TextEnum.value state := by
  induction entries generalizing found with
  | nil =>
    cases read
    cases mem
  | cons entry rest ih =>
    obtain ⟨key, row⟩ := entry
    simp only [dependencyStates] at read
    cases own : tenantStates.get row.id with
    | none =>
      rw [own] at read
      obtain ⟨later, isIn, h⟩ := ih read mem
      exact ⟨later, List.mem_cons_of_mem _ isIn, h⟩
    | some tenantModule =>
      rw [own] at read
      obtain ⟨first, text, read⟩ := bind_ok.mp read
      obtain ⟨others, readOthers, same⟩ := bind_ok.mp read
      cases same
      rcases List.mem_cons.mp mem with isFirst | isLater
      · cases isFirst
        exact ⟨row, List.mem_cons_self, tenantModule, own, readEnum_ok.mp text⟩
      · obtain ⟨later, isIn, h⟩ := ih readOthers isLater
        exact ⟨later, List.mem_cons_of_mem _ isIn, h⟩

theorem dependencyStates_keys (read : dependencyStates tenantStates entries = .ok found) :
    (found.map Prod.fst).Sublist (entries.map Prod.fst) := by
  induction entries generalizing found with
  | nil =>
    cases read
    exact .slnil
  | cons entry rest ih =>
    obtain ⟨key, row⟩ := entry
    simp only [dependencyStates] at read
    cases own : tenantStates.get row.id with
    | none =>
      rw [own] at read
      exact (ih read).cons _
    | some tenantModule =>
      rw [own] at read
      obtain ⟨first, _, read⟩ := bind_ok.mp read
      obtain ⟨others, readOthers, same⟩ := bind_ok.mp read
      cases same
      exact (ih readOthers).cons_cons _

theorem dependencyStatesByKey_get {dependencies : List String}
    {found : OrderedDict String AgentModuleState}
    (read : dependencyStatesByKey (loadTenantModuleStates tenantModules tenantId)
      (catalog.loadModulesByKeys dependencies) = .ok found)
    (stored : found.get moduleKey = some state) (isIn : state ∈ states) :
    moduleKey ∈ keysIn catalog tenantModules tenantId states := by
  obtain ⟨entries, readEntries, same⟩ := bind_ok.mp read
  cases same
  have distinct := (catalog.loadModulesByKeys dependencies).distinct.sublist
    (dependencyStates_keys readEntries)
  have mem := (OrderedDict.get_ofEntries_eq_some distinct).mp stored
  obtain ⟨row, listed, tenantModule, own, text⟩ := dependencyStates_mem readEntries mem
  have offered := ((ModuleCatalog.get_loadModulesByKeys dependencies).mp
    (OrderedDict.get_of_mem_entries listed)).2
  rw [get_loadTenantModuleStates] at own
  exact ⟨row, offered.listed, offered.named, tenantModule, own, state, isIn, text⟩

theorem ensureDbModuleDependencies_ok
    (passed : ensureDbModuleDependencies catalog tenantModules tenantId row requireEnabled =
      .ok ()) {dependency : String} (needed : dependency ∈ row.dependencies) :
    dependency ∈ keysIn catalog tenantModules tenantId (allowedStates requireEnabled) := by
  unfold ensureDbModuleDependencies at passed
  have some_ : row.dependencies ≠ [] := List.ne_nil_of_mem needed
  rw [if_neg some_] at passed
  obtain ⟨found, read, passed⟩ := bind_ok.mp passed
  have complete := not_not.mp (guard_ok.mp passed).1
  have present := List.filter_eq_nil_iff.mp complete dependency needed
  cases stored : found.get dependency with
  | none =>
    rw [stored] at present
    exact absurd rfl present
  | some state =>
    rw [stored] at present
    refine dependencyStatesByKey_get read stored ?_
    exact not_not.mp fun missing => present (decide_eq_true missing)

inductive ModuleChange (call : ModuleCall) (tables : ModuleTables) : TenantModules → Prop
  | none : ModuleChange call tables tables.tenantModules
  | kept {row : AgentModule} {written : TenantAgentModule}
      (install : call.operation = .install)
      (offered : tables.catalog.Offers call.moduleKey row)
      (same : ∃ old, tables.tenantModules.get (call.tenantId, row.id) = some old ∧
        written.state = old.state) :
      ModuleChange call tables (tables.tenantModules.set (call.tenantId, row.id) written)
  | installed {row : AgentModule} {written : TenantAgentModule}
      (install : call.operation = .install)
      (offered : tables.catalog.Offers call.moduleKey row)
      (ready : ∀ dependency ∈ row.dependencies,
        dependency ∈ installedKeys tables.catalog tables.tenantModules call.tenantId)
      (text : written.state = TextEnum.value AgentModuleState.installed)
      (absent : row.moduleKey ∉
        enabledKeys tables.catalog tables.tenantModules call.tenantId) :
      ModuleChange call tables (tables.tenantModules.set (call.tenantId, row.id) written)
  | enabled {row : AgentModule} {written : TenantAgentModule}
      (enable : call.operation = .enable)
      (offered : tables.catalog.Offers call.moduleKey row)
      (ready : ∀ dependency ∈ row.dependencies,
        dependency ∈ enabledKeys tables.catalog tables.tenantModules call.tenantId)
      (text : written.state = TextEnum.value AgentModuleState.enabled) :
      ModuleChange call tables (tables.tenantModules.set (call.tenantId, row.id) written)
  | disabled {row : AgentModule} {written : TenantAgentModule}
      (disable : call.operation = .disable)
      (offered : tables.catalog.Offers call.moduleKey row)
      (licensed : ∃ license, call.license = .ok license ∧
        ensureDbModuleLicensed row license = .ok ())
      (text : written.state = TextEnum.value AgentModuleState.disabled) :
      ModuleChange call tables (tables.tenantModules.set (call.tenantId, row.id) written)

variable {call : ModuleCall} {tables after : ModuleTables}
  {response : AgentModuleActionResponse}

theorem committed_ok {α : Type} {result stored : α}
    (returned : committed call result = .ok stored) : stored = result := by
  unfold committed at returned
  split at returned
  · cases returned
  · cases returned
    rfl

theorem isInstalledLike_iff {state : String} :
    isInstalledLike state = true ↔ ∃ named ∈ allowedStates false, state = TextEnum.value named := by
  simp only [isInstalledLike, allowedStates, Bool.or_eq_true, beq_iff_eq, Bool.false_eq_true,
    if_false, List.mem_cons, List.not_mem_nil, or_false]
  constructor
  · intro h
    rcases h with (installed | enabled) | disabled
    · exact ⟨.installed, .inr (.inl rfl), installed⟩
    · exact ⟨.enabled, .inl rfl, enabled⟩
    · exact ⟨.disabled, .inr (.inr rfl), disabled⟩
  · intro h
    obtain ⟨named, isIn, text⟩ := h
    rcases isIn with rfl | rfl | rfl
    · exact .inl (.inr text)
    · exact .inl (.inl text)
    · exact .inr text

theorem getOrCreate_installed {moduleId : UUID}
    (installed : isInstalledLike
      (getOrCreateTenantModule tenantModules tenantId moduleId).state = true) :
    tenantModules.get (tenantId, moduleId) =
      some (getOrCreateTenantModule tenantModules tenantId moduleId) := by
  unfold getOrCreateTenantModule at installed ⊢
  cases stored : tenantModules.get (tenantId, moduleId) with
  | none =>
    rw [stored] at installed
    exact absurd installed (by decide)
  | some old => rfl

theorem getOrCreate_not_installed (listed : row ∈ catalog.rows)
    (new : ¬ isInstalledLike
      (getOrCreateTenantModule tenantModules tenantId row.id).state = true) :
    row.moduleKey ∉ installedKeys catalog tenantModules tenantId := by
  intro mem
  obtain ⟨old, stored, isIn⟩ := (mem_keysIn listed).mp mem
  apply new
  unfold getOrCreateTenantModule
  rw [stored]
  exact isInstalledLike_iff.mpr isIn

theorem installAgentModule_change (install : call.operation = .install)
    (returned : installAgentModule call tables = .ok (response, after)) :
    after.catalog = tables.catalog ∧ ModuleChange call tables after.tenantModules := by
  obtain ⟨row, named, returned⟩ := bind_ok.mp returned
  obtain ⟨license, _, returned⟩ := bind_ok.mp returned
  obtain ⟨_, _, returned⟩ := bind_ok.mp returned
  obtain ⟨_, dependencies, returned⟩ := bind_ok.mp returned
  obtain ⟨state, _, returned⟩ := bind_ok.mp returned
  cases committed_ok returned
  have offered := ModuleCatalog.getModuleRow_ok.mp named
  refine ⟨rfl, ?_⟩
  by_cases installed : isInstalledLike
      (getOrCreateTenantModule tables.tenantModules call.tenantId row.id).state = true
  · simp only [if_pos installed]
    exact .kept install offered ⟨_, getOrCreate_installed installed, rfl⟩
  · simp only [if_neg installed]
    refine .installed install offered ?_ rfl ?_
    · intro dependency needed
      exact ensureDbModuleDependencies_ok dependencies needed
    · intro enabled
      exact getOrCreate_not_installed offered.listed installed (enabledKeys_subset enabled)

theorem enableAgentModule_change (enable : call.operation = .enable)
    (returned : enableAgentModule call tables = .ok (response, after)) :
    after.catalog = tables.catalog ∧ ModuleChange call tables after.tenantModules := by
  obtain ⟨row, named, returned⟩ := bind_ok.mp returned
  obtain ⟨license, _, returned⟩ := bind_ok.mp returned
  obtain ⟨_, _, returned⟩ := bind_ok.mp returned
  obtain ⟨_, dependencies, returned⟩ := bind_ok.mp returned
  cases committed_ok returned
  refine ⟨rfl, .enabled enable (ModuleCatalog.getModuleRow_ok.mp named) ?_ rfl⟩
  intro dependency needed
  exact ensureDbModuleDependencies_ok dependencies needed

theorem disableAgentModule_change (disable : call.operation = .disable)
    (returned : disableAgentModule isoformat call tables = .ok (response, after)) :
    after.catalog = tables.catalog ∧ ModuleChange call tables after.tenantModules := by
  obtain ⟨row, named, returned⟩ := bind_ok.mp returned
  obtain ⟨license, read, returned⟩ := bind_ok.mp returned
  obtain ⟨_, licensed, returned⟩ := bind_ok.mp returned
  obtain ⟨laterLicense, _, returned⟩ := bind_ok.mp returned
  cases committed_ok returned
  exact ⟨rfl, .disabled disable (ModuleCatalog.getModuleRow_ok.mp named) ⟨license, read, licensed⟩
    rfl⟩

theorem moduleMachine_change (call : ModuleCall) (tables : ModuleTables) :
    ((moduleMachine isoformat).next tables call).catalog = tables.catalog ∧
      ModuleChange call tables ((moduleMachine isoformat).next tables call).tenantModules := by
  simp only [Machine.next, moduleMachine]
  cases run : runOperation isoformat call tables with
  | error x => exact ⟨rfl, .none⟩
  | ok result =>
    obtain ⟨response, after⟩ := result
    unfold runOperation at run
    cases operation : call.operation with
    | install =>
      rw [operation] at run
      exact installAgentModule_change operation run
    | enable =>
      rw [operation] at run
      exact enableAgentModule_change operation run
    | disable =>
      rw [operation] at run
      exact disableAgentModule_change operation run

theorem supplied_iff :
    DependenciesSatisfied catalog tenantModules tenantId ↔
      Supplied (Needs catalog) (enabledKeys catalog tenantModules tenantId)
        (installedKeys catalog tenantModules tenantId) := by
  constructor
  · intro h
    exact ⟨enabledKeys_subset, h.1, h.2⟩
  · intro h
    exact ⟨h.enabled_needs, h.present_needs⟩

theorem needs_iff (listed : row ∈ catalog.rows) {dependency : String} :
    Needs catalog row.moduleKey dependency ↔ dependency ∈ row.dependencies := by
  constructor
  · intro h
    obtain ⟨other, otherListed, named, needed⟩ := h
    have same : other = row := List.inj_on_of_nodup_map catalog.keysDistinct otherListed listed named
    rw [← same]
    exact needed
  · intro needed
    exact ⟨row, listed, rfl, needed⟩

/-- A disabling call of the tenant that passes the license gate names a module
that no enabled module needs, and that is installed or could be. -/
def DisablesSafely (tenantId : UUID) (tables : ModuleTables) (call : ModuleCall) : Prop :=
  call.tenantId = tenantId → call.operation = .disable →
    ∀ row, tables.catalog.Offers call.moduleKey row →
      (∃ license, call.license = .ok license ∧ ensureDbModuleLicensed row license = .ok ()) →
        (∀ other ∈ enabledKeys tables.catalog tables.tenantModules tenantId,
          ¬ Needs tables.catalog other row.moduleKey) ∧
        (row.moduleKey ∈ installedKeys tables.catalog tables.tenantModules tenantId ∨
          ∀ dependency ∈ row.dependencies,
            dependency ∈ installedKeys tables.catalog tables.tenantModules tenantId)

theorem not_enabled (text : written.state = TextEnum.value state) (other : state ≠ .enabled) :
    ¬ ∃ named ∈ allowedStates true, written.state = TextEnum.value named := by
  intro h
  obtain ⟨named, isIn, same⟩ := h
  rw [List.mem_singleton.mp isIn] at same
  exact other (TextEnum.injective (text.symm.trans same))

theorem change_keeps {modules : TenantModules}
    (satisfied : DependenciesSatisfied tables.catalog tables.tenantModules tenantId)
    (safe : DisablesSafely tenantId tables call) (change : ModuleChange call tables modules) :
    DependenciesSatisfied tables.catalog modules tenantId := by
  by_cases own : call.tenantId = tenantId
  · subst own
    rw [supplied_iff] at satisfied ⊢
    unfold enabledKeys installedKeys at satisfied ⊢
    cases change with
    | none => exact satisfied
    | kept install offered same =>
      obtain ⟨old, stored, same⟩ := same
      rw [keysIn_set_same offered.listed stored same, keysIn_set_same offered.listed stored same]
      exact satisfied
    | installed install offered ready text absent =>
      rw [keysIn_set_remove offered.listed (not_enabled text (by decide)),
        keysIn_set_insert offered.listed ⟨.installed, by decide, text⟩]
      unfold enabledKeys at absent
      rw [Set.sdiff_singleton_eq_self absent]
      exact satisfied.install fun b need => ready b ((needs_iff offered.listed).mp need)
    | enabled enable offered ready text =>
      rw [keysIn_set_insert offered.listed ⟨.enabled, by decide, text⟩,
        keysIn_set_insert offered.listed ⟨.enabled, by decide, text⟩]
      exact satisfied.enable fun b need => ready b ((needs_iff offered.listed).mp need)
    | disabled disable offered licensed text =>
      obtain ⟨unused, ready⟩ := safe rfl disable _ offered licensed
      rw [keysIn_set_remove offered.listed (not_enabled text (by decide)),
        keysIn_set_insert offered.listed ⟨.disabled, by decide, text⟩]
      refine satisfied.disable unused (ready.imp_right ?_)
      intro ready b need
      exact ready b ((needs_iff offered.listed).mp need)
  · have elsewhere {row : AgentModule} {written : TenantAgentModule}
        (states : List AgentModuleState) :
        keysIn tables.catalog (tables.tenantModules.set (call.tenantId, row.id) written) tenantId
            states = keysIn tables.catalog tables.tenantModules tenantId states :=
      keysIn_set_other (Ne.symm own) written
    unfold DependenciesSatisfied enabledKeys installedKeys at satisfied ⊢
    cases change with
    | none => exact satisfied
    | kept | installed | enabled | disabled =>
      rw [elsewhere, elsewhere]
      exact satisfied

/-- From no modules, every run whose disabling calls are safe satisfies the
dependencies in the state it reaches. -/
theorem dependencies_satisfied_of_safe_disables (isoformat : Instant → String)
    {start : ModuleTables} {calls : List ModuleCall}
    (empty : ∀ moduleId, start.tenantModules.get (tenantId, moduleId) = none)
    (safe : (moduleMachine isoformat).Along (DisablesSafely tenantId) start calls) :
    DependenciesSatisfied start.catalog
      ((moduleMachine isoformat).after start calls).tenantModules tenantId := by
  have noKeys (states : List AgentModuleState) :
      keysIn start.catalog start.tenantModules tenantId states = ∅ := by
    apply Set.eq_empty_of_forall_notMem
    intro moduleKey mem
    obtain ⟨row, _, _, tenantModule, stored, _⟩ := mem
    rw [empty] at stored
    cases stored
  have first : DependenciesSatisfied start.catalog start.tenantModules tenantId := by
    rw [supplied_iff, enabledKeys, installedKeys, noKeys, noKeys]
    exact .empty
  have reached := Machine.keeps
    (P := fun s => s.catalog = start.catalog ∧
      DependenciesSatisfied start.catalog s.tenantModules tenantId)
    (fun s call h ok => by
      obtain ⟨sameCatalog, change⟩ := @moduleMachine_change isoformat call s
      rw [h.1] at sameCatalog
      refine ⟨sameCatalog, ?_⟩
      rw [← h.1]
      exact change_keeps (h.1 ▸ h.2) ok change)
    ⟨rfl, first⟩ safe
  exact reached.2

def officeTables : ModuleTables where
  catalog := officeModules
  tenantModules := .empty
  instances := .empty

def fullLicense : LicenseStatusResponse :=
  { catalogLicense with
    allowedFeatures := ["feature.agent_catalog", "feature.model_budget"], featureCount := 2 }

def officeCall (operation : ModuleOperation) (moduleKey : String) : ModuleCall where
  operation := operation
  tenantId := 1
  moduleKey := moduleKey
  license := .ok fullLicense

def enableFinance : List ModuleCall :=
  [officeCall .enable "agent.report_writer", officeCall .enable "agent.finance"]

theorem finance_left_without_report_writer :
    ¬ DependenciesSatisfied officeTables.catalog
      ((moduleMachine toString).after officeTables
        (enableFinance ++ [officeCall .disable "agent.report_writer"])).tenantModules 1 := by
  intro satisfied
  have finance_ : ((moduleMachine toString).after officeTables
      (enableFinance ++ [officeCall .disable "agent.report_writer"])).tenantModules.get (1, 7) =
        some { state := "enabled", installedAt := some 0, enabledAt := some 0 } := by
    decide +kernel
  have writer : ((moduleMachine toString).after officeTables
      (enableFinance ++ [officeCall .disable "agent.report_writer"])).tenantModules.get (1, 5) =
        some { state := "disabled", installedAt := some 0, enabledAt := some 0
               disabledAt := some 0 } := by
    decide +kernel
  have isEnabled := satisfied.1 "agent.finance"
    ⟨finance, by decide, rfl, _, finance_, .enabled, by decide, rfl⟩ "agent.report_writer"
    ⟨finance, by decide, rfl, by decide⟩
  have listed : reportWriter ∈ officeModules.rows := List.mem_cons_self
  obtain ⟨tenantModule, stored, enabled⟩ := (mem_keysIn listed).mp isEnabled
  have same := Option.some.inj (stored.symm.trans writer)
  rw [same] at enabled
  exact absurd enabled (by decide)

theorem enableFinance_satisfied :
    DependenciesSatisfied officeTables.catalog
      ((moduleMachine toString).after officeTables enableFinance).tenantModules 1 := by
  refine dependencies_satisfied_of_safe_disables toString ?_ ⟨?_, ?_, trivial⟩
  · intro moduleId
    rfl
  · intro _ disables
    cases disables
  · intro _ disables
    cases disables

end AgentHive.AgentModuleService
