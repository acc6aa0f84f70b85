import AgentHive.Services.AgentModules

/-!
Reconciliation: the active agent instances of a tenant whose module is not
runnable under a license status are disabled.
-/

namespace AgentHive

structure AgentInstance where
  tenantId : UUID
  agentKey : String
  moduleKey : String
  status : String := "draft"
  updatedAt : Instant := 0
  metadataJson : Dict := []
deriving DecidableEq

abbrev AgentInstances := OrderedDict UUID AgentInstance

namespace InstanceReconcile

open AgentModuleService

structure Request where
  tenantId : UUID
  license : LicenseStatusResponse
  now : Instant
  reason : String
  moduleKeys : Option (List String) := none

/-- `_active_agent_instances` selects the row. -/
def isSelected (request : Request) (row : AgentInstance) : Bool :=
  row.tenantId == request.tenantId && row.status == "active" &&
    match request.moduleKeys with
    | none => true
    | some keys => decide (row.moduleKey ∈ keys)

variable (isoformat : Instant → String)

def runtimeDisabled (request : Request) (row : AgentInstance) : AgentInstance :=
  { row with
    status := "disabled"
    updatedAt := request.now
    metadataJson := row.metadataJson.merge
      [("runtime_disabled_at", .str (isoformat request.now)),
        ("runtime_disabled_gate", .str "license_module_reconcile"),
        ("runtime_disabled_reason", .str request.reason)] }

variable (catalog : ModuleCatalog) (tenantModules : TenantModules)

def reconcileRow (request : Request) (row : AgentInstance) : AgentInstance :=
  if isSelected request row &&
      decide (row.moduleKey ∉
        runnableModuleKeys catalog tenantModules request.tenantId request.license) then
    runtimeDisabled isoformat request row
  else row

/-- `reconcile_agent_instances_for_license_status`, with the number of rows it
disabled. -/
def reconcileAgentInstances (request : Request) (instances : AgentInstances) :
    Nat × AgentInstances :=
  ((instances.entries.filter fun entry =>
      isSelected request entry.2 && decide (entry.2.moduleKey ∉
        runnableModuleKeys catalog tenantModules request.tenantId request.license)).length,
    instances.mapValues fun _ row => reconcileRow isoformat catalog tenantModules request row)

def Disabled (before after : AgentInstances) (instanceId : UUID) : Prop :=
  ∃ first, before.get instanceId = some first ∧ first.status ≠ "disabled" ∧
    ∃ second, after.get instanceId = some second ∧ second.status = "disabled"

def ActiveInstance (instances : AgentInstances) (tenantId instanceId : UUID)
    (row : AgentInstance) : Prop :=
  instances.get instanceId = some row ∧ row.tenantId = tenantId ∧ row.status = "active"

variable {isoformat catalog tenantModules} {request : Request} {instances : AgentInstances}
  {instanceId : UUID}

theorem ActiveInstance.exists_iff {tenantId : UUID} {row : AgentInstance}
    (active : ActiveInstance instances tenantId instanceId row)
    {P : AgentInstance → Prop} :
    (∃ other, ActiveInstance instances tenantId instanceId other ∧ P other) ↔ P row := by
  constructor
  · intro h
    obtain ⟨other, found, holds⟩ := h
    have same : some row = some other := active.1.symm.trans found.1
    cases same
    exact holds
  · intro holds
    exact ⟨row, active, holds⟩

theorem reconcile_disabled_iff (allModules : request.moduleKeys = none) :
    Disabled instances
        (reconcileAgentInstances isoformat catalog tenantModules request instances).2 instanceId ↔
      ∃ row, ActiveInstance instances request.tenantId instanceId row ∧
        row.moduleKey ∉
          runnableModuleKeys catalog tenantModules request.tenantId request.license := by
  unfold Disabled ActiveInstance
  simp only [reconcileAgentInstances, OrderedDict.get_mapValues]
  constructor
  · intro h
    obtain ⟨row, stored, enabled, after, changed, disabled⟩ := h
    rw [stored, Option.map_some] at changed
    cases changed
    unfold reconcileRow at disabled
    split at disabled
    · rename_i selected
      simp only [isSelected, allModules, Bool.and_true, Bool.and_eq_true, beq_iff_eq,
        decide_eq_true_eq] at selected
      exact ⟨row, ⟨stored, selected.1⟩, selected.2⟩
    · exact absurd disabled enabled
  · intro h
    obtain ⟨row, ⟨stored, own, active⟩, blocked⟩ := h
    refine ⟨row, stored, by rw [active]; decide, _, by rw [stored]; rfl, ?_⟩
    have selected : (isSelected request row && decide (row.moduleKey ∉
        runnableModuleKeys catalog tenantModules request.tenantId request.license)) = true := by
      simp [isSelected, allModules, own, active, blocked]
    have changed : reconcileRow isoformat catalog tenantModules request row =
        runtimeDisabled isoformat request row := if_pos selected
    exact congrArg AgentInstance.status changed

end InstanceReconcile
end AgentHive
