import AgentHive.Llm.Schemas
import Mathlib.Data.List.Sort

/-!
The cost center of a call: the one its context names, else the one of the user in the
department of the call, else the one of the user's primary department.
-/

namespace AgentHive

structure BoundDepartment where
  userId : UUID
  departmentId : UUID
  departmentTenantId : UUID
  costCenterId : UUID
  costCenterTenantId : UUID
  isActive : Bool
  isPrimary : Bool
  createdAt : Int
deriving DecidableEq

namespace CostCenter

def binds (context : LLMRequestContext) (userId : UUID) (row : BoundDepartment) : Bool :=
  row.userId == userId && row.departmentTenantId == context.tenantId &&
    row.costCenterTenantId == context.tenantId && row.isActive

def ofDepartment (rows : List BoundDepartment) (context : LLMRequestContext) (userId : UUID) :
    Option UUID :=
  match context.departmentId with
  | none => none
  | some departmentId =>
    (rows.find? fun row => row.departmentId == departmentId && binds context userId row).map
      (·.costCenterId)

def comesBefore (row other : BoundDepartment) : Bool :=
  (row.isPrimary && !other.isPrimary) ||
    (row.isPrimary == other.isPrimary && decide (row.createdAt ≤ other.createdAt))

def ofPrimaryDepartment (rows : List BoundDepartment) (context : LLMRequestContext)
    (userId : UUID) : Option UUID :=
  (((rows.filter (binds context userId)).insertionSort fun row other =>
    comesBefore row other = true).head?).map (·.costCenterId)

def ofUser (rows : List BoundDepartment) (context : LLMRequestContext) (userId : UUID) :
    Option UUID × String :=
  match ofDepartment rows context userId with
  | some costCenterId => (some costCenterId, "user_department")
  | none =>
    match ofPrimaryDepartment rows context userId with
    | some costCenterId => (some costCenterId, "user_primary_department")
    | none => (none, "unresolved")

/-- `resolve_cost_center`, over the rows that the statements find; there are none when a
statement raises. -/
def resolveCostCenter (found : Option (List BoundDepartment)) (context : LLMRequestContext) :
    Option UUID × String :=
  match context.costCenterId, context.userId, found with
  | some costCenterId, _, _ => (some costCenterId, "context")
  | none, none, _ => (none, "unresolved")
  | none, some _, none => (none, "resolution_failed")
  | none, some userId, some rows => ofUser rows context userId

variable {rows : List BoundDepartment} {found : Option (List BoundDepartment)}
  {context other : LLMRequestContext} {userId costCenterId : UUID}

theorem binds_congr (tenant : context.tenantId = other.tenantId) :
    binds context userId = binds other userId := by
  funext row
  rw [binds, binds, tenant]

theorem resolveCostCenter_congr (tenant : context.tenantId = other.tenantId)
    (user : context.userId = other.userId) (department : context.departmentId = other.departmentId)
    (named : context.costCenterId = other.costCenterId) :
    resolveCostCenter found context = resolveCostCenter found other := by
  have same : ∀ rows userId, ofUser rows context userId = ofUser rows other userId := by
    intro rows userId
    simp only [ofUser, ofDepartment, ofPrimaryDepartment, binds_congr tenant, department]
  simp only [resolveCostCenter, user, named, same]

end CostCenter
end AgentHive
