import AgentHive.Llm.PolicyValidation
import AgentHive.Process.Fallible
import AgentHive.Process.Machine
import AgentHive.Services.OrgAdmin
import AgentHive.Store.Forest
import AgentHive.Store.StableSort

/-!
Departments: how they are created, moved and deleted, and the tree in which they
are listed.

A call that raises is rolled back. Whatever statement of it fails, nothing is
stored.
-/

namespace AgentHive.Departments

open Forest
open PolicyValidation (strip)

structure Department where
  id : UUID
  tenantId : UUID
  parentId : Option UUID
  name : String
  description : Option String
  sortOrder : Int := 0
  createdAt : Int
deriving DecidableEq

structure DepartmentCreateRequest where
  parentId : Option UUID := none
  name : String
  description : Option String := none
  sortOrder : Int := 0

/-- The fields of an update. `None` for a name or an order is as good as no value;
the other two fields are set or not, and may be set to `None`. -/
structure DepartmentUpdateRequest where
  parentId : Option (Option UUID) := none
  name : Option String := none
  description : Option (Option String) := none
  sortOrder : Option Int := none

structure CostCenter where
  id : UUID
  tenantId : UUID
  departmentId : Option UUID
deriving DecidableEq

structure DepartmentTables where
  departments : List Department
  userDepartments : List UserDepartment
  costCenters : List CostCenter

inductive DepartmentCall
  | create (principal : Principal) (payload : DepartmentCreateRequest) (newId : UUID)
      (createdAt : Int) (fault : Option Exc)
  | update (principal : Principal) (departmentId : UUID) (payload : DepartmentUpdateRequest)
      (fault : Option Exc)
  | delete (principal : Principal) (departmentId : UUID) (fault : Option Exc)
  /-- Users and cost centers are bound to departments elsewhere. -/
  | bind (userDepartments : List UserDepartment) (costCenters : List CostCenter)

inductive DepartmentAnswer
  | department (row : Department)
  | deleted (id : UUID)
  | bound

variable (tables : DepartmentTables)

def departmentsOf (tenantId : UUID) : List Department :=
  tables.departments.filter fun row => row.tenantId = tenantId

def getDepartment (tenantId departmentId : UUID) : Option Department :=
  (departmentsOf tables tenantId).find? fun row => row.id = departmentId

def departmentHasReferences (tenantId departmentId : UUID) : Bool :=
  ((departmentsOf tables tenantId).any fun row => row.parentId = some departmentId) ||
    (tables.userDepartments.any fun row => row.departmentId = departmentId) ||
    tables.costCenters.any fun row =>
      row.tenantId = tenantId ∧ row.departmentId = some departmentId

def refusal (statusCode : Nat) (detail : String) : Exc := .http statusCode (.text detail)

def storageFault : Exc → Exc
  | .os _ _ | .sqlAlchemy _ _ => refusal 503 "Department storage is not available."
  | x => x

def checkFault (fault : Option Exc) : Except Exc Unit :=
  match fault with
  | some x => .error (storageFault x)
  | none => .ok ()

def checkParent (tenantId : UUID) (parentId : Option UUID) : Except Exc Unit :=
  match parentId with
  | none => .ok ()
  | some parentId =>
    if getDepartment tables tenantId parentId = none then
      .error (refusal 404 "Parent department not found.")
    else .ok ()

def createDepartment (principal : Principal) (payload : DepartmentCreateRequest) (newId : UUID)
    (createdAt : Int) (fault : Option Exc) : Except Exc (DepartmentAnswer × DepartmentTables) := do
  checkFault fault
  checkParent tables principal.tenantId payload.parentId
  let row : Department :=
    { id := newId
      tenantId := principal.tenantId
      parentId := payload.parentId
      name := strip payload.name
      description := payload.description
      sortOrder := payload.sortOrder
      createdAt := createdAt }
  if tables.departments.any fun other => other.id = newId then
    .error (storageFault (.sqlAlchemy "IntegrityError" "departments_pkey"))
  else .ok (.department row, { tables with departments := tables.departments ++ [row] })

def updated (payload : DepartmentUpdateRequest) (row : Department) : Department :=
  { row with
    name := (payload.name.map strip).getD row.name
    description := payload.description.getD row.description
    parentId := payload.parentId.getD row.parentId
    sortOrder := payload.sortOrder.getD row.sortOrder }

def checkNotItself (department : Department) (parentId : Option UUID) : Except Exc Unit :=
  if parentId = some department.id then
    .error (refusal 409 "Department cannot be its own parent.")
  else .ok ()

def updateDepartment (principal : Principal) (departmentId : UUID)
    (payload : DepartmentUpdateRequest) (fault : Option Exc) :
    Except Exc (DepartmentAnswer × DepartmentTables) := do
  checkFault fault
  match getDepartment tables principal.tenantId departmentId with
  | none => .error (refusal 404 "Department not found.")
  | some department =>
    checkNotItself department (payload.parentId.getD none)
    checkParent tables principal.tenantId (payload.parentId.getD none)
    .ok (.department (updated payload department),
      { tables with
        departments := tables.departments.map fun row =>
          if row.id = department.id then updated payload row else row })

def deleteDepartment (principal : Principal) (departmentId : UUID) (fault : Option Exc) :
    Except Exc (DepartmentAnswer × DepartmentTables) := do
  checkFault fault
  match getDepartment tables principal.tenantId departmentId with
  | none => .error (refusal 404 "Department not found.")
  | some department =>
    if departmentHasReferences tables principal.tenantId department.id then
      .error (refusal 409
        "Departments with children, users, or cost centers cannot be deleted.")
    else
      .ok (.deleted departmentId,
        { tables with
          departments := tables.departments.filter fun row => row.id ≠ department.id })

def call :
    DepartmentCall → Except Exc (DepartmentAnswer × DepartmentTables)
  | .create principal payload newId createdAt fault =>
    createDepartment tables principal payload newId createdAt fault
  | .update principal departmentId payload fault =>
    updateDepartment tables principal departmentId payload fault
  | .delete principal departmentId fault => deleteDepartment tables principal departmentId fault
  | .bind userDepartments costCenters =>
    .ok (.bound,
      { tables with userDepartments := userDepartments, costCenters := costCenters })

def departmentMachine :
    Process.Machine DepartmentTables DepartmentCall (Except Exc DepartmentAnswer) :=
  ⟨fun tables input =>
    match call tables input with
    | .error x => (.error x, tables)
    | .ok (answer, after) => (.ok answer, after)⟩

/-- The order of a list of departments: by `sort_order`, then by `created_at`. -/
def comesFirst (row other : Department) : Prop :=
  row.sortOrder < other.sortOrder ∨
    row.sortOrder = other.sortOrder ∧ row.createdAt ≤ other.createdAt

instance : DecidableRel comesFirst := fun row other =>
  inferInstanceAs (Decidable (row.sortOrder < other.sortOrder ∨
    row.sortOrder = other.sortOrder ∧ row.createdAt ≤ other.createdAt))

variable (departments : List Department)

def childrenOf (node : Department) : List Department :=
  (departments.filter fun child => child.parentId = some node.id).insertionSort comesFirst

def rootsOf : List Department :=
  (departments.filter fun node =>
    ∀ parentId ∈ node.parentId, parentId ∉ departments.map Department.id).insertionSort comesFirst

/-- `_build_department_tree`. No node is deeper in its tree than there are nodes. -/
def buildDepartmentTree : List (Forest.Tree Department) :=
  (rootsOf departments).map (grow (childrenOf departments) departments.length)

structure DepartmentListResponse where
  departments : List Department
  tree : List (Forest.Tree Department)
  total : Nat

def listDepartments (tenantId : UUID) : DepartmentListResponse :=
  let items := (departmentsOf tables tenantId).insertionSort comesFirst
  { departments := items, tree := buildDepartmentTree items, total := items.length }

end AgentHive.Departments

namespace AgentHive.Departments

open Forest
open Process.Fallible

/-- Every department of the tenant is in the tree once; one without a parent stands
at the top, any other under its parent. -/
structure ShowsAll (departments : List Department) (tree : List (Forest.Tree Department)) :
    Prop where
  once : (flattenAll tree).Perm departments
  top : ∀ t ∈ tree, t.value.parentId = none
  under : ∀ t ∈ tree, t.Linked fun node child => child.parentId = some node.id

def MovesBelowItself (tables : DepartmentTables) : DepartmentCall → Prop
  | .update principal departmentId payload fault =>
    fault = none ∧ ∃ parentId, payload.parentId = some (some parentId) ∧
      Below Department.id Department.parentId (departmentsOf tables principal.tenantId) parentId
        departmentId
  | _ => False

structure Sound (tables : DepartmentTables) : Prop where
  distinct : (tables.departments.map Department.id).Nodup
  rooted : ∀ tenantId,
    Rooted Department.id Department.parentId (departmentsOf tables tenantId)

variable {tables after : DepartmentTables} {tenantId : UUID} {department : Department}

theorem perm_sorted (departments : List Department) :
    (departments.insertionSort comesFirst).Perm departments :=
  List.perm_insertionSort comesFirst departments

theorem lists_tree (departments : List Department) :
    Lists Department.id Department.parentId departments (childrenOf departments)
      (rootsOf departments) where
  children := fun _ _ => perm_sorted _
  roots := perm_sorted _

theorem buildDepartmentTree_showsAll {departments : List Department}
    (rooted : Rooted Department.id Department.parentId departments) :
    ShowsAll departments (buildDepartmentTree departments) where
  once := rooted.flatten_perm (lists_tree departments)
  top := by
    intro t mem
    obtain ⟨root, listed, same⟩ := List.mem_map.mp mem
    rw [← same, value_grow]
    obtain ⟨known, apart⟩ := List.mem_filter.mp ((perm_sorted _).mem_iff.mp listed)
    rw [Option.eq_none_iff_forall_ne_some]
    intro parentId named
    exact of_decide_eq_true apart parentId named (rooted.closed root known parentId named)
  under := by
    intro t mem
    obtain ⟨root, _, same⟩ := List.mem_map.mp mem
    rw [← same]
    refine linked_grow (fun node child listed => ?_) _ root
    have child_ := List.mem_filter.mp ((perm_sorted _).mem_iff.mp listed)
    exact of_decide_eq_true child_.2

theorem listDepartments_showsAll (sound : Sound tables) (tenantId : UUID) :
    ShowsAll (departmentsOf tables tenantId) (listDepartments tables tenantId).tree := by
  have sorted := perm_sorted (departmentsOf tables tenantId)
  have shows_ := buildDepartmentTree_showsAll ((sound.rooted tenantId).perm sorted)
  exact ⟨shows_.once.trans sorted, shows_.top, shows_.under⟩

theorem mem_departmentsOf :
    department ∈ departmentsOf tables tenantId ↔
      department ∈ tables.departments ∧ department.tenantId = tenantId := by
  simp [departmentsOf]

variable {departmentId : UUID}

theorem getDepartment_some (found : getDepartment tables tenantId departmentId = some department) :
    department ∈ departmentsOf tables tenantId ∧ department.id = departmentId := by
  refine ⟨List.mem_of_find?_eq_some found, ?_⟩
  have same := List.find?_some found
  simpa using same

theorem checkParent_ok {parentId : Option UUID}
    (checked : checkParent tables tenantId parentId = .ok ()) :
    ∀ k, parentId = some k → k ∈ (departmentsOf tables tenantId).map Department.id := by
  intro k named
  subst named
  simp only [checkParent] at checked
  cases found : getDepartment tables tenantId k with
  | none =>
    rw [found] at checked
    cases checked
  | some parent =>
    obtain ⟨listed, same⟩ := getDepartment_some found
    exact List.mem_map.mpr ⟨parent, listed, same⟩

theorem departmentsOf_map {change : Department → Department}
    (sameTenant : ∀ row, (change row).tenantId = row.tenantId) (other : UUID) :
    (tables.departments.map change).filter (fun row => row.tenantId = other) =
      (departmentsOf tables other).map change := by
  rw [departmentsOf, List.filter_map]
  refine congrArg (List.map change) (List.filter_congr fun row _ => ?_)
  rw [Function.comp_apply, sameTenant row]

variable {principal : Principal} {fault : Option Exc} {answer : DepartmentAnswer}

theorem createDepartment_sound (sound : Sound tables) {payload : DepartmentCreateRequest}
    {newId : UUID} {createdAt : Int}
    (done : createDepartment tables principal payload newId createdAt fault = .ok (answer, after)) :
    Sound after := by
  unfold createDepartment at done
  obtain ⟨_, _, done⟩ := bind_ok.mp done
  obtain ⟨_, checked, done⟩ := bind_ok.mp done
  obtain ⟨free, done⟩ := guard_ok.mp done
  cases done
  have fresh : newId ∉ tables.departments.map Department.id := by
    intro taken
    obtain ⟨row, listed, same⟩ := List.mem_map.mp taken
    exact free (List.any_eq_true.mpr ⟨row, listed, decide_eq_true same⟩)
  have freshIn : newId ∉ (departmentsOf tables principal.tenantId).map Department.id :=
    fun mem => fresh ((List.filter_sublist.map Department.id).subset mem)
  refine ⟨?_, fun other => ?_⟩
  · rw [List.map_append, List.map_singleton, ← List.concat_eq_append]
    exact sound.distinct.concat fresh
  · simp only [departmentsOf, List.filter_append]
    by_cases same : principal.tenantId = other
    · subst same
      simp only [List.filter_singleton, decide_true, cond_true]
      exact (sound.rooted principal.tenantId).insert freshIn (checkParent_ok checked)
    · simp only [List.filter_singleton, same, decide_false, cond_false, List.append_nil]
      exact sound.rooted other

theorem Sound.same_row (sound : Sound tables) {other : UUID} {row : Department}
    (listed : department ∈ departmentsOf tables tenantId)
    (mem : row ∈ departmentsOf tables other) (same : row.id = department.id) :
    department = row ∧ tenantId = other := by
  obtain ⟨first, own⟩ := mem_departmentsOf.mp listed
  obtain ⟨second, also⟩ := mem_departmentsOf.mp mem
  have equal := List.inj_on_of_nodup_map sound.distinct first second same.symm
  exact ⟨equal, own.symm.trans ((congrArg Department.tenantId equal).trans also)⟩

variable {payload : DepartmentUpdateRequest}

theorem newParent_allowed (sound : Sound tables)
    (listed : department ∈ departmentsOf tables tenantId)
    (other : ∀ l, payload.parentId = some (some l) → l ≠ department.id)
    (checked : checkParent tables tenantId (payload.parentId.getD none) = .ok ())
    (apart : ∀ l, payload.parentId = some (some l) →
      ¬ Below Department.id Department.parentId (departmentsOf tables tenantId) l department.id)
    (l : UUID) (named : (updated payload department).parentId = some l) :
    l ∈ (departmentsOf tables tenantId).map Department.id ∧ l ≠ department.id ∧
      ¬ Below Department.id Department.parentId (departmentsOf tables tenantId) l
        department.id := by
  cases given : payload.parentId with
  | none =>
    -- The parent is kept.
    have old : department.parentId = some l := by simpa [updated, given] using named
    have rooted := sound.rooted tenantId
    have edge : Below Department.id Department.parentId (departmentsOf tables tenantId)
        department.id l := .single ⟨department, listed, rfl, old⟩
    refine ⟨rooted.closed department listed l old, ?_, ?_⟩
    · intro same
      exact rooted.not_below_self department.id (same ▸ edge)
    · intro below
      exact rooted.not_below_self department.id (edge.trans below)
  | some parentId =>
    have new : parentId = some l := by simpa [updated, given] using named
    subst new
    rw [given] at checked
    exact ⟨checkParent_ok checked l rfl, other l given, apart l given⟩

theorem updateDepartment_sound (sound : Sound tables)
    (done : updateDepartment tables principal departmentId payload fault = .ok (answer, after))
    (apart : ¬ MovesBelowItself tables (.update principal departmentId payload fault)) :
    Sound after := by
  unfold updateDepartment at done
  obtain ⟨_, unfaulted, done⟩ := bind_ok.mp done
  cases found : getDepartment tables principal.tenantId departmentId with
  | none =>
    rw [found] at done
    cases done
  | some department =>
    rw [found] at done
    obtain ⟨_, notItself, done⟩ := bind_ok.mp done
    obtain ⟨_, checked, done⟩ := bind_ok.mp done
    cases done
    obtain ⟨listed, named⟩ := getDepartment_some found
    refine ⟨?_, fun other => ?_⟩
    · have ids : (tables.departments.map fun row =>
          if row.id = department.id then updated payload row else row).map Department.id =
          tables.departments.map Department.id := by
        rw [List.map_map]
        refine List.map_congr_left fun row _ => ?_
        rw [Function.comp_apply]
        split
        · rfl
        · rfl
      rw [ids]
      exact sound.distinct
    · have sameTenant : ∀ row : Department,
          (if row.id = department.id then updated payload row else row).tenantId =
            row.tenantId := by
        intro row
        split
        · rfl
        · rfl
      rw [departmentsOf, departmentsOf_map sameTenant other]
      refine (sound.rooted other).move (fun _ => rfl) ?_
      intro row mem here
      obtain ⟨rfl, rfl⟩ := sound.same_row listed mem here
      refine newParent_allowed sound mem ?_ checked ?_
      · intro l parentNamed same
        simp [checkNotItself, parentNamed, same] at notItself
      · intro l parentNamed below
        refine apart ⟨?_, l, parentNamed, named ▸ below⟩
        cases fault with
        | none => rfl
        | some x => cases unfaulted

theorem deleteDepartment_sound (sound : Sound tables)
    (done : deleteDepartment tables principal departmentId fault = .ok (answer, after)) :
    Sound after := by
  unfold deleteDepartment at done
  obtain ⟨_, _, done⟩ := bind_ok.mp done
  cases found : getDepartment tables principal.tenantId departmentId with
  | none =>
    rw [found] at done
    cases done
  | some department =>
    rw [found] at done
    obtain ⟨unused, done⟩ := guard_ok.mp done
    cases done
    refine ⟨sound.distinct.sublist (List.filter_sublist.map Department.id), fun other => ?_⟩
    have swapped : (tables.departments.filter fun row => row.id ≠ department.id).filter
          (fun row => row.tenantId = other) =
        (departmentsOf tables other).filter fun row => row.id ≠ department.id := by
      rw [departmentsOf, List.filter_comm]
    rw [departmentsOf, swapped]
    refine (sound.rooted other).remove ?_
    intro row mem isParent
    obtain ⟨listed, _⟩ := getDepartment_some found
    obtain ⟨parent, alsoListed, here⟩ :=
      List.mem_map.mp ((sound.rooted other).closed row mem department.id isParent)
    obtain ⟨rfl, rfl⟩ := sound.same_row listed alsoListed here
    refine unused ?_
    have child : ((departmentsOf tables principal.tenantId).any fun row =>
        row.parentId = some department.id) = true :=
      List.any_eq_true.mpr ⟨row, mem, decide_eq_true isParent⟩
    rw [departmentHasReferences, child, Bool.true_or, Bool.true_or]

theorem next_sound (sound : Sound tables) (input : DepartmentCall)
    (apart : ¬ MovesBelowItself tables input) : Sound (departmentMachine.next tables input) := by
  simp only [Process.Machine.next, departmentMachine]
  cases done : call tables input with
  | error x => exact sound
  | ok result =>
    obtain ⟨answer, after⟩ := result
    cases input with
    | create principal payload newId createdAt fault => exact createDepartment_sound sound done
    | update principal departmentId payload fault =>
      exact updateDepartment_sound sound done apart
    | delete principal departmentId fault => exact deleteDepartment_sound sound done
    | bind userDepartments costCenters =>
      cases done
      exact ⟨sound.distinct, sound.rooted⟩

def DepartmentTables.none : DepartmentTables :=
  { departments := [], userDepartments := [], costCenters := [] }

theorem sound_none : Sound .none where
  distinct := List.nodup_nil
  rooted := fun _ => Rooted.nil

/-- After calls none of which puts a department below itself, the tree of each
tenant shows all its departments in their places. -/
theorem department_tree_shows_all (calls : List DepartmentCall)
    (apart : departmentMachine.Along (fun tables input => ¬ MovesBelowItself tables input) .none
      calls) (tenantId : UUID) :
    let tables := departmentMachine.after .none calls
    ShowsAll (departmentsOf tables tenantId) (listDepartments tables tenantId).tree :=
  listDepartments_showsAll
    (Process.Machine.keeps (m := departmentMachine) (P := Sound)
      (fun _ input sound ok => next_sound sound input ok) sound_none apart) tenantId

def organizer : Principal := { userId := 2, tenantId := 1, permissions := [.departmentsWrite] }

def openDepartments : List DepartmentCall :=
  [.create organizer { name := "Sales" } 10 0 none,
    .create organizer { name := "Desks", parentId := some 10 } 11 1 none,
    .create organizer { name := "Operations" } 12 2 none]

def moveDesks : DepartmentCall := .update organizer 11 { parentId := some (some 12) } none

def moveSales : DepartmentCall := .update organizer 10 { parentId := some (some 11) } none

theorem moveDesks_apart :
    ¬ MovesBelowItself (departmentMachine.after .none openDepartments) moveDesks := by
  intro moved
  obtain ⟨_, parentId, same, below⟩ := moved
  cases same
  obtain ⟨_, ⟨row, mem, isTop, named⟩, _⟩ := Relation.TransGen.head'_iff.mp below
  have rows : departmentsOf (departmentMachine.after .none openDepartments) organizer.tenantId =
      [{ id := 10, tenantId := 1, parentId := none, name := "Sales", description := none,
         createdAt := 0 },
        { id := 11, tenantId := 1, parentId := some 10, name := "Desks", description := none,
          createdAt := 1 },
        { id := 12, tenantId := 1, parentId := none, name := "Operations", description := none,
          createdAt := 2 }] := by
    decide +kernel
  rw [rows] at mem
  simp only [List.mem_cons, List.not_mem_nil, or_false] at mem
  rcases mem with rfl | rfl | rfl
  · cases named
  · cases isTop
  · cases named

theorem moved_desks_shown :
    ShowsAll
      (departmentsOf (departmentMachine.after .none (openDepartments ++ [moveDesks])) 1)
      (listDepartments (departmentMachine.after .none (openDepartments ++ [moveDesks])) 1).tree :=
  department_tree_shows_all (openDepartments ++ [moveDesks])
    ((Process.Machine.along_append _ _ _).mpr
      ⟨⟨id, id, id, trivial⟩, moveDesks_apart, trivial⟩) 1

theorem moved_sales_lost :
    let tables := departmentMachine.after .none (openDepartments ++ [moveSales])
    (departmentsOf tables 1).map Department.id = [10, 11, 12] ∧
      (flattenAll (listDepartments tables 1).tree).map Department.id = [12] ∧
      ¬ ShowsAll (departmentsOf tables 1) (listDepartments tables 1).tree := by
  intro tables
  have stored : (departmentsOf tables 1).map Department.id = [10, 11, 12] := by decide +kernel
  have shown : (flattenAll (listDepartments tables 1).tree).map Department.id = [12] := by
    decide +kernel
  refine ⟨stored, shown, fun shows_ => ?_⟩
  have same := (shows_.once.map Department.id).length_eq
  rw [shown, stored] at same
  cases same

end AgentHive.Departments
