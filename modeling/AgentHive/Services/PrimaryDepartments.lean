import AgentHive.Services.OrgWrites

/-!
The primary department of a user. An update makes the first binding primary
where none is marked and refuses several; a creation writes the marks as they
are given.
-/

namespace AgentHive

open Process (Action Interleaved)

def OnePrimary (placed : List UserDepartment) : Prop :=
  ∀ d ∈ placed, (placed.countP fun e => e.userId = d.userId ∧ e.isPrimary) = 1

instance (placed : List UserDepartment) : Decidable (OnePrimary placed) :=
  inferInstanceAs (Decidable (∀ d ∈ placed, _))

def OrgWrite.place (placed : List UserDepartment) : OrgWrite → List UserDepartment
  | .insertUserDepartment row => placed ++ [row]
  | .deleteUserDepartments userId => placed.filter fun d => d.userId ≠ userId
  | _ => placed

def KeepsPrimary (writes : List OrgWrite) : Prop :=
  ∀ rows after : OrgRows, rows.Consistent → rows.applyAll writes = some after →
    OnePrimary rows.userDepartments → OnePrimary after.userDepartments

def OrgCall.MarksPrimary (call : OrgCall) : Prop :=
  match call.operation with
  | .createUser _ payload =>
    payload.departmentBindings = [] ∨ payload.departmentBindings.countP (·.isPrimary) = 1
  | _ => True

instance (call : OrgCall) : Decidable call.MarksPrimary := by
  unfold OrgCall.MarksPrimary
  split <;> infer_instance

section Rows

variable {rows after : OrgRows} {placed : List UserDepartment} {userId : UUID}
  {writes : List OrgWrite}

theorem userDepartments_applyAll (applied : rows.applyAll writes = some after) :
    after.userDepartments = writes.foldl OrgWrite.place rows.userDepartments := by
  induction writes generalizing rows with
  | nil =>
    cases applied
    rfl
  | cons w rest ih =>
    obtain ⟨next, first, others⟩ := Option.bind_eq_some_iff.mp applied
    rw [ih others, List.foldl_cons]
    congr 1
    cases w with
    | insertUser | insertRole =>
      obtain ⟨-, ⟨⟩⟩ := Option.ite_none_left_eq_some.mp first
      rfl
    | _ =>
      cases first
      rfl

theorem foldl_place_idle (idle : ∀ w ∈ writes, ∀ placed, OrgWrite.place placed w = placed) :
    writes.foldl OrgWrite.place placed = placed := by
  induction writes with
  | nil => rfl
  | cons w rest ih =>
    obtain ⟨first, others⟩ := List.forall_mem_cons.mp idle
    rw [List.foldl_cons, first, ih others]

theorem keepsPrimary_idle (idle : ∀ w ∈ writes, ∀ placed, OrgWrite.place placed w = placed) :
    KeepsPrimary writes := by
  intro rows after _ applied one
  rw [userDepartments_applyAll applied, foldl_place_idle idle]
  exact one

theorem OnePrimary.filter (one : OnePrimary placed) (userId : UUID) :
    OnePrimary (placed.filter fun d => d.userId ≠ userId) := by
  intro d mem
  obtain ⟨mem, other⟩ := List.mem_filter.mp mem
  rw [List.countP_filter, ← one d mem]
  refine List.countP_congr fun e _ => ?_
  simp only [Bool.and_eq_true, decide_eq_true_eq] at other ⊢
  exact ⟨fun both => both.1, fun same => ⟨same, same.1 ▸ other⟩⟩

theorem OnePrimary.append {new : List UserDepartment} (one : OnePrimary placed)
    (absent : ∀ d ∈ placed, d.userId ≠ userId) (own : ∀ d ∈ new, d.userId = userId)
    (marked : new = [] ∨ new.countP (·.isPrimary) = 1) : OnePrimary (placed ++ new) := by
  intro d mem
  rw [List.countP_append]
  rcases List.mem_append.mp mem with old | added
  · rw [one d old, List.countP_eq_zero.mpr fun e mem => ?_]
    simp [own e mem, (absent d old).symm]
  · rw [List.countP_eq_zero.mpr fun e mem => ?_, Nat.zero_add]
    · rw [← marked.resolve_left (List.ne_nil_of_mem added)]
      refine List.countP_congr fun e mem => ?_
      simp [own e mem, own d added]
    · simp [own d added, absent e mem]

/-- The rows that `departmentRow` inserts. -/
def placedRow (userId : UUID) (binding : UserDepartmentBindingRequest × Bool) : UserDepartment :=
  { userId := userId
    departmentId := binding.1.departmentId
    isLeader := binding.1.isLeader
    isPrimary := binding.2
    positionTitle := binding.1.positionTitle
    costCenterId := binding.1.costCenterId }

theorem foldl_place_departmentRows (bindings : List (UserDepartmentBindingRequest × Bool)) :
    (bindings.map fun b => OrgAdmin.departmentRow userId b.1 b.2).foldl OrgWrite.place placed =
      placed ++ bindings.map (placedRow userId) := by
  induction bindings generalizing placed with
  | nil => simp
  | cons b rest ih =>
    rw [List.map_cons, List.foldl_cons, ih, List.map_cons, ← List.singleton_append,
      ← List.append_assoc]
    rfl

theorem OnePrimary.place {bindings : List (UserDepartmentBindingRequest × Bool)}
    (one : OnePrimary placed) (absent : ∀ d ∈ placed, d.userId ≠ userId)
    (marked : bindings = [] ∨ bindings.countP (·.2) = 1) :
    OnePrimary (placed ++ bindings.map (placedRow userId)) := by
  refine one.append absent (fun d mem => ?_)
    (marked.imp (fun none => by rw [none]; rfl) fun sole => ?_)
  · obtain ⟨b, -, rfl⟩ := List.mem_map.mp mem
    rfl
  · rw [List.countP_map, ← sole]
    rfl

theorem roleRow_idle (grantedBy : UUID) (roles : List (UUID × Role)) :
    ∀ w ∈ roles.map (OrgAdmin.roleRow userId grantedBy), ∀ placed, OrgWrite.place placed w =
    placed := by
  intro w mem placed
  obtain ⟨role, -, rfl⟩ := List.mem_map.mp mem
  rfl

theorem createUser_keepsPrimary {user : User} {bindings : List UserDepartmentBindingRequest}
    (marked : bindings = [] ∨ bindings.countP (·.isPrimary) = 1) (roles : List (UUID × Role))
    (grantedBy : UUID) :
    KeepsPrimary ([.insertUser userId user] ++
      (bindings.map fun b => OrgAdmin.departmentRow userId b b.isPrimary) ++
      roles.map (OrgAdmin.roleRow userId grantedBy)) := by
  intro rows after consistent applied one
  have fresh : ∀ d ∈ rows.userDepartments, d.userId ≠ userId := by
    rintro d mem rfl
    obtain ⟨next, first, -⟩ := Option.bind_eq_some_iff.mp applied
    have known := (consistent.placed d mem).1
    rw [OrderedDict.mem_keys, OrgRows.fresh_of_insertUser first] at known
    exact absurd known (by simp)
  rw [userDepartments_applyAll applied, List.foldl_append, List.foldl_append,
    foldl_place_idle (roleRow_idle grantedBy roles)]
  have rows_eq : (bindings.map fun b => OrgAdmin.departmentRow userId b b.isPrimary) =
      (bindings.map fun b => (b, b.isPrimary)).map fun b =>
        OrgAdmin.departmentRow userId b.1 b.2 := by
    rw [List.map_map]
    rfl
  rw [rows_eq, foldl_place_departmentRows]
  refine one.place fresh (marked.imp (fun none => by rw [none]; rfl) fun sole => ?_)
  rw [List.countP_map, ← sole]
  rfl

/-- Where none is marked, the first is primary. -/
theorem countP_replaced {given : List UserDepartmentBindingRequest} (some : given ≠ [])
    (atMost : given.countP (·.isPrimary) ≤ 1) :
    (given.zipIdx.countP fun b => b.1.isPrimary || b.2 == 0 && !given.any (·.isPrimary)) = 1 := by
  by_cases marked : given.any (·.isPrimary) = true
  · have sole : 0 < given.countP (·.isPrimary) :=
      List.countP_pos_iff.mpr (by simpa using marked)
    have same := List.countP_map (p := (·.isPrimary)) (f := Prod.fst) (l := given.zipIdx)
    rw [List.zipIdx_map_fst] at same
    simp only [marked, Bool.not_true, Bool.and_false, Bool.or_false]
    rw [← show given.countP (·.isPrimary) = 1 by omega, same]
    rfl
  · obtain ⟨b, rest, rfl⟩ := List.exists_cons_of_ne_nil some
    rw [Bool.not_eq_true, List.any_eq_false] at marked
    have unmarked := List.any_eq_false.mpr marked
    rw [List.zipIdx_cons, List.countP_cons_of_pos (by simp [unmarked]), Nat.add_eq_right,
      List.countP_eq_zero]
    intro c mem
    have later := List.le_snd_of_mem_zipIdx mem
    have plain := marked c.1 (List.mem_cons_of_mem b (List.fst_mem_of_mem_zipIdx mem))
    simp [plain, unmarked]
    omega

/-- What an update writes, where at most one binding is marked. -/
theorem updateUser_keepsPrimary {columns : UserColumns}
    {bindings : Option (List UserDepartmentBindingRequest)}
    (atMost : ∀ given, bindings = some given → given.countP (·.isPrimary) ≤ 1)
    (roles : Option (List (UUID × Role))) (grantedBy : UUID) :
    KeepsPrimary ([.updateUser userId columns] ++
      (bindings.map (OrgAdmin.replaceUserDepartmentBindings userId)).getD [] ++
      (roles.map fun found => OrgAdmin.replaceUserRoles userId found grantedBy).getD []) := by
  intro rows after consistent applied one
  have unplaced : ∀ w ∈ (roles.map fun found =>
      OrgAdmin.replaceUserRoles userId found grantedBy).getD [],
      ∀ placed, OrgWrite.place placed w = placed := by
    cases roles with
    | none => exact fun w none => nomatch none
    | some found => exact List.forall_mem_cons.mpr ⟨fun _ => rfl, roleRow_idle grantedBy found⟩
  rw [userDepartments_applyAll applied, List.foldl_append, List.foldl_append,
    foldl_place_idle unplaced]
  cases bindings with
  | none => exact one
  | some given =>
    have rows_eq : OrgAdmin.replaceUserDepartmentBindings userId given =
        .deleteUserDepartments userId ::
          ((given.zipIdx.map fun b =>
            (b.1, b.1.isPrimary || b.2 == 0 && !given.any (·.isPrimary))).map fun b =>
              OrgAdmin.departmentRow userId b.1 b.2) := by
      rw [List.map_map]
      rfl
    rw [Option.map_some, Option.getD_some, rows_eq, List.foldl_cons, foldl_place_departmentRows]
    refine (one.filter userId).place (fun d mem => ?_) ?_
    · simpa using (List.mem_filter.mp mem).2
    · by_cases none : given = []
      · exact .inl (by rw [none]; rfl)
      · rw [List.countP_map]
        exact .inr (countP_replaced none (atMost given rfl))

end Rows

namespace OrgSession

variable {α β : Type} {Q : α → Prop} {m : OrgSession α}

def CommitsPrimary : OrgEffect → Prop
  | .commit writes => KeepsPrimary writes
  | _ => True

def Keeps (m : OrgSession α) : Prop :=
  m.Meets OrgAdmissible CommitsPrimary [] fun _ _ => True

theorem Writes.keeps {good : OrgWrite → Prop} (writes : Writes good m Q)
    (idle : ∀ w, good w → ∀ placed, OrgWrite.place placed w = placed) : Keeps m := by
  refine ((writes [] fun w none => nomatch none).weaken (fun _ => id) fun e asked => ?_).mono
    fun _ _ _ => trivial
  cases e with
  | commit writes => exact keepsPrimary_idle fun w mem => idle w (asked w mem)
  | _ => trivial

theorem Writes.nothing (silent : Writes (fun _ => False) m Q) :
    m.Meets OrgAdmissible CommitsPrimary [] fun r left => left = [] ∧ ∀ a, r = .ok a → Q a := by
  refine ((silent [] fun w none => nomatch none).weaken (fun _ => id) fun e asked => ?_).mono
    fun r left post => ⟨List.eq_nil_iff_forall_not_mem.mpr post.1, post.2⟩
  cases e with
  | commit writes =>
    exact keepsPrimary_idle fun w mem => (asked w mem).elim
  | _ => trivial

theorem Writes.keeps_bind (silent : Writes (fun _ => False) m Q) {f : α → OrgSession β}
    (rest : ∀ a, Q a → Keeps (f a)) : Keeps (m >>= f) := by
  rw [Keeps, Action.meets_bind]
  refine silent.nothing.mono fun r left post => ?_
  cases r with
  | error x => trivial
  | ok a => exact post.1 ▸ rest a (post.2 a rfl)

theorem Keeps.guarded (keeps : Keeps m) (unavailable : String) : Keeps (guarded unavailable m) := by
  unfold OrgSession.guarded
  rw [Keeps, Action.meets_tryCatch]
  refine keeps.mono fun r left _ => ?_
  cases r with
  | ok a => trivial
  | error x =>
    have handled : ∀ y : Exc, Action.Meets OrgAdmissible CommitsPrimary
        (rollback >>= fun _ => Action.throw y : OrgSession α) left fun _ _ => True := fun y =>
      ⟨trivial, fun r _ => by cases r <;> trivial⟩
    cases x with
    | http | os | sqlAlchemy => exact handled _
    | _ => trivial

/-- Three parts are added and committed as one transaction. -/
theorem keeps_commit {first second third : List OrgWrite}
    (whole : KeepsPrimary (first ++ second ++ third)) {rest : OrgSession β}
    (later : Writes (fun _ => False) rest fun _ => True) :
    Keeps (add first >>= fun _ => add second >>= fun _ => add third >>= fun _ =>
      commit >>= fun _ => rest) := by
  simp only [Keeps, add, commit, query, Action.meets_bind, Action.meets_get, Action.meets_modify,
    Action.meets_perform, List.nil_append]
  refine ⟨whole, fun r _ => ?_⟩
  cases r with
  | error x => trivial
  | ok u => exact later.nothing.mono fun _ _ _ => trivial

theorem writes_refused {condition : Prop} [Decidable condition] (statusCode : Nat)
    (detail : String) {good : OrgWrite → Prop} :
    Writes good (refuse condition statusCode detail) fun _ => ¬ condition := by
  unfold refuse
  split
  · exact writes_fail _ _
  · exact writes_pure ‹_›

end OrgSession

namespace OrgAdmin

open OrgSession

variable (principal : Principal)

theorem createUser_keeps (lib : TextLibrary) (newId : UUID) {payload : UserCreateRequest}
    (marked : payload.departmentBindings = [] ∨
      payload.departmentBindings.countP (·.isPrimary) = 1) :
    Keeps (createUser lib principal newId payload) := by
  refine Keeps.guarded ?_ _
  refine (ensureEmailAvailable_writes _ _ _).keeps_bind fun _ _ => ?_
  refine (writes_ask (e := .ensureLicenseCapacity _) trivial).keeps_bind fun _ _ => ?_
  refine (validateUserBindings_writes _ _).keeps_bind fun _ _ => ?_
  refine (loadRolesByIds_writes _ _).keeps_bind fun roles _ => ?_
  exact keeps_commit (createUser_keepsPrimary marked roles principal.userId)
    (toUserResponse_writes newId)

theorem validateRequestedBindings_atMost (tenantId : UUID)
    (bindings : Option (List UserDepartmentBindingRequest)) {good : OrgWrite → Prop} :
    Writes good (validateRequestedBindings tenantId bindings) fun _ =>
      ∀ given, bindings = some given → given.countP (·.isPrimary) ≤ 1 := by
  cases bindings with
  | none => exact writes_pure fun given none => nomatch none
  | some bindings =>
    refine (writes_refused _ _).bind fun _ few pending kept => ?_
    refine (validateUserBindings_writes tenantId bindings pending kept).mono fun r left post => ?_
    refine ⟨post.1, fun _ _ given same => ?_⟩
    cases same
    exact Nat.le_of_not_lt few

theorem updateUser_keeps (userId : UUID) (payload : UserUpdateRequest) :
    Keeps (updateUser principal userId payload) := by
  unfold updateUser
  split
  · exact trivial
  refine Keeps.guarded ((tenantUser_writes _ _).keeps_bind fun user _ => ?_) _
  refine Writes.keeps_bind (Q := fun _ => True) ?_ fun _ _ => ?_
  · unfold validateNewEmail
    split
    · exact ensureEmailAvailable_writes _ _ _
    · exact writes_pure trivial
  refine (loadRequestedRoles_writes _ _).keeps_bind fun roles _ => ?_
  refine (validateRequestedBindings_atMost _ _).keeps_bind fun _ atMost => ?_
  exact keeps_commit (updateUser_keepsPrimary atMost roles principal.userId)
    (toUserResponse_writes userId)

end OrgAdmin

open OrgSession OrgAdmin in
theorem OrgCall.endpoint_keeps (lib : TextLibrary) {call : OrgCall} (marked : call.MarksPrimary) :
    Keeps (call.endpoint lib) := by
  have idle := (call.endpoint_writes lib).keeps
  obtain ⟨principal, operation⟩ := call
  have permit : ∀ {permission : Permission} {endpoint : OrgSession OrgResponse},
      Keeps endpoint → Keeps (requirePermission permission principal endpoint) := by
    intro permission endpoint keeps
    unfold requirePermission
    split
    · exact keeps
    · exact trivial
  cases operation with
  | createUser newId payload => exact permit (createUser_keeps principal lib newId marked)
  | updateUser userId payload => exact permit (updateUser_keeps principal userId payload)
  | updateUserStatus | resetUserPassword | createRole | updateRole =>
    refine idle fun w may placed => ?_
    cases may
    rfl

variable {ι : Type} [DecidableEq ι]

/-- Where every creation marks one of the bindings that it brings, each user
with bindings has one that is primary. -/
theorem one_primary_department (lib : TextLibrary) (calls : ι → OrgCall) {tables : OrgTables}
    {steps : List (OrgTaken ι)} {c : OrgConfig ι}
    (run : Interleaved orgEnvironment (.start (fun i => (calls i).program lib) tables) steps c)
    (marked : ∀ i, (calls i).MarksPrimary) (start : OnePrimary tables.userDepartments) :
    OnePrimary c.shared.userDepartments := by
  refine run.induct (fun c => OnePrimary c.shared.userDepartments) (fun _ => True)
    (fun _ _ => trivial) start ?_ fun _ moved => moved.elim
  intro steps c i e k r after run asks answered _ before
  have promise := run.promise (fun _ _ _ _ => orgAdmissible)
    (fun i => (Action.meets_run _ _ _).mpr (OrgCall.endpoint_keeps lib (marked i))) asks
  cases e with
  | commit writes =>
    rcases answered with stored | ⟨_, same⟩
    · exact promise _ _ c.shared.consistent (OrgTables.applyAll_of_write stored) before
    · exact same ▸ before
  | isLocked | utcNow => exact answered ▸ before
  | _ => exact answered.1 ▸ before

open Office

def placedTables : OrgTables where
  toOrgRows := { (officeTables true).toOrgRows with departments := ⟨[(31, 1), (32, 1)], by decide⟩ }
  consistent := by decide +revert

def newcomer (firstIsPrimary : Bool) : OrgCall :=
  ⟨administrator 11, .createUser 14
    { email := "new@office.example", password := "password"
      departmentBindings := [{ departmentId := 31, isPrimary := firstIsPrimary },
        { departmentId := 32 }] }⟩

theorem marked_newcomer_has_one :
    OnePrimary (officeTurns placedTables (fun _ => newcomer true)
      [0, 0, 0, 0]).2.shared.userDepartments :=
  one_primary_department plainLibrary _ (officeTurns_run _ _ _) (fun _ => by decide)
    (by decide)

theorem newcomer_without_primary :
    ¬ ∀ (lib : TextLibrary) (calls : Nat → OrgCall) (tables : OrgTables)
      (steps : List (OrgTaken Nat)) (c : OrgConfig Nat),
      Interleaved orgEnvironment (.start (fun i => (calls i).program lib) tables) steps c →
      OnePrimary tables.userDepartments → OnePrimary c.shared.userDepartments := fun claimed =>
  absurd (claimed plainLibrary (fun _ => newcomer false) placedTables _ _
    (officeTurns_run _ _ [0, 0, 0, 0]) (by decide)) (by decide +kernel)

end AgentHive
