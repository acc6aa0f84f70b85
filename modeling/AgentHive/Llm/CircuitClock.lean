import AgentHive.Llm.CircuitBreaker

/-!
The breaker beside the machine it stands for, in which an open circuit becomes
half open by itself as soon as its cooldown is over.
-/

namespace AgentHive

open Process (Machine)
open OrderedDict (empty get_mapValues get_set keys_mapValues keys_set mem_keys)

namespace DeploymentCircuit

variable {config : BreakerConfig}

theorem cooled_mono {now later : ℚ} (le : now ≤ later) {circuit : DeploymentCircuit}
    (isOver : circuit.cooled config now = true) : circuit.cooled config later = true := by
  unfold cooled at isOver ⊢
  cases since : circuit.openedAt with
  | none => simp [since] at isOver
  | some openedAt =>
    simp only [since, Option.any_some, Bool.and_eq_true, decide_eq_true_eq] at isOver ⊢
    exact ⟨isOver.1, isOver.2.trans (sub_le_sub_right le openedAt)⟩

theorem cooled_state {now : ℚ} {circuit : DeploymentCircuit}
    (isOver : circuit.cooled config now = true) : circuit.state = .opened := by
  unfold cooled at isOver
  rw [Bool.and_eq_true, beq_iff_eq] at isOver
  exact isOver.1

theorem refresh_later {now later : ℚ} (le : now ≤ later) (circuit : DeploymentCircuit) :
    (circuit.refresh config now).refresh config later = circuit.refresh config later := by
  cases isOver : circuit.cooled config now with
  | true =>
    rw [refresh_of_cooled isOver, refresh_of_cooled (cooled_mono le isOver)]
    exact refresh_of_not_cooled rfl
  | false => rw [refresh_of_not_cooled isOver]

theorem isOpen_eq_refresh (now : ℚ) (circuit : DeploymentCircuit) :
    (circuit.isOpen config now).1 = ((circuit.refresh config now).state == .opened) := by
  unfold isOpen refresh cooled
  cases state : circuit.state with
  | closed | halfOpen => simp [state]
  | opened =>
    cases since : circuit.openedAt with
    | none => simp [state]
    | some openedAt =>
      by_cases isOver : config.cooldownSeconds ≤ now - openedAt
      · simp [isOver, toHalfOpen]
      · simp [isOver, state]

end DeploymentCircuit

namespace CircuitBreaker

variable (config : BreakerConfig) (now : ℚ)

def elapse (circuits : Circuits) : Circuits :=
  circuits.mapValues fun _ circuit => circuit.refresh config now

def timedSnapshots (reading : Nat → ℚ) : List String → Circuits → List CircuitBreakerSnapshot
  | [], _ => []
  | id :: rest, circuits =>
    let circuits := elapse config (reading 0) circuits
    ((circuits.get id).map (·.view config (reading 1) id)).toList ++
      timedSnapshots (fun n => reading (n + 2)) rest circuits

/-- One call: its reads change nothing, and the circuits have moved to the time
it begins before it and to the time it ends after it. -/
def timedStep (circuits : Circuits) (input : Input) : BreakerAnswer × Circuits :=
  let reading := input.1.reading
  let circuits := elapse config input.1.start circuits
  let ended := elapse config input.1.finish
  match input.2 with
  | .isOpen id =>
    (.bool (config.enabled && (circuits.get id).any (·.state == .opened)), ended circuits)
  | .getState id => (.state ((circuits.get id).elim .closed (·.state)), ended circuits)
  | .snapshot id =>
    (.snapshot ((circuits.get id).map (·.view config (reading 1) id)), ended circuits)
  | .snapshotAll => (.snapshots (timedSnapshots config reading circuits.keys circuits),
      ended circuits)
  | .recordSuccess id => (.none, ended (recordSuccess config id circuits))
  | .recordFailure id code =>
    (.none, ended (recordFailure config (reading 0) (reading 1) id code circuits))
  | .reset id => (.none, ended (reset id circuits))
  | .forceState id state => (.none, ended (forceState (reading 0) id state circuits))

def timedMachine : Machine Circuits Input BreakerAnswer := ⟨timedStep config⟩

def IsRead (input : Input) : Prop :=
  match input.2 with
  | .isOpen _ | .getState _ | .snapshot _ | .snapshotAll => True
  | _ => False

instance : DecidablePred IsRead := fun input => by
  unfold IsRead
  split <;> infer_instance

def isOverdue (id : String) (circuits : Circuits) : Bool :=
  (circuits.get id).any (·.cooled config now)

/-- A read, or an outcome that is not recorded on an overdue circuit. A success
there does no harm where one success closes a circuit. -/
def Timely (circuits : Circuits) (input : Input) : Prop :=
  match input.2 with
  | .isOpen _ | .getState _ | .snapshot _ | .snapshotAll => True
  | .recordSuccess id =>
    isOverdue config input.1.start id circuits = true → config.successThreshold = 1
  | .recordFailure id _ => isOverdue config input.1.start id circuits = false
  | .reset _ | .forceState _ _ => False

instance (circuits : Circuits) : DecidablePred (Timely config circuits) := fun input => by
  unfold Timely
  split <;> infer_instance

variable {config}

structure Lags (config : BreakerConfig) (since : ℚ) (stored moved : Circuits) : Prop where
  keys : moved.keys = stored.keys
  circuit : ∀ id, moved.get id = stored.get id ∨
    moved.get id = (stored.get id).map (·.refresh config since)

theorem map_refresh_later {now later : ℚ} (le : now ≤ later) (circuit : Option DeploymentCircuit) :
    (circuit.map (·.refresh config now)).map (·.refresh config later) =
      circuit.map (·.refresh config later) := by
  cases circuit with
  | none => rfl
  | some circuit => exact congrArg some (DeploymentCircuit.refresh_later le circuit)

theorem refresh_or_same {now later : ℚ} (le : now ≤ later) (circuit : Option DeploymentCircuit) :
    circuit.map (·.refresh config now) = circuit ∨
      circuit.map (·.refresh config now) = circuit.map (·.refresh config later) := by
  cases circuit with
  | none => exact .inl rfl
  | some circuit =>
    cases isOver : circuit.cooled config now with
    | true =>
      refine .inr (congrArg some ?_)
      dsimp only
      rw [DeploymentCircuit.refresh_of_cooled isOver,
        DeploymentCircuit.refresh_of_cooled (DeploymentCircuit.cooled_mono le isOver)]
    | false => exact .inl (congrArg some (DeploymentCircuit.refresh_of_not_cooled isOver))

namespace Lags

variable {since now : ℚ} {stored moved : Circuits}

theorem refl (since : ℚ) (circuits : Circuits) : Lags config since circuits circuits :=
  ⟨rfl, fun _ => .inl rfl⟩

variable (lags : Lags config since stored moved) (le : since ≤ now)

include lags le

theorem agree (id : String) :
    (moved.get id).map (·.refresh config now) = (stored.get id).map (·.refresh config now) := by
  rcases lags.circuit id with same | refreshed
  · rw [same]
  · rw [refreshed, map_refresh_later le]

theorem later :
    Lags config now stored moved := by
  refine ⟨lags.keys, fun id => ?_⟩
  rcases lags.circuit id with same | refreshed
  · exact .inl same
  · rw [refreshed]
    exact refresh_or_same le (stored.get id)

theorem ahead {other : Circuits}
    (keys : other.keys = moved.keys)
    (refreshed : ∀ id, other.get id = moved.get id ∨
      ∃ time, since ≤ time ∧ time ≤ now ∧
        other.get id = (moved.get id).map (·.refresh config time)) :
    Lags config now stored other := by
  refine ⟨keys.trans lags.keys, fun id => ?_⟩
  rcases refreshed id with same | ⟨time, after, before, refreshed⟩
  · rw [same]
    exact (lags.later le).circuit id
  · rw [refreshed, lags.agree after]
    exact refresh_or_same before (stored.get id)

theorem elapse :
    Lags config now stored (elapse config now moved) :=
  lags.ahead le (keys_mapValues _ _) fun id =>
    .inr ⟨now, le, le_refl now, get_mapValues moved _ id⟩

theorem not_overdue {id : String}
    (inTime : isOverdue config now id stored = false) : moved.get id = stored.get id := by
  rcases lags.circuit id with same | refreshed
  · exact same
  · rw [refreshed]
    cases circuit : stored.get id with
    | none => rfl
    | some c =>
      refine congrArg some (DeploymentCircuit.refresh_of_not_cooled ?_)
      by_contra isOver
      have cooled := DeploymentCircuit.cooled_mono le (Bool.eq_true_of_not_eq_false isOver)
      simp [isOverdue, circuit, cooled] at inTime

omit le in
theorem set (id : String) (circuit : DeploymentCircuit) :
    Lags config since (stored.set id circuit) (moved.set id circuit) := by
  refine ⟨by simp only [keys_set, lags.keys], fun other => ?_⟩
  rw [get_set, get_set]
  by_cases same : other = id
  · simp [same]
  · simpa [same] using lags.circuit other

theorem behind {other : Circuits}
    (keys : other.keys = stored.keys)
    (refreshed : ∀ id, other.get id = stored.get id ∨
      ∃ time, time ≤ now ∧ other.get id = (stored.get id).map (·.refresh config time)) :
    Lags config now other (CircuitBreaker.elapse config now moved) := by
  refine ⟨((keys_mapValues _ _).trans lags.keys).trans keys.symm, fun id => .inr ?_⟩
  have elapsed : (CircuitBreaker.elapse config now moved).get id =
      (stored.get id).map (·.refresh config now) :=
    (get_mapValues moved _ id).trans (lags.agree le id)
  rw [elapsed]
  rcases refreshed id with same | ⟨time, before, refreshed⟩
  · rw [same]
  · rw [refreshed, map_refresh_later before]

theorem read (id : String)
    {stored' moved' : Circuits} (keys : stored'.keys = stored.keys)
    (keys' : moved'.keys = moved.keys)
    (reads : ∀ other, stored'.get other =
      if other = id then (stored.get id).map (·.refresh config now) else stored.get other)
    (reads' : ∀ other, moved'.get other =
      if other = id then (moved.get id).map (·.refresh config now) else moved.get other) :
    Lags config now stored' moved' := by
  refine ⟨(keys'.trans lags.keys).trans keys.symm, fun other => ?_⟩
  rw [reads, reads']
  by_cases same : other = id
  · rw [if_pos same, if_pos same]
    exact .inl (lags.agree le id)
  · rw [if_neg same, if_neg same]
    exact (lags.later le).circuit other

omit lags le in
theorem recordSuccess_overdue (once : config.successThreshold = 1) {circuit : DeploymentCircuit}
    (isOver : circuit.cooled config now = true) :
    circuit.toHalfOpen.recordSuccess config = circuit.recordSuccess config := by
  have opened := DeploymentCircuit.cooled_state isOver
  simp [DeploymentCircuit.recordSuccess, DeploymentCircuit.toHalfOpen, opened, once]

theorem recordSuccess {id : String}
    (timely : isOverdue config now id stored = true → config.successThreshold = 1) :
    Lags config since (recordSuccess config id stored) (recordSuccess config id moved) := by
  have same : ((moved.get id).getD {}).recordSuccess config =
      ((stored.get id).getD {}).recordSuccess config := by
    rcases lags.circuit id with same | refreshed
    · rw [same]
    · rw [refreshed]
      cases stored_id : stored.get id with
      | none => rfl
      | some circuit =>
        dsimp only [Option.map_some, Option.getD_some]
        cases isOver : circuit.cooled config since with
        | false => rw [DeploymentCircuit.refresh_of_not_cooled isOver]
        | true =>
          have once : config.successThreshold = 1 := by
            apply timely
            simp [isOverdue, stored_id, DeploymentCircuit.cooled_mono le isOver]
          rw [DeploymentCircuit.refresh_of_cooled isOver]
          exact recordSuccess_overdue once isOver
  unfold CircuitBreaker.recordSuccess update
  dsimp only
  rw [same]
  exact lags.set id _

theorem recordFailure {id : String}
    (timely : isOverdue config now id stored = false) (first second : ℚ) (code : Option String) :
    Lags config since (recordFailure config first second id code stored)
      (recordFailure config first second id code moved) := by
  unfold CircuitBreaker.recordFailure update
  rw [lags.not_overdue le timely]
  exact lags.set id _

end Lags

theorem keys_set_of_get {circuits : Circuits} {id : String} {circuit : DeploymentCircuit}
    (stored : circuits.get id = some circuit) (changed : DeploymentCircuit) :
    (circuits.set id changed).keys = circuits.keys := by
  have mem : id ∈ circuits.keys := mem_keys.mpr (by simp [stored])
  rw [keys_set, if_pos mem]

theorem isOpen_fst (id : String) (circuits : Circuits) :
    (isOpen config now id circuits).1 = (config.enabled &&
      ((circuits.get id).map (·.refresh config now)).any (·.state == .opened)) := by
  unfold isOpen
  cases config.enabled with
  | false => rfl
  | true =>
    cases circuits.get id with
    | none => rfl
    | some circuit => simp [DeploymentCircuit.isOpen_eq_refresh]

theorem getState_fst (id : String) (circuits : Circuits) :
    (getState config now id circuits).1 =
      ((circuits.get id).map (·.refresh config now)).elim .closed (·.state) := by
  unfold getState
  cases circuits.get id <;> rfl

theorem snapshot_fst (later : ℚ) (id : String) (circuits : Circuits) :
    (snapshot config now later id circuits).1 =
      ((circuits.get id).map (·.refresh config now)).map (·.view config later id) := by
  unfold snapshot
  cases circuits.get id <;> rfl

theorem keys_isOpen (id : String) (circuits : Circuits) :
    (isOpen config now id circuits).2.keys = circuits.keys := by
  unfold isOpen
  cases config.enabled with
  | false => rfl
  | true =>
    cases stored : circuits.get id with
    | none => rfl
    | some circuit => exact keys_set_of_get stored _

theorem keys_getState (id : String) (circuits : Circuits) :
    (getState config now id circuits).2.keys = circuits.keys := by
  unfold getState
  cases stored : circuits.get id with
  | none => rfl
  | some circuit => exact keys_set_of_get stored _

theorem keys_snapshot (later : ℚ) (id : String) (circuits : Circuits) :
    (snapshot config now later id circuits).2.keys = circuits.keys := by
  unfold snapshot
  cases stored : circuits.get id with
  | none => rfl
  | some circuit => exact keys_set_of_get stored _

theorem keys_snapshotEach (ids : List String) (reading : Nat → ℚ) (circuits : Circuits) :
    (snapshotEach config reading ids circuits).2.keys = circuits.keys := by
  induction ids generalizing reading circuits with
  | nil => rfl
  | cons id rest ih => exact (ih _ _).trans (keys_snapshot _ _ id circuits)

theorem keys_read {input : Input} (isRead : IsRead input) (circuits : Circuits) :
    ((machine config).next circuits input).keys = circuits.keys := by
  obtain ⟨clock, call⟩ := input
  cases call with
  | isOpen id => exact keys_isOpen _ id circuits
  | getState id => exact keys_getState _ id circuits
  | snapshot id => exact keys_snapshot _ _ id circuits
  | snapshotAll => exact keys_snapshotEach circuits.keys clock.reading circuits
  | recordSuccess _ | recordFailure _ _ | reset _ | forceState _ _ => exact isRead.elim

theorem refreshes {input : Input} (isRead : IsRead input) (circuits : Circuits) (id : String) :
    ((machine config).next circuits input).get id = circuits.get id ∨
      ∃ time, input.1.start ≤ time ∧ time ≤ input.1.finish ∧
        ((machine config).next circuits input).get id =
          (circuits.get id).map (·.refresh config time) := by
  have move := moves config id circuits input
  generalize circuits.get id = before at move
  generalize ((machine config).next circuits input).get id = after at move
  cases move with
  | kept => exact .inl rfl
  | refreshed circuit now started ended => exact .inr ⟨now, started, ended, rfl⟩
  | success _ call | failure _ _ call | forced _ _ call | dropped _ _ call =>
    rw [IsRead, call] at isRead
    exact isRead.elim

namespace Lags

variable {since now : ℚ} {stored moved : Circuits}

variable (lags : Lags config since stored moved)

include lags

theorem isOpen (le : since ≤ now) (id : String) :
    (isOpen config now id stored).1 = (isOpen config now id moved).1 ∧
      Lags config now (isOpen config now id stored).2 (isOpen config now id moved).2 := by
  refine ⟨?_, ?_⟩
  · rw [isOpen_fst, isOpen_fst, lags.agree le]
  · cases enabled : config.enabled with
    | false => simpa [CircuitBreaker.isOpen, enabled] using lags.later le
    | true =>
      refine lags.read le id (keys_isOpen now id stored) (keys_isOpen now id moved) ?_ ?_
      · intro other
        simp [get_isOpen, enabled]
      · intro other
        simp [get_isOpen, enabled]

theorem getState (le : since ≤ now) (id : String) :
    (getState config now id stored).1 = (getState config now id moved).1 ∧
      Lags config now (getState config now id stored).2 (getState config now id moved).2 := by
  refine ⟨?_, ?_⟩
  · rw [getState_fst, getState_fst, lags.agree le]
  · exact lags.read le id (keys_getState now id stored) (keys_getState now id moved)
      (fun other => get_getState now id other stored)
      (fun other => get_getState now id other moved)

theorem snapshot (le : since ≤ now) (later : ℚ)
    (id : String) :
    (snapshot config now later id stored).1 = (snapshot config now later id moved).1 ∧
      Lags config now (snapshot config now later id stored).2
        (snapshot config now later id moved).2 := by
  refine ⟨?_, ?_⟩
  · rw [snapshot_fst, snapshot_fst, lags.agree le]
  · exact lags.read le id (keys_snapshot _ _ id stored) (keys_snapshot _ _ id moved)
      (fun other => get_snapshot now later id other stored)
      (fun other => get_snapshot now later id other moved)

theorem snapshotEach (ids : List String)
    (reading : Nat → ℚ) (forward : Monotone reading) (le : since ≤ reading 0)
    (ends : ∀ n, reading n ≤ now) :
    (snapshotEach config reading ids stored).1 = (snapshotEach config reading ids moved).1 ∧
      Lags config now (snapshotEach config reading ids stored).2
        (snapshotEach config reading ids moved).2 := by
  induction ids generalizing since reading stored moved with
  | nil => exact ⟨rfl, lags.later (le.trans (ends 0))⟩
  | cons id rest ih =>
    have first := lags.snapshot le (reading 1) id
    have others := ih first.2 (fun n => reading (n + 2))
      (fun _ _ h => forward (Nat.add_le_add_right h 2)) (forward (Nat.zero_le 2))
      (fun n => ends _)
    refine ⟨?_, others.2⟩
    exact congrArg₂ (fun s rest => s.toList ++ rest) first.1 others.1

variable {input : Input}

variable (le : since ≤ input.1.start)

include le

theorem next (timely : Timely config stored input) :
    (step config stored input).1 = (step config moved input).1 ∧
      Lags config input.1.finish ((machine config).next stored input)
        ((machine config).next moved input) := by
  obtain ⟨clock, call⟩ := input
  have ended : clock.start ≤ clock.finish := clock.ends 0
  cases call with
  | isOpen id =>
    have both := lags.isOpen le id
    exact ⟨congrArg BreakerAnswer.bool both.1, both.2.later ended⟩
  | getState id =>
    have both := lags.getState le id
    exact ⟨congrArg BreakerAnswer.state both.1, both.2.later ended⟩
  | snapshot id =>
    have both := lags.snapshot le (clock.reading 1) id
    exact ⟨congrArg BreakerAnswer.snapshot both.1, both.2.later ended⟩
  | snapshotAll =>
    have both := lags.snapshotEach stored.keys clock.reading clock.forward le clock.ends
    have same : (snapshotAll config clock moved) =
        CircuitBreaker.snapshotEach config clock.reading stored.keys moved := by
      rw [snapshotAll, lags.keys]
    refine ⟨?_, ?_⟩
    · exact congrArg BreakerAnswer.snapshots (both.1.trans (congrArg Prod.fst same.symm))
    · change Lags config clock.finish _ (snapshotAll config clock moved).2
      rw [same]
      exact both.2
  | recordSuccess id => exact ⟨rfl, (lags.recordSuccess le timely).later (le.trans ended)⟩
  | recordFailure id code =>
    exact ⟨rfl, (lags.recordFailure le timely _ _ code).later (le.trans ended)⟩
  | reset _ | forceState _ _ => exact timely.elim

theorem next_silent (isRead : IsRead input) :
    Lags config input.1.finish stored ((machine config).next moved input) := by
  refine lags.ahead (le.trans (input.1.ends 0)) (keys_read isRead moved) fun id => ?_
  rcases refreshes isRead moved id with same | ⟨time, started, ended, refreshed⟩
  · exact .inl same
  · exact .inr ⟨time, le.trans started, ended, refreshed⟩

theorem read_timed (isRead : IsRead input) :
    Lags config input.1.finish ((machine config).next stored input)
      (CircuitBreaker.elapse config input.1.finish
        (CircuitBreaker.elapse config input.1.start moved)) := by
  refine (lags.elapse le).behind (input.1.ends 0) (keys_read isRead stored) fun id => ?_
  rcases refreshes isRead stored id with same | ⟨time, _, ended, refreshed⟩
  · exact .inl same
  · exact .inr ⟨time, ended, refreshed⟩

omit le in
theorem get_elapse (le : since ≤ now) (id : String) :
    (CircuitBreaker.elapse config now moved).get id =
      (stored.get id).map (·.refresh config now) :=
  (get_mapValues moved _ id).trans (lags.agree le id)

omit le in
theorem timedSnapshots (ids : List String)
    (reading : Nat → ℚ) (forward : Monotone reading) (le : since ≤ reading 0) :
    (CircuitBreaker.snapshotEach config reading ids stored).1 =
      timedSnapshots config reading ids moved := by
  induction ids generalizing since reading stored moved with
  | nil => rfl
  | cons id rest ih =>
    have first : (CircuitBreaker.snapshot config (reading 0) (reading 1) id stored).1 =
        ((CircuitBreaker.elapse config (reading 0) moved).get id).map
          (·.view config (reading 1) id) := by
      rw [snapshot_fst, lags.get_elapse le]
    have behind : Lags config (reading 0)
        (CircuitBreaker.snapshot config (reading 0) (reading 1) id stored).2
        (CircuitBreaker.elapse config (reading 0) moved) := by
      refine lags.behind le (keys_snapshot _ _ id stored) fun other => ?_
      rw [get_snapshot]
      by_cases same : other = id
      · subst same
        exact .inr ⟨reading 0, le_refl _, if_pos rfl⟩
      · exact .inl (if_neg same)
    have others := ih behind (fun n => reading (n + 2))
      (fun _ _ h => forward (Nat.add_le_add_right h 2)) (forward (Nat.zero_le 2))
    exact congrArg₂ (fun s rest => s.toList ++ rest) first others

theorem next_timed (timely : Timely config stored input) :
    (step config stored input).1 = (timedStep config moved input).1 ∧
      Lags config input.1.finish ((machine config).next stored input)
        ((timedMachine config).next moved input) := by
  obtain ⟨clock, call⟩ := input
  have ended : clock.start ≤ clock.finish := clock.ends 0
  have started := lags.elapse le
  cases call with
  | isOpen id =>
    refine ⟨congrArg BreakerAnswer.bool ?_, lags.read_timed le trivial⟩
    rw [isOpen_fst, lags.get_elapse le]
    rfl
  | getState id =>
    refine ⟨congrArg BreakerAnswer.state ?_, lags.read_timed le trivial⟩
    rw [getState_fst, lags.get_elapse le]
    rfl
  | snapshot id =>
    refine ⟨congrArg BreakerAnswer.snapshot ?_, lags.read_timed le trivial⟩
    rw [snapshot_fst, lags.get_elapse le]
    rfl
  | snapshotAll =>
    refine ⟨congrArg BreakerAnswer.snapshots ?_, lags.read_timed le trivial⟩
    rw [started.keys]
    exact started.timedSnapshots stored.keys clock.reading clock.forward (clock.start_le 0)
  | recordSuccess id =>
    exact ⟨rfl, (started.recordSuccess (le_refl _) timely).elapse ended⟩
  | recordFailure id code =>
    exact ⟨rfl, (started.recordFailure (le_refl _) timely _ _ code).elapse ended⟩
  | reset _ | forceState _ _ => exact timely.elim

theorem next_timed_silent (isRead : IsRead input) :
    Lags config input.1.finish stored ((timedMachine config).next moved input) := by
  have both := (lags.elapse le).elapse (input.1.ends 0)
  obtain ⟨clock, call⟩ := input
  cases call with
  | isOpen _ | getState _ | snapshot _ | snapshotAll => exact both
  | recordSuccess _ | recordFailure _ _ | reset _ | forceState _ _ => exact isRead.elim

end Lags

/-- Where every outcome comes in time, the breaker answers as the machine that
moves with the clock does, and reads put in between change no answer. -/
theorem timely_run_is_timed (config : BreakerConfig) (since : ℚ) (calls padded : List Input)
    (call : Input) (reads : Machine.Interspersed IsRead calls padded)
    (ordered : InOrder since (padded ++ [call]))
    (timely : (machine config).Along (Timely config) empty (calls ++ [call])) :
    (machine config).answer empty calls call =
        (timedMachine config).answer empty padded call ∧
      (machine config).answer empty padded call =
        (machine config).answer empty calls call := by
  have start : Lags config since empty empty := Lags.refl since empty
  constructor
  · exact Machine.answer_eq (fun _ lags le ok => lags.next_timed le ok)
      (fun _ lags le isRead => lags.next_timed_silent le isRead) reads start timely ordered
  · exact (Machine.answer_eq (fun _ lags le ok => lags.next le ok)
      (fun _ lags le isRead => lags.next_silent le isRead) reads start timely ordered).symm

theorem probe_after_cooldown :
    (machine hastyBreaker).answer empty [(.still 0, .recordFailure "d-1" none)]
        (.still 40, .isOpen "d-1") =
      (timedMachine hastyBreaker).answer empty
        [(.still 0, .recordFailure "d-1" none), (.still 35, .getState "d-1")]
        (.still 40, .isOpen "d-1") ∧
    (machine hastyBreaker).answer empty
        [(.still 0, .recordFailure "d-1" none), (.still 35, .getState "d-1")]
        (.still 40, .isOpen "d-1") =
      (machine hastyBreaker).answer empty [(.still 0, .recordFailure "d-1" none)]
        (.still 40, .isOpen "d-1") :=
  timely_run_is_timed hastyBreaker 0 _ _ _ (.keep _ (.insert trivial .nil)) (by decide +kernel)
    (by decide +kernel)

theorem late_failure_is_forgotten :
    InOrder 0 [(.still 0, .recordFailure "d-1" none), (.still 35, .getState "d-1"),
      (.still 40, .recordFailure "d-1" none), (.still 41, .isOpen "d-1")] ∧
    (machine hastyBreaker).answer empty
      [(.still 0, .recordFailure "d-1" none), (.still 40, .recordFailure "d-1" none)]
      (.still 41, .isOpen "d-1") = .bool false ∧
    (timedMachine hastyBreaker).answer empty
      [(.still 0, .recordFailure "d-1" none), (.still 40, .recordFailure "d-1" none)]
      (.still 41, .isOpen "d-1") = .bool true ∧
    (machine hastyBreaker).answer empty
      [(.still 0, .recordFailure "d-1" none), (.still 35, .getState "d-1"),
        (.still 40, .recordFailure "d-1" none)]
      (.still 41, .isOpen "d-1") = .bool true := by
  decide +kernel

end CircuitBreaker

end AgentHive
