import AgentHive.Process.Machine
import AgentHive.Store.OrderedDict
import Mathlib.Algebra.Order.Field.Rat
import Mathlib.Tactic.Linarith
import Mathlib.Tactic.NormNum

/-!
The circuit breaker of the gateway: one circuit for each deployment, kept in
the order in which deployments first report an outcome.
-/

namespace AgentHive

open Process (Machine)
open OrderedDict (empty get_erase get_set)

inductive CircuitState
  | closed | opened | halfOpen
  deriving DecidableEq

structure DeploymentCircuit where
  state : CircuitState := .closed
  consecutiveFailures : Nat := 0
  consecutiveSuccesses : Nat := 0
  openedAt : Option ℚ := none
  lastFailureAt : Option ℚ := none
  lastFailureCode : Option String := none
  totalOpened : Nat := 0
  deriving DecidableEq

structure CircuitBreakerSnapshot where
  deploymentId : String
  state : CircuitState
  consecutiveFailures : Nat
  consecutiveSuccesses : Nat
  openedAt : Option ℚ
  lastFailureAt : Option ℚ
  lastFailureCode : Option String
  totalOpened : Nat
  secondsUntilHalfOpen : Option ℚ
  deriving DecidableEq

/-- What the constructor of the breaker settles on. -/
structure BreakerConfig where
  failureThreshold : Nat
  cooldownSeconds : ℚ
  successThreshold : Nat
  enabled : Bool
  failureThreshold_pos : 0 < failureThreshold
  cooldownSeconds_pos : 0 < cooldownSeconds
  successThreshold_pos : 0 < successThreshold

def BreakerConfig.ofSettings (failureThreshold : Int) (cooldownSeconds : ℚ)
    (successThreshold : Int) (enabled : Bool) : BreakerConfig where
  failureThreshold := (max 1 failureThreshold).toNat
  cooldownSeconds := max (1 / 100) cooldownSeconds
  successThreshold := (max 1 successThreshold).toNat
  enabled := enabled
  failureThreshold_pos := by omega
  cooldownSeconds_pos := lt_max_of_lt_left (by norm_num)
  successThreshold_pos := by omega

structure ClockReadings where
  reading : Nat → ℚ
  finish : ℚ
  forward : Monotone reading
  ends : ∀ n, reading n ≤ finish

def ClockReadings.start (clock : ClockReadings) : ℚ := clock.reading 0

theorem ClockReadings.start_le (clock : ClockReadings) (n : Nat) :
    clock.start ≤ clock.reading n := clock.forward n.zero_le

def ClockReadings.still (now : ℚ) : ClockReadings :=
  ⟨fun _ => now, now, monotone_const, fun _ => le_refl now⟩

namespace DeploymentCircuit

variable (config : BreakerConfig) (now : ℚ) (circuit : DeploymentCircuit)

def cooled : Bool :=
  circuit.state == .opened &&
    circuit.openedAt.any fun openedAt => config.cooldownSeconds ≤ now - openedAt

def toHalfOpen : DeploymentCircuit :=
  { circuit with state := .halfOpen, consecutiveSuccesses := 0 }

def refresh : DeploymentCircuit :=
  if circuit.cooled config now then circuit.toHalfOpen else circuit

theorem refresh_of_cooled {config : BreakerConfig} {now : ℚ} {circuit : DeploymentCircuit}
    (isOver : circuit.cooled config now = true) :
    circuit.refresh config now = circuit.toHalfOpen := if_pos isOver

theorem refresh_of_not_cooled {config : BreakerConfig} {now : ℚ} {circuit : DeploymentCircuit}
    (running : circuit.cooled config now = false) : circuit.refresh config now = circuit :=
  if_neg (by simp [running])

def isOpen : Bool × DeploymentCircuit :=
  if circuit.state ≠ .opened then (false, circuit)
  else
    match circuit.openedAt with
    | none => (true, circuit)
    | some openedAt =>
      if config.cooldownSeconds ≤ now - openedAt then (false, circuit.toHalfOpen)
      else (true, circuit)

def view (id : String) (circuit : DeploymentCircuit) :
    CircuitBreakerSnapshot where
  deploymentId := id
  state := circuit.state
  consecutiveFailures := circuit.consecutiveFailures
  consecutiveSuccesses := circuit.consecutiveSuccesses
  openedAt := circuit.openedAt
  lastFailureAt := circuit.lastFailureAt
  lastFailureCode := circuit.lastFailureCode
  totalOpened := circuit.totalOpened
  secondsUntilHalfOpen :=
    if circuit.state = .opened then
      circuit.openedAt.map fun openedAt => max 0 (config.cooldownSeconds - (now - openedAt))
    else none

def recordSuccess : DeploymentCircuit :=
  let circuit := { circuit with consecutiveFailures := 0 }
  match circuit.state with
  | .halfOpen =>
    let circuit := { circuit with consecutiveSuccesses := circuit.consecutiveSuccesses + 1 }
    if config.successThreshold ≤ circuit.consecutiveSuccesses then
      { circuit with state := .closed, consecutiveSuccesses := 0, openedAt := none }
    else circuit
  | .opened =>
    -- A success that comes in while the circuit is open closes it.
    { circuit with state := .closed, openedAt := none, consecutiveSuccesses := 0 }
  | .closed => circuit

def reopen : DeploymentCircuit :=
  { circuit with
    state := .opened
    openedAt := some now
    totalOpened := circuit.totalOpened + 1
    consecutiveSuccesses := 0 }

def recordFailure (later : ℚ) (code : Option String) (circuit : DeploymentCircuit) :
    DeploymentCircuit :=
  let circuit :=
    { circuit with
      consecutiveFailures := circuit.consecutiveFailures + 1
      lastFailureAt := some now
      lastFailureCode := code }
  match circuit.state with
  | .halfOpen => circuit.reopen later
  | .closed =>
    if config.failureThreshold ≤ circuit.consecutiveFailures then circuit.reopen later
    else circuit
  | .opened => circuit

def forceState (state : CircuitState) (circuit : DeploymentCircuit) : DeploymentCircuit :=
  let circuit := { circuit with state := state }
  if state = .opened then
    { circuit with openedAt := some now, totalOpened := circuit.totalOpened + 1 }
  else { circuit with openedAt := none, consecutiveFailures := 0, consecutiveSuccesses := 0 }

end DeploymentCircuit

abbrev Circuits := OrderedDict String DeploymentCircuit

inductive BreakerCall
  | isOpen (id : String)
  | getState (id : String)
  | snapshot (id : String)
  | snapshotAll
  | recordSuccess (id : String)
  | recordFailure (id : String) (code : Option String)
  | reset (id : Option String)
  | forceState (id : String) (state : CircuitState)
  deriving DecidableEq

inductive BreakerAnswer
  | bool (value : Bool)
  | state (value : CircuitState)
  | snapshot (value : Option CircuitBreakerSnapshot)
  | snapshots (value : List CircuitBreakerSnapshot)
  | none
  deriving DecidableEq

namespace CircuitBreaker

variable (config : BreakerConfig)

def isOpen (now : ℚ) (id : String) (circuits : Circuits) : Bool × Circuits :=
  if !config.enabled then (false, circuits)
  else
    match circuits.get id with
    | none => (false, circuits)
    | some circuit =>
      let answer := circuit.isOpen config now
      (answer.1, circuits.set id answer.2)

def getState (now : ℚ) (id : String) (circuits : Circuits) : CircuitState × Circuits :=
  match circuits.get id with
  | none => (.closed, circuits)
  | some circuit =>
    let circuit := circuit.refresh config now
    (circuit.state, circuits.set id circuit)

def snapshot (now later : ℚ) (id : String) (circuits : Circuits) :
    Option CircuitBreakerSnapshot × Circuits :=
  match circuits.get id with
  | none => (none, circuits)
  | some circuit =>
    let circuit := circuit.refresh config now
    (some (circuit.view config later id), circuits.set id circuit)

def snapshotEach (reading : Nat → ℚ) :
    List String → Circuits → List CircuitBreakerSnapshot × Circuits
  | [], circuits => ([], circuits)
  | id :: rest, circuits =>
    let first := snapshot config (reading 0) (reading 1) id circuits
    let others := snapshotEach (fun n => reading (n + 2)) rest first.2
    (first.1.toList ++ others.1, others.2)

def snapshotAll (clock : ClockReadings) (circuits : Circuits) :
    List CircuitBreakerSnapshot × Circuits :=
  snapshotEach config clock.reading circuits.keys circuits

def update (id : String) (change : DeploymentCircuit → DeploymentCircuit) (circuits : Circuits) :
    Circuits :=
  circuits.set id (change ((circuits.get id).getD {}))

def recordSuccess (id : String) (circuits : Circuits) : Circuits :=
  update id (·.recordSuccess config) circuits

def recordFailure (now later : ℚ) (id : String) (code : Option String) (circuits : Circuits) :
    Circuits :=
  update id (·.recordFailure config now later code) circuits

def reset (id : Option String) (circuits : Circuits) : Circuits :=
  match id with
  | none => empty
  | some id => circuits.erase id

def forceState (now : ℚ) (id : String) (state : CircuitState) (circuits : Circuits) : Circuits :=
  update id (·.forceState now state) circuits

def answered {α : Type} (wrap : α → BreakerAnswer) (result : α × Circuits) :
    BreakerAnswer × Circuits :=
  (wrap result.1, result.2)

def step (circuits : Circuits) (input : ClockReadings × BreakerCall) : BreakerAnswer × Circuits :=
  let reading := input.1.reading
  match input.2 with
  | .isOpen id => answered .bool (isOpen config (reading 0) id circuits)
  | .getState id => answered .state (getState config (reading 0) id circuits)
  | .snapshot id => answered .snapshot (snapshot config (reading 0) (reading 1) id circuits)
  | .snapshotAll => answered .snapshots (snapshotAll config input.1 circuits)
  | .recordSuccess id => (.none, recordSuccess config id circuits)
  | .recordFailure id code =>
    (.none, recordFailure config (reading 0) (reading 1) id code circuits)
  | .reset id => (.none, reset id circuits)
  | .forceState id state => (.none, forceState (reading 0) id state circuits)

abbrev Input := ClockReadings × BreakerCall

def machine : Machine Circuits Input BreakerAnswer :=
  ⟨step config⟩

def InOrder : ℚ → List Input → Prop :=
  Machine.InOrder (fun input : Input => input.1.start) fun input => input.1.finish

instance (since : ℚ) (calls : List Input) : Decidable (InOrder since calls) :=
  Machine.decidableInOrder _ _ since calls

end CircuitBreaker

open Process (Machine)

namespace DeploymentCircuit

structure Sound (config : BreakerConfig) (circuit : DeploymentCircuit) : Prop where
  closed : circuit.state = .closed →
    circuit.consecutiveFailures < config.failureThreshold ∧
      circuit.consecutiveSuccesses = 0 ∧ circuit.openedAt = none
  opened : circuit.state = .opened → circuit.openedAt.isSome
  halfOpen : circuit.state = .halfOpen → circuit.consecutiveSuccesses < config.successThreshold

variable {config : BreakerConfig} {circuit : DeploymentCircuit}

theorem sound_default : Sound config {} :=
  ⟨fun _ => ⟨config.failureThreshold_pos, rfl, rfl⟩, nofun, nofun⟩

theorem Sound.toHalfOpen : circuit.toHalfOpen.Sound config :=
  ⟨nofun, nofun, fun _ => config.successThreshold_pos⟩

theorem Sound.refresh (sound : circuit.Sound config) (now : ℚ) :
    (circuit.refresh config now).Sound config := by
  unfold DeploymentCircuit.refresh
  split
  · exact Sound.toHalfOpen
  · exact sound

theorem Sound.reopen (now : ℚ) : (circuit.reopen now).Sound config :=
  ⟨nofun, fun _ => rfl, nofun⟩

theorem Sound.recordSuccess (sound : circuit.Sound config) :
    (circuit.recordSuccess config).Sound config := by
  unfold DeploymentCircuit.recordSuccess
  cases state : circuit.state with
  | halfOpen =>
    dsimp only
    split
    · exact ⟨fun _ => ⟨config.failureThreshold_pos, rfl, rfl⟩, nofun, nofun⟩
    · rename_i few
      exact ⟨nofun, nofun, fun _ => not_le.mp few⟩
  | opened => exact ⟨fun _ => ⟨config.failureThreshold_pos, rfl, rfl⟩, nofun, nofun⟩
  | closed =>
    have counters := sound.closed state
    exact ⟨fun _ => ⟨config.failureThreshold_pos, counters.2⟩, nofun, nofun⟩

theorem Sound.recordFailure (sound : circuit.Sound config) (now later : ℚ)
    (code : Option String) : (circuit.recordFailure config now later code).Sound config := by
  unfold DeploymentCircuit.recordFailure
  cases state : circuit.state with
  | halfOpen => exact Sound.reopen later
  | opened => exact ⟨nofun, fun _ => sound.opened state, nofun⟩
  | closed =>
    have counters := sound.closed state
    dsimp only
    split
    · exact Sound.reopen later
    · rename_i few
      exact ⟨fun _ => ⟨not_le.mp few, counters.2⟩, nofun, nofun⟩

theorem sound_forceState (now : ℚ) (state : CircuitState) :
    (circuit.forceState now state).Sound config := by
  cases state with
  | opened => exact ⟨nofun, fun _ => rfl, nofun⟩
  | closed => exact ⟨fun _ => ⟨config.failureThreshold_pos, rfl, rfl⟩, nofun, nofun⟩
  | halfOpen => exact ⟨nofun, nofun, fun _ => config.successThreshold_pos⟩

theorem isOpen_snd (now : ℚ) : (circuit.isOpen config now).2 = circuit.refresh config now := by
  unfold isOpen refresh cooled
  cases circuit.state <;> cases circuit.openedAt <;> simp
  split <;> rfl

theorem isOpen_fst (now : ℚ) (sound : circuit.Sound config) :
    (circuit.isOpen config now).1 = true ↔
      ∃ openedAt, circuit.state = .opened ∧ circuit.openedAt = some openedAt ∧
        now - openedAt < config.cooldownSeconds := by
  unfold isOpen
  cases state : circuit.state with
  | closed => simp
  | halfOpen => simp
  | opened =>
    obtain ⟨since, openedAt⟩ := Option.isSome_iff_exists.mp (sound.opened state)
    rw [openedAt]
    by_cases isOver : config.cooldownSeconds ≤ now - since
    · simp [isOver, not_lt.mpr isOver]
    · simp [isOver, not_le.mp isOver]

end DeploymentCircuit

namespace CircuitBreaker

open DeploymentCircuit (Sound)

variable {config : BreakerConfig}

def target : BreakerCall → Option String
  | .isOpen id | .getState id | .snapshot id | .recordSuccess id | .recordFailure id _
  | .forceState id _ => some id
  | .reset id => id
  | .snapshotAll => none

def opening (config : BreakerConfig) (id : String) (circuits : Circuits) (input : Input) :
    Option ℚ :=
  let opened := fun (c : Option DeploymentCircuit) => c.any (·.state == .opened)
  match input.2 with
  | .recordFailure _ _ =>
    if !opened (circuits.get id) && opened (((machine config).next circuits input).get id) then
      some (input.1.reading 1)
    else none
  | .forceState other .opened => if other = id then some (input.1.reading 0) else none
  | _ => none

inductive Moves (config : BreakerConfig) (id : String) (input : Input) :
    Option DeploymentCircuit → Option DeploymentCircuit → Prop
  | kept (circuit : Option DeploymentCircuit) : Moves config id input circuit circuit
  | refreshed (circuit : DeploymentCircuit) (now : ℚ) (started : input.1.start ≤ now)
      (ended : now ≤ input.1.finish) :
      Moves config id input (some circuit) (some (circuit.refresh config now))
  | success (circuit : Option DeploymentCircuit) (call : input.2 = .recordSuccess id) :
      Moves config id input circuit (some ((circuit.getD {}).recordSuccess config))
  | failure (circuit : Option DeploymentCircuit) (code : Option String)
      (call : input.2 = .recordFailure id code) :
      Moves config id input circuit (some ((circuit.getD {}).recordFailure config
        (input.1.reading 0) (input.1.reading 1) code))
  | forced (circuit : Option DeploymentCircuit) (state : CircuitState)
      (call : input.2 = .forceState id state) :
      Moves config id input circuit (some ((circuit.getD {}).forceState
        (input.1.reading 0) state))
  | dropped (circuit : Option DeploymentCircuit) (only : Option String)
      (call : input.2 = .reset only) : Moves config id input circuit none

theorem get_update (id other : String) (change : DeploymentCircuit → DeploymentCircuit)
    (circuits : Circuits) :
    (update id change circuits).get other =
      if other = id then some (change ((circuits.get id).getD {})) else circuits.get other :=
  get_set circuits id _ other

theorem get_isOpen (now : ℚ) (id other : String) (circuits : Circuits) :
    (isOpen config now id circuits).2.get other =
      if config.enabled ∧ other = id then (circuits.get id).map (·.refresh config now)
      else circuits.get other := by
  unfold isOpen
  cases enabled : config.enabled with
  | false => simp
  | true =>
    cases stored : circuits.get id with
    | none => by_cases same : other = id <;> simp [same, stored]
    | some circuit => simp [get_set, DeploymentCircuit.isOpen_snd]

theorem get_getState (now : ℚ) (id other : String) (circuits : Circuits) :
    (getState config now id circuits).2.get other =
      if other = id then (circuits.get id).map (·.refresh config now)
      else circuits.get other := by
  unfold getState
  cases stored : circuits.get id with
  | none => by_cases same : other = id <;> simp [same, stored]
  | some circuit => simp [get_set]

theorem get_snapshot (now later : ℚ) (id other : String) (circuits : Circuits) :
    (snapshot config now later id circuits).2.get other =
      if other = id then (circuits.get id).map (·.refresh config now)
      else circuits.get other := by
  unfold snapshot
  cases stored : circuits.get id with
  | none => by_cases same : other = id <;> simp [same, stored]
  | some circuit => simp [get_set]

theorem refresh_refresh (config : BreakerConfig) (circuit : DeploymentCircuit) (first second : ℚ) :
    ((circuit.refresh config first).refresh config second) = circuit.refresh config first ∨
      ((circuit.refresh config first).refresh config second) = circuit.refresh config second := by
  cases isOver : circuit.cooled config first with
  | true =>
    rw [DeploymentCircuit.refresh_of_cooled isOver]
    exact .inl (DeploymentCircuit.refresh_of_not_cooled rfl)
  | false =>
    rw [DeploymentCircuit.refresh_of_not_cooled isOver]
    exact .inr rfl

theorem get_snapshotEach (config : BreakerConfig) {lo hi : ℚ} (ids : List String) (reading : Nat → ℚ)
    (started : ∀ n, lo ≤ reading n) (ended : ∀ n, reading n ≤ hi) (circuits : Circuits)
    (id : String) :
    (snapshotEach config reading ids circuits).2.get id = circuits.get id ∨
      ∃ circuit now, circuits.get id = some circuit ∧ lo ≤ now ∧ now ≤ hi ∧
        (snapshotEach config reading ids circuits).2.get id =
          some (circuit.refresh config now) := by
  induction ids generalizing reading circuits with
  | nil => exact .inl rfl
  | cons first rest ih =>
    have later := ih (fun n => reading (n + 2)) (fun n => started _) (fun n => ended _)
      (snapshot config (reading 0) (reading 1) first circuits).2
    rw [get_snapshot] at later
    unfold snapshotEach
    by_cases same : id = first
    · subst same
      cases stored : circuits.get id with
      | none => simpa [stored] using later
      | some circuit =>
        refine .inr ⟨circuit, ?_⟩
        rw [if_pos rfl, stored] at later
        rcases later with once | ⟨_, now, refreshed, from_lo, to_hi, twice⟩
        · exact ⟨reading 0, rfl, started 0, ended 0, once⟩
        · cases refreshed
          rcases refresh_refresh config circuit (reading 0) now with eq | eq
          · exact ⟨reading 0, rfl, started 0, ended 0, eq ▸ twice⟩
          · exact ⟨now, rfl, from_lo, to_hi, eq ▸ twice⟩
    · rwa [if_neg same] at later

theorem moves (config : BreakerConfig) (id : String) (circuits : Circuits) (input : Input) :
    Moves config id input (circuits.get id) (((machine config).next circuits input).get id) := by
  obtain ⟨clock, call⟩ := input
  have read : ∀ other, Moves config id (clock, call) (circuits.get id)
      (if id = other then (circuits.get other).map (·.refresh config (clock.reading 0))
        else circuits.get id) := by
    intro other
    by_cases same : id = other
    · subst same
      cases stored : circuits.get id with
      | none => simpa [stored] using Moves.kept none
      | some circuit =>
        simpa [stored] using
          Moves.refreshed circuit (clock.reading 0) (clock.start_le 0) (clock.ends 0)
    · simpa [same] using Moves.kept (circuits.get id)
  cases call with
  | isOpen other =>
    change Moves _ _ _ _ ((isOpen config (clock.reading 0) other circuits).2.get id)
    rw [get_isOpen]
    cases enabled : config.enabled with
    | false => simpa using Moves.kept (circuits.get id)
    | true => simpa using read other
  | getState other =>
    change Moves _ _ _ _ ((getState config (clock.reading 0) other circuits).2.get id)
    rw [get_getState]
    exact read other
  | snapshot other =>
    change Moves _ _ _ _
      ((snapshot config (clock.reading 0) (clock.reading 1) other circuits).2.get id)
    rw [get_snapshot]
    exact read other
  | snapshotAll =>
    change Moves _ _ _ _ ((snapshotEach config clock.reading circuits.keys circuits).2.get id)
    rcases get_snapshotEach config circuits.keys clock.reading clock.start_le
      clock.ends circuits id with same | ⟨circuit, now, stored, started, ended, refreshed⟩
    · rw [same]
      exact .kept _
    · rw [refreshed, stored]
      exact .refreshed circuit now started ended
  | recordSuccess other =>
    change Moves _ _ _ _ ((update other _ circuits).get id)
    rw [get_update]
    by_cases same : id = other
    · subst same
      simpa using Moves.success (circuits.get id) rfl
    · simpa [same] using Moves.kept (circuits.get id)
  | recordFailure other code =>
    change Moves _ _ _ _ ((update other _ circuits).get id)
    rw [get_update]
    by_cases same : id = other
    · subst same
      simpa using Moves.failure (circuits.get id) code rfl
    · simpa [same] using Moves.kept (circuits.get id)
  | reset other =>
    cases other with
    | none => exact .dropped _ none rfl
    | some other =>
      change Moves _ _ _ _ ((circuits.erase other).get id)
      rw [get_erase]
      by_cases same : id = other
      · simpa [same] using Moves.dropped (circuits.get other) (some other) rfl
      · simpa [same] using Moves.kept (circuits.get id)
  | forceState other state =>
    change Moves _ _ _ _ ((update other _ circuits).get id)
    rw [get_update]
    by_cases same : id = other
    · subst same
      simpa using Moves.forced (circuits.get id) state rfl
    · simpa [same] using Moves.kept (circuits.get id)

variable {id : String} {input : Input}

theorem next_other {other : String} (about : target input.2 = some id) (distinct : other ≠ id)
    (circuits : Circuits) :
    ((machine config).next circuits input).get other = circuits.get other := by
  obtain ⟨clock, call⟩ := input
  cases call with
  | isOpen _ =>
    cases about
    exact (get_isOpen _ id other circuits).trans (if_neg fun h => distinct h.2)
  | getState _ =>
    cases about
    exact (get_getState _ id other circuits).trans (if_neg distinct)
  | snapshot _ =>
    cases about
    exact (get_snapshot _ _ id other circuits).trans (if_neg distinct)
  | snapshotAll => cases about
  | recordSuccess _ | recordFailure _ _ | forceState _ _ =>
    cases about
    exact (get_update id other _ circuits).trans (if_neg distinct)
  | reset _ =>
    cases about
    exact (get_erase circuits id other).trans (if_neg distinct)

def AllSound (config : BreakerConfig) (circuits : Circuits) : Prop :=
  ∀ id circuit, circuits.get id = some circuit → circuit.Sound config

theorem Moves.sound {before after : Option DeploymentCircuit}
    (move : Moves config id input before after)
    (sound : ∀ circuit, before = some circuit → circuit.Sound config) :
    ∀ circuit, after = some circuit → circuit.Sound config := by
  have fresh : (before.getD {}).Sound config := by
    cases before with
    | none => exact DeploymentCircuit.sound_default
    | some circuit => exact sound circuit rfl
  intro circuit stored
  cases move with
  | kept => exact sound circuit stored
  | refreshed c now started ended => cases stored; exact (sound c rfl).refresh now
  | success c call => cases stored; exact fresh.recordSuccess
  | failure c code call => cases stored; exact fresh.recordFailure _ _ code
  | forced c state call => cases stored; exact DeploymentCircuit.sound_forceState _ state
  | dropped => cases stored

variable {circuits : Circuits}

theorem AllSound.next (sound : AllSound config circuits) (input : Input) :
    AllSound config ((machine config).next circuits input) :=
  fun id => (moves config id circuits input).sound (sound id)

def lastOpening (config : BreakerConfig) (id : String) : Circuits → List Input → Option ℚ
  | _, [] => none
  | circuits, input :: rest =>
    (lastOpening config id ((machine config).next circuits input) rest).or
      (opening config id circuits input)

def Tracks (id : String) (last : Option ℚ) (circuits : Circuits) : Prop :=
  ∀ circuit, circuits.get id = some circuit → circuit.state = .opened → circuit.openedAt = last

variable {circuit : DeploymentCircuit}

theorem refresh_opened {now : ℚ} (opened : (circuit.refresh config now).state = .opened) :
    circuit.refresh config now = circuit := by
  cases isOver : circuit.cooled config now with
  | true =>
    rw [DeploymentCircuit.refresh_of_cooled isOver] at opened
    cases opened
  | false => exact DeploymentCircuit.refresh_of_not_cooled isOver

theorem recordSuccess_not_opened (circuit : DeploymentCircuit) :
    (circuit.recordSuccess config).state ≠ .opened := by
  unfold DeploymentCircuit.recordSuccess
  cases state : circuit.state with
  | halfOpen => dsimp only; split <;> nofun
  | opened | closed => nofun

theorem recordFailure_opened {now later : ℚ} {code : Option String}
    (opened : (circuit.recordFailure config now later code).state = .opened) :
    (circuit.recordFailure config now later code).openedAt =
      if circuit.state = .opened then circuit.openedAt else some later := by
  unfold DeploymentCircuit.recordFailure at opened ⊢
  cases state : circuit.state with
  | halfOpen | opened => rfl
  | closed =>
    simp only [state] at opened ⊢
    split at opened
    · rename_i many
      rw [if_pos many]
      rfl
    · cases opened

theorem Tracks.next {last : Option ℚ} (tracks : Tracks id last circuits) (input : Input) :
    Tracks id ((opening config id circuits input).or last)
      ((machine config).next circuits input) := by
  intro circuit stored opened
  have move := moves config id circuits input
  rw [stored] at move
  -- Calls other than a failure and an override never open a circuit.
  have unopened : (∀ code, input.2 ≠ .recordFailure id code) →
      (∀ state, input.2 ≠ .forceState id state) → circuit.openedAt = last := by
    intro noFailure noForce
    generalize before : circuits.get id = old at move
    cases move with
    | kept => exact tracks circuit before opened
    | refreshed c now started ended =>
      have same := refresh_opened opened
      rw [same] at opened ⊢
      exact tracks c before opened
    | success c call => exact absurd opened (recordSuccess_not_opened _)
    | failure c code call => exact absurd call (noFailure code)
    | forced c state call => exact absurd call (noForce state)
  obtain ⟨clock, call⟩ := input
  cases call with
  | recordFailure other code =>
    by_cases same : other = id
    · subst same
      have changed : some circuit = some (((circuits.get other).getD {}).recordFailure config
          (clock.reading 0) (clock.reading 1) code) :=
        stored.symm.trans ((get_update other other _ circuits).trans (if_pos rfl))
      cases changed
      rw [recordFailure_opened opened]
      simp only [opening, stored, Option.any_some, opened]
      cases before : circuits.get other with
      | none => simp
      | some old =>
        by_cases was : old.state = .opened
        · simpa [was] using tracks old before was
        · simp [was]
    · have quiet : opening config id circuits (clock, .recordFailure other code) = none := by
        have kept : ((machine config).next circuits (clock, .recordFailure other code)).get id =
            circuits.get id := next_other rfl (Ne.symm same) circuits
        simp [opening, kept]
      rw [quiet]
      exact unopened (fun _ eq => same (by cases eq; rfl)) (by intro _ eq; cases eq)
  | forceState other state =>
    by_cases same : other = id
    · subst same
      have changed : some circuit = some (((circuits.get other).getD {}).forceState
          (clock.reading 0) state) :=
        stored.symm.trans ((get_update other other _ circuits).trans (if_pos rfl))
      cases changed
      cases state with
      | opened => simp [opening, DeploymentCircuit.forceState]
      | closed | halfOpen => cases opened
    · have quiet : opening config id circuits (clock, .forceState other state) = none := by
        cases state <;> simp [opening, same]
      rw [quiet]
      exact unopened (by intro _ eq; cases eq) (fun _ eq => same (by cases eq; rfl))
  | isOpen _ | getState _ | snapshot _ | snapshotAll | recordSuccess _ | reset _ =>
    exact unopened (by intro _ eq; cases eq) (by intro _ eq; cases eq)

theorem tracks_after {last : Option ℚ} (tracks : Tracks id last circuits) (calls : List Input) :
    Tracks id ((lastOpening config id circuits calls).or last)
      ((machine config).after circuits calls) := by
  induction calls generalizing circuits last with
  | nil => exact tracks
  | cons input rest ih =>
    rw [lastOpening, Option.or_assoc]
    exact ih (tracks.next input)

theorem opening_le {time : ℚ} (opened : opening config id circuits input = some time) :
    time ≤ input.1.finish := by
  obtain ⟨clock, call⟩ := input
  cases call with
  | recordFailure other code =>
    simp only [opening] at opened
    split at opened
    · cases opened
      exact clock.ends 1
    · cases opened
  | forceState other state =>
    cases state with
    | opened =>
      simp only [opening] at opened
      split at opened
      · cases opened
        exact clock.ends 0
      · cases opened
    | closed | halfOpen => cases opened
  | isOpen _ | getState _ | snapshot _ | snapshotAll | recordSuccess _ | reset _ => cases opened

theorem lastOpening_le {calls : List Input} {time : ℚ}
    (opened : lastOpening config id circuits calls = some time) :
    ∃ input ∈ calls, time ≤ input.1.finish := by
  induction calls generalizing circuits with
  | nil => cases opened
  | cons input rest ih =>
    rw [lastOpening, Option.or_eq_some_iff] at opened
    rcases opened with later | ⟨_, first⟩
    · obtain ⟨call, mem, le⟩ := ih later
      exact ⟨call, List.mem_cons_of_mem _ mem, le⟩
    · exact ⟨input, List.mem_cons_self, opening_le first⟩

theorem allSound_after (config : BreakerConfig) (calls : List Input) :
    AllSound config ((machine config).after empty calls) := by
  refine Machine.after_of_step (P := AllSound config) ?_ ?_ calls
  · intro circuits input sound
    exact sound.next input
  · intro id circuit stored
    cases stored

/-- After any calls the circuits are sound, a call about one deployment leaves
the others alone, and a deployment is only kept out during the cooldown that
began when its circuit was opened last. -/
theorem circuits_are_sound (config : BreakerConfig) (calls : List Input) :
    let circuits := (machine config).after empty calls
    AllSound config circuits ∧
      (∀ id other input, target input.2 = some id → other ≠ id →
        ((machine config).next circuits input).get other = circuits.get other) ∧
      ∀ since id (clock : ClockReadings), InOrder since (calls ++ [(clock, .isOpen id)]) →
        (isOpen config clock.start id circuits).1 = true →
        ∃ openedAt, lastOpening config id empty calls = some openedAt ∧
          openedAt ≤ clock.start ∧ clock.start < openedAt + config.cooldownSeconds := by
  intro circuits
  have sound : AllSound config circuits := allSound_after config calls
  refine ⟨sound, fun id other input about distinct => next_other about distinct circuits, ?_⟩
  intro since id clock ordered isOpened
  unfold isOpen at isOpened
  split at isOpened
  · cases isOpened
  · cases stored : circuits.get id with
    | none => simp [stored] at isOpened
    | some circuit =>
      simp only [stored] at isOpened
      obtain ⟨openedAt, opened, since_opened, short⟩ :=
        (DeploymentCircuit.isOpen_fst clock.start (sound id circuit stored)).mp isOpened
      have tracks : Tracks id ((lastOpening config id empty calls).or none) circuits :=
        tracks_after (by simp [Tracks]) calls
      have last : lastOpening config id empty calls = some openedAt := by
        rw [← since_opened, tracks circuit stored opened, Option.or_none]
      obtain ⟨input, mem, le⟩ := lastOpening_le last
      have done : input.1.finish ≤ clock.start :=
        (Machine.InOrder.le_last (fun i => i.1.ends 0) ordered).2 input mem
      exact ⟨openedAt, last, le.trans done, by linarith⟩

def hastyBreaker : BreakerConfig := .ofSettings 1 30 2 true

theorem failed_deployment_is_kept_out :
    ∃ openedAt, lastOpening hastyBreaker "d-1" empty
        [(.still 5, .recordFailure "d-1" none)] = some openedAt ∧
      openedAt ≤ 20 ∧ 20 < openedAt + hastyBreaker.cooldownSeconds :=
  (circuits_are_sound hastyBreaker [(.still 5, .recordFailure "d-1" none)]).2.2 0 "d-1"
    (.still 20) (by decide +kernel) (by decide +kernel)

end CircuitBreaker

end AgentHive
