import AgentHive.Process.Machine
import AgentHive.Services.AuthService
import AgentHive.Store.Buckets
import AgentHive.Store.Counters
import Mathlib.Algebra.Order.Field.Rat
import Mathlib.Algebra.Order.Ring.Rat
import Mathlib.Data.NNRat.Defs
import Mathlib.Tactic.Linarith

/-!
The throttle of failed logins, with logins that interleave at each `await`.
-/

namespace AgentHive.LoginThrottle

open Buckets

structure ThrottleSettings where
  loginFailureLimit : Int := 5
  loginFailureWindowSeconds : Int := 15 * 60

variable (settings : ThrottleSettings)

def failureLimit : Nat := (max settings.loginFailureLimit 1).toNat

def failureWindow : ℚ :=
  ((max settings.loginFailureWindowSeconds 1 : Int) : ℚ)

abbrev Failures : Type := OrderedDict String (List ℚ)

/-- `is_locked`, with what its compaction leaves. -/
def isLocked (failures : Failures) (keys : List String) (limit : Nat) (window now : ℚ) :
    Bool × Failures :=
  let compacted := compact failures (now - window)
  (keys.any fun key => limit ≤ (bucket compacted key).length, compacted)

def recordFailure (failures : Failures) (keys : List String) (window now : ℚ) : Failures :=
  record failures keys (now - window) now

structure LoginAttempt where
  payload : LoginRequest
  ipAddress : Option String := none

variable (lib : TextLibrary)

def attemptKeys (attempt : LoginAttempt) : List String :=
  AuthService.loginAttemptKeys lib attempt.payload.tenantSlug (lib.lower attempt.payload.email)
    attempt.ipAddress

inductive Stage
  | admitted (attempt : LoginAttempt)
  | failing (attempt : LoginAttempt) (passwordRefused : Bool)

def Stage.attempt : Stage → LoginAttempt
  | .admitted attempt => attempt
  | .failing attempt _ => attempt

inductive LoginRecord
  | refused (at_ : ℚ) (keys : List String)
  | reset (at_ : ℚ) (keys : List String)

structure ThrottleState (ι : Type) where
  failures : Failures
  logins : OrderedDict ι Stage
  now : ℚ
  history : List LoginRecord

inductive LoginStep (ι : Type)
  | begin (login : ι) (attempt : LoginAttempt)
  | found (login : ι) (row : Option User)
  | audited (login : ι)
  | lost (login : ι)

structure Event (ι : Type) where
  elapsed : ℚ≥0
  step : LoginStep ι

inductive Answer
  | tooManyAttempts (retryAfterSeconds : ℚ)
  | goesOn
  | invalidCredentials
  | accepted (user : User)
  | raised
  | idle

variable {ι : Type} [DecidableEq ι]

def ThrottleState.start : ThrottleState ι :=
  { failures := .empty, logins := .empty, now := 0, history := [] }

def begin (settings : ThrottleSettings) (s : ThrottleState ι) (login : ι) (attempt : LoginAttempt) :
    Answer × ThrottleState ι :=
  let checked := isLocked s.failures (attemptKeys lib attempt) (failureLimit settings)
    (failureWindow settings) s.now
  if checked.1 then
    (.tooManyAttempts (failureWindow settings), { s with failures := checked.2 })
  else
    (.goesOn,
      { s with failures := checked.2, logins := s.logins.set login (.admitted attempt) })

variable (s : ThrottleState ι)

def verify (login : ι) (attempt : LoginAttempt) (row : Option User) : Answer × ThrottleState ι :=
  match row with
  | none => (.goesOn, { s with logins := s.logins.set login (.failing attempt false) })
  | some user =>
    if user.isActive = false then
      (.goesOn, { s with logins := s.logins.set login (.failing attempt false) })
    else if lib.verifyPassword attempt.payload.password user.hashedPassword = false then
      (.goesOn,
        { s with
          logins := s.logins.set login (.failing attempt true)
          history := .refused s.now (attemptKeys lib attempt) :: s.history })
    else
      (.accepted user,
        { s with
          failures := reset s.failures (attemptKeys lib attempt)
          logins := s.logins.erase login
          history := .reset s.now (attemptKeys lib attempt) :: s.history })

def countFailure (settings : ThrottleSettings) (s : ThrottleState ι) (login : ι)
    (attempt : LoginAttempt) : Answer × ThrottleState ι :=
  (.invalidCredentials,
    { s with
      failures := recordFailure s.failures (attemptKeys lib attempt) (failureWindow settings) s.now
      logins := s.logins.erase login })

def perform (settings : ThrottleSettings) (s : ThrottleState ι) :
    LoginStep ι → Answer × ThrottleState ι
  | .begin login attempt =>
    match s.logins.get login with
    | none => begin lib settings s login attempt
    | some _ => (.idle, s)
  | .found login row =>
    match s.logins.get login with
    | some (.admitted attempt) => verify lib s login attempt row
    | _ => (.idle, s)
  | .audited login =>
    match s.logins.get login with
    | some (.failing attempt _) => countFailure lib settings s login attempt
    | _ => (.idle, s)
  | .lost login =>
    match s.logins.get login with
    | some _ => (.raised, { s with logins := s.logins.erase login })
    | none => (.idle, s)

def wait (elapsed : ℚ≥0) : ThrottleState ι :=
  { s with now := s.now + elapsed }

def throttle (settings : ThrottleSettings) : Process.Machine (ThrottleState ι) (Event ι) Answer :=
  ⟨fun s event => perform lib settings (wait s event.elapsed) event.step⟩

/-- The password was refused under the key, from `t` on and before the window ends. -/
def refusedIn (key : String) (t window : ℚ) : LoginRecord → Bool
  | .refused at_ keys => keys.contains key && (t ≤ at_ && at_ < t + window)
  | .reset _ _ => false

def resetIn (key : String) (t window : ℚ) : LoginRecord → Bool
  | .refused _ _ => false
  | .reset at_ keys => keys.contains key && (t ≤ at_ && at_ < t + window)

/-- In a window without a reset of a key, so many passwords at most are refused
under it. -/
def GuessesBounded (limit : Nat) (window : ℚ) (history : List LoginRecord) : Prop :=
  ∀ key t, history.any (resetIn key t window) = false →
    history.countP (refusedIn key t window) ≤ limit

def openLogins (key : String) : Nat :=
  s.logins.countValues fun stage => (attemptKeys lib stage.attempt).contains key

def liveFailures (key : String) : Nat :=
  (later (s.now - failureWindow settings) (bucket s.failures key)).length

/-- A login is let in only while the failures under each of its keys and the logins
under way with it are fewer than the limit, and none is lost once its password is
refused. -/
def InTurn (settings : ThrottleSettings) (s : ThrottleState ι) :
    LoginStep ι → Prop
  | .begin login attempt =>
    s.logins.get login = none →
    (isLocked s.failures (attemptKeys lib attempt) (failureLimit settings)
      (failureWindow settings) s.now).1 = false →
    ∀ key ∈ attemptKeys lib attempt,
      liveFailures settings s key + openLogins lib s key < failureLimit settings
  | .lost login => ∀ attempt, s.logins.get login ≠ some (.failing attempt true)
  | .found _ _ | .audited _ => True

end AgentHive.LoginThrottle

namespace AgentHive.LoginThrottle

open Buckets

variable {lib : TextLibrary} {settings : ThrottleSettings} {ι : Type}
  {s : ThrottleState ι} {login : ι} {attempt : LoginAttempt} {key : String}

theorem attemptKeys_nodup (lib : TextLibrary) (attempt : LoginAttempt) :
    (attemptKeys lib attempt).Nodup := by
  simp only [attemptKeys, AuthService.loginAttemptKeys, List.nodup_cons, List.mem_singleton,
    List.not_mem_nil, not_false_eq_true, List.nodup_nil, and_true]
  intro same
  have texts := congrArg String.toList same
  simp only [String.toList_append, List.append_assoc, List.append_cancel_left_eq] at texts
  cases texts

theorem failureWindow_pos (settings : ThrottleSettings) : 0 < failureWindow settings := by
  have one : (1 : Int) ≤ max settings.loginFailureWindowSeconds 1 := le_max_right _ _
  have pos : (0 : Int) < max settings.loginFailureWindowSeconds 1 := by omega
  exact Int.cast_pos.mpr pos

def Stage.isRefused : Stage → Bool
  | .admitted _ => false
  | .failing _ passwordRefused => passwordRefused

def pending (lib : TextLibrary) (s : ThrottleState ι) (key : String) : Nat :=
  s.logins.countValues fun stage =>
    stage.isRefused && (attemptKeys lib stage.attempt).contains key

theorem pending_le_open (lib : TextLibrary) (s : ThrottleState ι) (key : String) :
    pending lib s key ≤ openLogins lib s key :=
  List.countP_mono_left fun _ _ both => (Bool.and_eq_true_iff.mp both).2

/-- What the steps keep: the failures that the window reaches and the logins under
way are within the limit, and passwords refused in a window that has not ended are
counted or still to be counted. -/
structure Kept (lib : TextLibrary) (settings : ThrottleSettings) (s : ThrottleState ι) : Prop where
  room : ∀ key, liveFailures settings s key + openLogins lib s key ≤ failureLimit settings
  traced : ∀ key t, s.now < t + failureWindow settings →
    s.history.any (resetIn key t (failureWindow settings)) = false →
    s.history.countP (refusedIn key t (failureWindow settings)) ≤
      (bucket s.failures key).countP (fun at_ => t ≤ at_) + pending lib s key
  past : ∀ key t, s.now < t →
    s.history.countP (refusedIn key t (failureWindow settings)) = 0
  bounded : GuessesBounded (failureLimit settings) (failureWindow settings) s.history

theorem countP_le_live {t window now : ℚ} (soon : now < t + window) (items : List ℚ) :
    items.countP (fun at_ => t ≤ at_) = (later (now - window) items).countP fun at_ => t ≤ at_ := by
  rw [later, List.countP_filter]
  refine List.countP_congr fun at_ _ => ?_
  simp only [decide_eq_true_eq, Bool.and_eq_true]
  constructor
  · intro from_
    exact ⟨from_, by linarith⟩
  · exact And.left

theorem bounded_of_room (room : ∀ key,
      liveFailures settings s key + openLogins lib s key ≤ failureLimit settings)
    {t : ℚ} (soon : s.now < t + failureWindow settings) :
    (bucket s.failures key).countP (fun at_ => t ≤ at_) + pending lib s key ≤
      failureLimit settings := by
  have live : (bucket s.failures key).countP (fun at_ => t ≤ at_) ≤
      liveFailures settings s key := by
    rw [countP_le_live soon]
    exact List.countP_le_length
  have waiting := pending_le_open lib s key
  have all := room key
  omega

theorem Kept.start : Kept lib settings (ThrottleState.start : ThrottleState ι) where
  room := fun _ => Nat.zero_le _
  traced := fun _ _ _ _ => Nat.zero_le _
  past := fun _ _ _ => rfl
  bounded := fun _ _ _ => Nat.zero_le _

theorem Kept.wait (kept : Kept lib settings s) (elapsed : ℚ≥0) :
    Kept lib settings (wait s elapsed) := by
  have forward : s.now ≤ s.now + elapsed := by
    have nonneg : (0 : ℚ) ≤ elapsed := elapsed.2
    linarith
  refine ⟨fun key => ?_, fun key t soon => ?_, fun key t before => ?_, kept.bounded⟩
  · have fewer : (later (s.now + elapsed - failureWindow settings) (bucket s.failures key)).length ≤
        (later (s.now - failureWindow settings) (bucket s.failures key)).length := by
      rw [later, later, ← List.countP_eq_length_filter, ← List.countP_eq_length_filter]
      refine List.countP_mono_left fun at_ _ late => ?_
      rw [decide_eq_true_eq] at late ⊢
      linarith
    exact (Nat.add_le_add_right fewer _).trans (kept.room key)
  · exact kept.traced key t (forward.trans_lt soon)
  · exact kept.past key t (forward.trans_lt before)

theorem Kept.relogged (kept : Kept lib settings s) {logins : OrderedDict ι Stage}
    (fewer : ∀ key, openLogins lib { s with logins := logins } key ≤ openLogins lib s key)
    (waiting : ∀ key, pending lib s key ≤ pending lib { s with logins := logins } key) :
    Kept lib settings { s with logins := logins } where
  room := fun key => (Nat.add_le_add_left (fewer key) _).trans (kept.room key)
  traced := fun key t soon free =>
    (kept.traced key t soon free).trans (Nat.add_le_add_left (waiting key) _)
  past := kept.past
  bounded := kept.bounded

theorem live_compacted (settings : ThrottleSettings) (s : ThrottleState ι) (key : String) :
    liveFailures settings
        { s with failures := compact s.failures (s.now - failureWindow settings) } key =
      liveFailures settings s key := by
  simp only [liveFailures, bucket_compact, later_later]

theorem Kept.compacted (kept : Kept lib settings s) :
    Kept lib settings
      { s with failures := compact s.failures (s.now - failureWindow settings) } where
  room := by
    intro key
    rw [live_compacted]
    exact kept.room key
  traced := by
    intro key t soon free
    rw [bucket_compact, ← countP_le_live soon]
    exact kept.traced key t soon free
  past := kept.past
  bounded := kept.bounded

variable [DecidableEq ι]

theorem ofKind_keys (lib : TextLibrary) (stage : Stage) (key : String) :
    OrderedDict.ofKind (fun stage => (attemptKeys lib stage.attempt).contains key) (some stage) =
      OrderedDict.oneOf (attemptKeys lib stage.attempt) key := by
  simp only [OrderedDict.ofKind, OrderedDict.oneOf, Option.any_some, List.contains_iff_mem]

def pendingOf (lib : TextLibrary) (stage : Stage) (key : String) : Nat :=
  if stage.isRefused then OrderedDict.oneOf (attemptKeys lib stage.attempt) key else 0

theorem ofKind_pending (lib : TextLibrary) (stage : Stage) (key : String) :
    OrderedDict.ofKind (fun stage =>
        stage.isRefused && (attemptKeys lib stage.attempt).contains key) (some stage) =
      pendingOf lib stage key := by
  cases refused : stage.isRefused with
  | true =>
    simp only [OrderedDict.ofKind, OrderedDict.oneOf, pendingOf, Option.any_some, refused,
      Bool.true_and, List.contains_iff_mem, if_true]
  | false => simp [OrderedDict.ofKind, pendingOf, refused]

variable {login : ι}

theorem openLogins_new (lib : TextLibrary) (s : ThrottleState ι) (new : s.logins.get login = none)
    (stage : Stage) (key : String) :
    openLogins lib { s with logins := s.logins.set login stage } key =
      openLogins lib s key + OrderedDict.oneOf (attemptKeys lib stage.attempt) key := by
  have counted := OrderedDict.countValues_set s.logins
    (fun stage => (attemptKeys lib stage.attempt).contains key) login stage
  rw [new, ofKind_keys] at counted
  exact counted

theorem openLogins_moved (lib : TextLibrary) (s : ThrottleState ι) {old : Stage}
    (found : s.logins.get login = some old) (stage : Stage) (same : stage.attempt = old.attempt)
    (key : String) :
    openLogins lib { s with logins := s.logins.set login stage } key = openLogins lib s key := by
  have counted := OrderedDict.countValues_set s.logins
    (fun stage => (attemptKeys lib stage.attempt).contains key) login stage
  rw [found, ofKind_keys, ofKind_keys, same] at counted
  exact Nat.add_right_cancel counted

theorem openLogins_erase (lib : TextLibrary) (s : ThrottleState ι) {stage : Stage}
    (found : s.logins.get login = some stage) (key : String) :
    openLogins lib { s with logins := s.logins.erase login } key +
        OrderedDict.oneOf (attemptKeys lib stage.attempt) key = openLogins lib s key := by
  have counted := OrderedDict.countValues_erase s.logins
    (fun stage => (attemptKeys lib stage.attempt).contains key) login
  rw [found, ofKind_keys] at counted
  exact counted

theorem pending_new (lib : TextLibrary) (s : ThrottleState ι) (new : s.logins.get login = none)
    (attempt : LoginAttempt) (key : String) :
    pending lib { s with logins := s.logins.set login (.admitted attempt) } key =
      pending lib s key := by
  have counted := OrderedDict.countValues_set s.logins
    (fun stage => stage.isRefused && (attemptKeys lib stage.attempt).contains key) login
    (.admitted attempt)
  rw [new, ofKind_pending] at counted
  exact counted

theorem pending_moved (lib : TextLibrary) (s : ThrottleState ι)
    (found : s.logins.get login = some (.admitted attempt)) (stage : Stage) (key : String) :
    pending lib { s with logins := s.logins.set login stage } key =
      pending lib s key + pendingOf lib stage key := by
  have counted := OrderedDict.countValues_set s.logins
    (fun stage => stage.isRefused && (attemptKeys lib stage.attempt).contains key) login stage
  rw [found, ofKind_pending, ofKind_pending] at counted
  exact counted

theorem pending_erase (lib : TextLibrary) (s : ThrottleState ι) {stage : Stage}
    (found : s.logins.get login = some stage) (key : String) :
    pending lib { s with logins := s.logins.erase login } key + pendingOf lib stage key =
      pending lib s key := by
  have counted := OrderedDict.countValues_erase s.logins
    (fun stage => stage.isRefused && (attemptKeys lib stage.attempt).contains key) login
  rw [found, ofKind_pending] at counted
  exact counted

theorem oneOf_of_mem {keys : List String} (own : key ∈ keys) : OrderedDict.oneOf keys key = 1 :=
  if_pos own

theorem oneOf_of_not_mem {keys : List String} (other : key ∉ keys) :
    OrderedDict.oneOf keys key = 0 :=
  if_neg other

theorem begin_kept (kept : Kept lib settings s) (new : s.logins.get login = none)
    (inTurn : InTurn lib settings s (.begin login attempt)) :
    Kept lib settings (begin lib settings s login attempt).2 := by
  rw [begin]
  split
  · exact kept.compacted
  · rename_i free
    have turn := inTurn new (Bool.eq_false_iff.mpr free)
    refine ⟨fun key => ?_, fun key t soon noReset => ?_, kept.past, kept.bounded⟩
    · have opened := openLogins_new lib s new (.admitted attempt) key
      have live := live_compacted settings s key
      have room := kept.room key
      change liveFailures settings
          { s with failures := compact s.failures (s.now - failureWindow settings) } key +
        openLogins lib { s with logins := s.logins.set login (.admitted attempt) } key ≤ _
      by_cases own : key ∈ attemptKeys lib attempt
      · have below := turn key own
        have one := oneOf_of_mem own
        simp only [Stage.attempt] at opened
        omega
      · have zero := oneOf_of_not_mem own
        simp only [Stage.attempt] at opened
        omega
    · refine (kept.compacted.traced key t soon noReset).trans (Nat.add_le_add_left ?_ _)
      exact (pending_new lib s new attempt key).ge

theorem Kept.unverified (kept : Kept lib settings s)
    (found : s.logins.get login = some (.admitted attempt)) :
    Kept lib settings { s with logins := s.logins.set login (.failing attempt false) } := by
  refine kept.relogged (fun key => ?_) (fun key => ?_)
  · exact (openLogins_moved lib s found (.failing attempt false) rfl key).le
  · exact (pending_moved lib s found (.failing attempt false) key).ge

theorem Kept.refused (kept : Kept lib settings s)
    (found : s.logins.get login = some (.admitted attempt)) :
    Kept lib settings
      { s with
        logins := s.logins.set login (.failing attempt true)
        history := .refused s.now (attemptKeys lib attempt) :: s.history } := by
  have room : ∀ key, liveFailures settings s key +
      openLogins lib { s with logins := s.logins.set login (.failing attempt true) } key ≤
        failureLimit settings := by
    intro key
    rw [openLogins_moved lib s found (.failing attempt true) rfl key]
    exact kept.room key
  have traced : ∀ key t, s.now < t + failureWindow settings →
      s.history.any (resetIn key t (failureWindow settings)) = false →
      (LoginRecord.refused s.now (attemptKeys lib attempt) :: s.history).countP
          (refusedIn key t (failureWindow settings)) ≤
        (bucket s.failures key).countP (fun at_ => t ≤ at_) +
          pending lib { s with logins := s.logins.set login (.failing attempt true) } key := by
    intro key t soon noReset
    have old := kept.traced key t soon noReset
    rw [pending_moved lib s found, List.countP_cons]
    simp only [pendingOf, Stage.isRefused, Stage.attempt, if_true]
    by_cases own : key ∈ attemptKeys lib attempt
    · rw [oneOf_of_mem own]
      split
      · omega
      · omega
    · have notOwn : refusedIn key t (failureWindow settings)
          (.refused s.now (attemptKeys lib attempt)) = false := by
        simp [refusedIn, own]
      rw [notOwn, oneOf_of_not_mem own]
      exact old
  refine ⟨room, ?_, fun key t before => ?_, fun key t noReset => ?_⟩
  · intro key t soon noReset
    exact traced key t soon (by simpa [resetIn] using noReset)
  · have early : ¬ t ≤ s.now := not_le.mpr before
    rw [List.countP_cons, kept.past key t before]
    simp [refusedIn, early]
  · have noReset_ : s.history.any (resetIn key t (failureWindow settings)) = false := by
      simpa [resetIn] using noReset
    by_cases soon : s.now < t + failureWindow settings
    · refine (traced key t soon noReset_).trans ?_
      exact bounded_of_room (s := { s with logins := s.logins.set login (.failing attempt true) })
        room soon
    · rw [List.countP_cons]
      have over_ : refusedIn key t (failureWindow settings)
          (.refused s.now (attemptKeys lib attempt)) = false := by
        simp [refusedIn, soon]
      rw [over_]
      exact kept.bounded key t noReset_

theorem Kept.accepted (kept : Kept lib settings s)
    (found : s.logins.get login = some (.admitted attempt)) :
    Kept lib settings
      { s with
        failures := reset s.failures (attemptKeys lib attempt)
        logins := s.logins.erase login
        history := .reset s.now (attemptKeys lib attempt) :: s.history } := by
  refine ⟨fun key => ?_, fun key t soon noReset => ?_, fun key t before => ?_,
    fun key t noReset => ?_⟩
  · have opened := openLogins_erase lib s found key
    have room := kept.room key
    have fewer : (later (s.now - failureWindow settings)
        (bucket (reset s.failures (attemptKeys lib attempt)) key)).length ≤
          liveFailures settings s key := by
      rw [bucket_reset]
      split
      · exact Nat.zero_le _
      · exact Nat.le_refl _
    change (later (s.now - failureWindow settings)
        (bucket (reset s.failures (attemptKeys lib attempt)) key)).length +
      openLogins lib { s with logins := s.logins.erase login } key ≤ _
    omega
  · rw [List.any_cons, Bool.or_eq_false_iff] at noReset
    change (LoginRecord.reset s.now (attemptKeys lib attempt) :: s.history).countP
        (refusedIn key t (failureWindow settings)) ≤
      (bucket (reset s.failures (attemptKeys lib attempt)) key).countP (fun at_ => t ≤ at_) +
        pending lib { s with logins := s.logins.erase login } key
    rw [List.countP_cons]
    simp only [refusedIn, Bool.false_eq_true, if_false, Nat.add_zero]
    by_cases from_ : t ≤ s.now
    · -- The window reaches this reset, unless it is of other keys.
      have other : key ∉ attemptKeys lib attempt := by
        intro own
        have reached := noReset.1
        have soon_ : s.now < t + failureWindow settings := soon
        simp [resetIn, own, from_, soon_] at reached
      have waiting : pending lib { s with logins := s.logins.erase login } key =
          pending lib s key := pending_erase lib s found key
      rw [bucket_reset, if_neg other, waiting]
      exact kept.traced key t soon noReset.2
    · rw [kept.past key t (not_le.mp from_)]
      exact Nat.zero_le _
  · rw [List.countP_cons, kept.past key t before]
    rfl
  · rw [List.any_cons, Bool.or_eq_false_iff] at noReset
    rw [List.countP_cons]
    exact kept.bounded key t noReset.2

theorem Kept.counted (kept : Kept lib settings s) {passwordRefused : Bool}
    (found : s.logins.get login = some (.failing attempt passwordRefused)) :
    Kept lib settings
      { s with
        failures := recordFailure s.failures (attemptKeys lib attempt) (failureWindow settings)
          s.now
        logins := s.logins.erase login } := by
  have live : s.now - failureWindow settings < s.now :=
    sub_lt_self _ (failureWindow_pos settings)
  have recorded := bucket_record s.failures (attemptKeys_nodup lib attempt) live
  refine ⟨fun key => ?_, fun key t soon noReset => ?_, kept.past, kept.bounded⟩
  · have opened := openLogins_erase lib s found key
    have room := kept.room key
    change (later (s.now - failureWindow settings) (bucket (record s.failures
        (attemptKeys lib attempt) (s.now - failureWindow settings) s.now) key)).length +
      openLogins lib { s with logins := s.logins.erase login } key ≤ _
    rw [recorded key, later, List.filter_append, List.length_append, ← later, later_later]
    rw [liveFailures] at room
    simp only [Stage.attempt] at opened
    by_cases own : key ∈ attemptKeys lib attempt
    · have one : ([s.now].filter fun item => s.now - failureWindow settings < item).length = 1 := by
        simp [live]
      rw [if_pos own, one]
      rw [oneOf_of_mem own] at opened
      omega
    · rw [if_neg own, List.filter_nil, List.length_nil]
      omega
  · change s.history.countP (refusedIn key t (failureWindow settings)) ≤
      (bucket (record s.failures (attemptKeys lib attempt)
        (s.now - failureWindow settings) s.now) key).countP (fun at_ => t ≤ at_) +
      pending lib { s with logins := s.logins.erase login } key
    have soon_ : s.now < t + failureWindow settings := soon
    by_cases from_ : t ≤ s.now
    · have old := kept.traced key t soon noReset
      have waiting := pending_erase lib s found key
      simp only [pendingOf, Stage.attempt] at waiting
      rw [recorded key, List.countP_append, ← countP_le_live soon_]
      by_cases own : key ∈ attemptKeys lib attempt
      · have one : [s.now].countP (fun at_ => t ≤ at_) = 1 := by simp [from_]
        rw [oneOf_of_mem own] at waiting
        rw [if_pos own, one]
        split at waiting
        · omega
        · omega
      · rw [oneOf_of_not_mem own, ite_self] at waiting
        rw [if_neg own, List.countP_nil]
        omega
    · rw [kept.past key t (not_le.mp from_)]
      exact Nat.zero_le _

theorem Kept.lost (kept : Kept lib settings s) {stage : Stage}
    (found : s.logins.get login = some stage) (unrefused : stage.isRefused = false) :
    Kept lib settings { s with logins := s.logins.erase login } := by
  refine kept.relogged (fun key => ?_) (fun key => ?_)
  · exact Nat.le.intro (openLogins_erase lib s found key)
  · have waiting := pending_erase lib s found key
    rw [pendingOf, unrefused] at waiting
    exact waiting.ge

theorem verify_kept (kept : Kept lib settings s)
    (found : s.logins.get login = some (.admitted attempt)) (row : Option User) :
    Kept lib settings (verify lib s login attempt row).2 := by
  cases row with
  | none => exact kept.unverified found
  | some user =>
    simp only [verify]
    split
    · exact kept.unverified found
    · split
      · exact kept.refused found
      · exact kept.accepted found

theorem perform_kept (kept : Kept lib settings s) (step : LoginStep ι)
    (inTurn : InTurn lib settings s step) : Kept lib settings (perform lib settings s step).2 := by
  cases step with
  | begin login attempt =>
    simp only [perform]
    split
    · rename_i new
      exact begin_kept kept new inTurn
    · exact kept
  | found login row =>
    simp only [perform]
    split
    · rename_i attempt admitted
      exact verify_kept kept admitted row
    · exact kept
  | audited login =>
    simp only [perform]
    split
    · rename_i attempt passwordRefused failing
      exact kept.counted failing
    · exact kept
  | lost login =>
    simp only [perform]
    split
    · rename_i stage underWay
      refine kept.lost underWay ?_
      cases stage with
      | admitted attempt => rfl
      | failing attempt passwordRefused =>
        cases passwordRefused with
        | false => rfl
        | true => exact absurd underWay (inTurn attempt)
    · exact kept

/-- Along steps that keep their turn, a window without a reset of a key never holds
more refused passwords than the limit. -/
theorem guesses_bounded_in_turn (lib : TextLibrary) (settings : ThrottleSettings)
    (events : List (Event ι))
    (inTurn : (throttle lib settings).Along
      (fun s event => InTurn lib settings (wait s event.elapsed) event.step) .start events) :
    GuessesBounded (failureLimit settings) (failureWindow settings)
      ((throttle lib settings).after .start events).history := by
  have kept : Kept lib settings ((throttle lib settings).after .start events) :=
    Process.Machine.keeps (m := throttle lib settings) (P := Kept lib settings)
      (fun _ event kept ok => perform_kept (kept.wait event.elapsed) event.step ok) Kept.start
      inTurn
  exact kept.bounded

def plainTexts : TextLibrary :=
  { hashPassword := id
    verifyPassword := fun password hashed => password == hashed
    needsRehash := fun _ => false
    strip := id
    lower := id }

def ada : User := { tenantId := 1, email := "ada@example.com", hashedPassword := "correct" }

def guess : LoginAttempt :=
  { payload := { tenantSlug := "acme", email := "ada@example.com", password := "wrong" } }

def immediately (step : LoginStep Nat) : Event Nat := { elapsed := 0, step := step }

def overlappingGuesses : List (Event Nat) :=
  [immediately (.begin 1 guess), immediately (.begin 2 guess), immediately (.found 1 (some ada)),
    immediately (.found 2 (some ada)), immediately (.audited 1), immediately (.audited 2)]

def lostGuess : List (Event Nat) :=
  [immediately (.begin 1 guess), immediately (.found 1 (some ada)), immediately (.lost 1),
    immediately (.begin 2 guess), immediately (.found 2 (some ada)), immediately (.audited 2)]

theorem overlapping_guesses_within_five :
    GuessesBounded (failureLimit {}) (failureWindow {})
      ((throttle plainTexts {}).after .start overlappingGuesses).history :=
  guesses_bounded_in_turn plainTexts {} overlappingGuesses
    ⟨fun _ _ => by decide +kernel, fun _ _ => by decide +kernel, trivial, trivial, trivial, trivial,
      trivial⟩

theorem second_guess_let_in :
    let settings : ThrottleSettings := { loginFailureLimit := 1 }
    ¬ GuessesBounded (failureLimit settings) (failureWindow settings)
        ((throttle plainTexts settings).after .start overlappingGuesses).history ∧
      ¬ GuessesBounded (failureLimit settings) (failureWindow settings)
        ((throttle plainTexts settings).after .start lostGuess).history := by
  intro settings
  refine ⟨fun bounded => ?_, fun bounded => ?_⟩
  · have two := bounded "tenant:acme:email:ada@example.com" 0 (by decide +kernel)
    revert two
    decide +kernel
  · have two := bounded "tenant:acme:email:ada@example.com" 0 (by decide +kernel)
    revert two
    decide +kernel

end AgentHive.LoginThrottle
