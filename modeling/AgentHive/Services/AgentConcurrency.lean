import AgentHive.Process.Machine
import AgentHive.Services.ChatSchemas
import AgentHive.Store.Counters
import Mathlib.Data.Rat.Floor

/-!
The slots in which agents run: one counter for a tenant, one for each user and
one for each agent of it, all taken together.
-/

namespace AgentHive.Concurrency

open Chat (AgentConcurrencyDecision)
open OrderedDict (countValues_erase countValues_set down ofKind oneOf)

structure ConcurrencySettings where
  agentConcurrencyEnabled : Bool := true
  agentConcurrencyTenantLimit : Int := 40
  agentConcurrencyUserLimit : Int := 4
  agentConcurrencyAgentLimit : Int := 12
  agentConcurrencyWaitTimeoutSeconds : ℚ := 1 / 5

structure AgentConcurrencySlot where
  scope : String
  key : String
  limit : Nat
deriving DecidableEq

def AgentConcurrencySlot.place (slot : AgentConcurrencySlot) : String × String :=
  (slot.scope, slot.key)

structure AgentConcurrencyLimits where
  tenant : Nat
  user : Nat
  agent : Nat
deriving DecidableEq

structure AgentConcurrencyRequest where
  tenantId : UUID
  userId : UUID
  agentId : Option UUID
  requestId : Option String := none
deriving DecidableEq

structure LimitExceeded where
  code : String := "agent_concurrency_limited"
  message : String := "Agent execution concurrency limit exceeded. Please retry shortly."
  scope : String
  limits : AgentConcurrencyLimits
  requestId : Option String
  retryAfterSeconds : Int
deriving DecidableEq

abbrev Active : Type := OrderedDict (String × String) Nat

def limits (settings : ConcurrencySettings) : AgentConcurrencyLimits where
  tenant := (max settings.agentConcurrencyTenantLimit 0).toNat
  user := (max settings.agentConcurrencyUserLimit 0).toNat
  agent := (max settings.agentConcurrencyAgentLimit 0).toNat

def slots (str : UUID → String) (request : AgentConcurrencyRequest)
    (limits : AgentConcurrencyLimits) : List AgentConcurrencySlot :=
  let tenantKey := str request.tenantId
  let agentKey := (request.agentId.map str).getD "direct-chat"
  [ { scope := "tenant", key := tenantKey, limit := limits.tenant },
    { scope := "user", key := tenantKey ++ ":" ++ str request.userId, limit := limits.user },
    { scope := "agent", key := tenantKey ++ ":" ++ agentKey, limit := limits.agent }
  ].filter fun slot => 0 < slot.limit

def blockedSlot (active : Active) (slots : List AgentConcurrencySlot) :
    Option AgentConcurrencySlot :=
  slots.find? fun slot => slot.limit ≤ active.count slot.place

def take (active : Active) : List AgentConcurrencySlot → Active × List (String × Nat)
  | [] => (active, [])
  | slot :: rest =>
    let raised := active.up slot.place
    ((take raised rest).1, (slot.scope, raised.count slot.place) :: (take raised rest).2)

def release (active : Active) (slots : List AgentConcurrencySlot) : Active :=
  slots.foldl (fun active slot => active.down slot.place) active

def limitExceeded (settings : ConcurrencySettings) (blocked : AgentConcurrencySlot)
    (limits : AgentConcurrencyLimits) (requestId : Option String) : LimitExceeded where
  scope := blocked.scope
  limits := limits
  requestId := requestId
  retryAfterSeconds := max 1 ⌈settings.agentConcurrencyWaitTimeoutSeconds⌉

def decisionOf (limits : AgentConcurrencyLimits) (enabled acquired : Bool)
    (active : List (String × Nat)) : AgentConcurrencyDecision where
  enabled := enabled
  acquired := acquired
  tenantLimit := limits.tenant
  userLimit := limits.user
  agentLimit := limits.agent
  active := active

inductive Stage
  | waiting (request : AgentConcurrencyRequest) (deadline : ℚ)
  | running (request : AgentConcurrencyRequest) (decision : AgentConcurrencyDecision)

structure LimiterState (ι : Type) where
  active : Active
  calls : OrderedDict ι Stage

/-- What happens to a call. The clock is read before the first attempt and after
each failed one; a call asleep may be cancelled; a block returns or raises. -/
inductive Event (ι : Type)
  | enter (call : ι) (request : AgentConcurrencyRequest) (now checked : ℚ)
  | wake (call : ι) (checked : ℚ)
  | cancel (call : ι)
  | leave (call : ι) (raised : Option Exc)

inductive Answer
  | entered (decision : AgentConcurrencyDecision)
  | waits
  | refused (error : LimitExceeded)
  | cancelled
  | left (raised : Option Exc)
  | idle

variable {ι : Type} [DecidableEq ι]

def LimiterState.start : LimiterState ι := { active := .empty, calls := .empty }

def attempt (settings : ConcurrencySettings) (str : UUID → String) (s : LimiterState ι) (call : ι)
    (request : AgentConcurrencyRequest) (deadline checked : ℚ) : Answer × LimiterState ι :=
  let wanted := slots str request (limits settings)
  match blockedSlot s.active wanted with
  | none =>
    let taken := take s.active wanted
    let decision := decisionOf (limits settings) true true taken.2
    (.entered decision, { active := taken.1, calls := s.calls.set call (.running request decision) })
  | some blocked =>
    if deadline ≤ checked then
      (.refused (limitExceeded settings blocked (limits settings) request.requestId),
        { s with calls := s.calls.erase call })
    else (.waits, { s with calls := s.calls.set call (.waiting request deadline) })

def enter (settings : ConcurrencySettings) (str : UUID → String) (s : LimiterState ι) (call : ι)
    (request : AgentConcurrencyRequest) (now checked : ℚ) : Answer × LimiterState ι :=
  if settings.agentConcurrencyEnabled then
    let deadline := now + max settings.agentConcurrencyWaitTimeoutSeconds 0
    attempt settings str s call request deadline checked
  else
    let decision := decisionOf (limits settings) false false []
    (.entered decision, { s with calls := s.calls.set call (.running request decision) })

/-- The `finally` of the block. -/
def leave (settings : ConcurrencySettings) (str : UUID → String) (s : LimiterState ι) (call : ι)
    (request : AgentConcurrencyRequest) (decision : AgentConcurrencyDecision)
    (raised : Option Exc) : Answer × LimiterState ι :=
  let calls := s.calls.erase call
  if decision.enabled && decision.acquired then
    (.left raised,
      { active := release s.active (slots str request (limits settings)), calls := calls })
  else (.left raised, { s with calls := calls })

def step (settings : ConcurrencySettings) (str : UUID → String) (s : LimiterState ι) :
    Event ι → Answer × LimiterState ι
  | .enter call request now checked =>
    match s.calls.get call with
    | none => enter settings str s call request now checked
    | some _ => (.idle, s)
  | .wake call checked =>
    match s.calls.get call with
    | some (.waiting request deadline) => attempt settings str s call request deadline checked
    | _ => (.idle, s)
  | .cancel call =>
    match s.calls.get call with
    | some (.waiting _ _) => (.cancelled, { s with calls := s.calls.erase call })
    | _ => (.idle, s)
  | .leave call raised =>
    match s.calls.get call with
    | some (.running request decision) => leave settings str s call request decision raised
    | _ => (.idle, s)

def limiter (settings : ConcurrencySettings) (str : UUID → String) :
    Process.Machine (LimiterState ι) (Event ι) Answer :=
  ⟨step settings str⟩

def Stage.holding : Stage → Bool
  | .waiting _ _ => false
  | .running _ decision => decision.enabled && decision.acquired

def Stage.holds (str : UUID → String) (limits : AgentConcurrencyLimits)
    (place : String × String) : Stage → Bool
  | .waiting _ _ => false
  | .running request decision =>
    decision.enabled && decision.acquired &&
      ((slots str request limits).map AgentConcurrencySlot.place).contains place

def LimiterState.holders (s : LimiterState ι) (settings : ConcurrencySettings)
    (str : UUID → String) (place : String × String) : Nat :=
  s.calls.countValues (Stage.holds str (limits settings) place)

def Answer.isRefusal : Answer → Bool
  | .waits | .refused _ | .cancelled => true
  | .entered _ | .left _ | .idle => false

variable {settings : ConcurrencySettings} {str : UUID → String}

def AgentConcurrencyLimits.limitOf (limits : AgentConcurrencyLimits) (scope : String) : Nat :=
  if scope = "tenant" then limits.tenant
  else if scope = "user" then limits.user
  else limits.agent

variable {request : AgentConcurrencyRequest}

theorem limit_of_mem_slots {limits : AgentConcurrencyLimits} {slot : AgentConcurrencySlot}
    (mem : slot ∈ slots str request limits) : slot.limit = limits.limitOf slot.scope := by
  have listed := (List.mem_filter.mp mem).1
  simp only [List.mem_cons, List.not_mem_nil, or_false] at listed
  rcases listed with same | same | same
  · subst same
    rfl
  · subst same
    rfl
  · subst same
    rfl

theorem places_distinct (str : UUID → String) (request : AgentConcurrencyRequest)
    (limits : AgentConcurrencyLimits) :
    ((slots str request limits).map AgentConcurrencySlot.place).Nodup := by
  refine List.Nodup.sublist (List.filter_sublist.map _) ?_
  simp [AgentConcurrencySlot.place]

theorem take_fst (active : Active) (slots : List AgentConcurrencySlot) :
    (take active slots).1 =
      (slots.map AgentConcurrencySlot.place).foldl OrderedDict.up active := by
  induction slots generalizing active with
  | nil => rfl
  | cons slot rest ih => exact ih _

theorem release_eq (active : Active) (slots : List AgentConcurrencySlot) :
    release active slots =
      (slots.map AgentConcurrencySlot.place).foldl down active := by
  rw [release, List.foldl_map]

theorem room_of_not_blocked {active : Active} {slots : List AgentConcurrencySlot}
    (free : blockedSlot active slots = none) :
    ∀ slot ∈ slots, active.count slot.place < slot.limit := by
  intro slot mem
  have open_ := List.find?_eq_none.mp free slot mem
  simpa using open_

variable {decision : AgentConcurrencyDecision}

theorem ofKind_holds (held : (decision.enabled && decision.acquired) = true)
    (place : String × String) :
    ofKind (Stage.holds str (limits settings) place)
        (some (.running request decision)) =
      oneOf ((slots str request (limits settings)).map AgentConcurrencySlot.place)
        place := by
  simp only [ofKind, oneOf, Option.any_some, Stage.holds, held,
    Bool.true_and, List.contains_iff_mem]
  by_cases there : place ∈ (slots str request (limits settings)).map AgentConcurrencySlot.place
  · rw [if_pos there, if_pos there]
  · rw [if_neg there, if_neg there]

theorem ofKind_not_holding (stage : Option Stage) (free : stage.any Stage.holding = false)
    (place : String × String) :
    ofKind (Stage.holds str (limits settings) place) stage = 0 := by
  cases stage with
  | none => rfl
  | some stage =>
    cases stage with
    | waiting request deadline => rfl
    | running request decision =>
      have not_held : (decision.enabled && decision.acquired) = false := free
      simp [ofKind, Stage.holds, not_held]

/-- Every counter has the number of its holders and no other entry is left; none
is above the limit of its slot. -/
structure Exact (settings : ConcurrencySettings) (str : UUID → String) (s : LimiterState ι) :
    Prop where
  counts : s.active.Counts (s.holders settings str)
  within : ∀ request, ∀ slot ∈ slots str request (limits settings),
    s.holders settings str slot.place ≤ slot.limit

omit [DecidableEq ι] in
theorem Exact.start : Exact settings str (LimiterState.start : LimiterState ι) where
  counts := OrderedDict.Counts.empty
  within := fun _ _ _ => Nat.zero_le _

variable {s : LimiterState ι} {call : ι}

section

variable (exact_ : Exact settings str s)

include exact_

section

variable (free : (s.calls.get call).any Stage.holding = false)

include free

theorem Exact.unheld {calls : OrderedDict ι Stage}
    (moved : ∀ place, calls.countValues (Stage.holds str (limits settings) place) +
        ofKind (Stage.holds str (limits settings) place) (s.calls.get call) =
      s.calls.countValues (Stage.holds str (limits settings) place)) :
    Exact settings str { s with calls := calls } := by
  have same : ∀ place, ({ s with calls := calls } : LimiterState ι).holders settings str place =
      s.holders settings str place := by
    intro place
    have counted := moved place
    rw [ofKind_not_holding _ free] at counted
    exact counted
  refine ⟨?_, ?_⟩
  · intro place
    rw [same place]
    exact exact_.counts place
  · intro request slot mem
    rw [same slot.place]
    exact exact_.within request slot mem

theorem Exact.set_unheld {stage : Stage}
    (unheld : stage.holding = false) :
    Exact settings str { s with calls := s.calls.set call stage } := by
  refine exact_.unheld free fun place => ?_
  have none_ : ofKind (Stage.holds str (limits settings) place) (some stage) = 0 :=
    ofKind_not_holding (some stage) unheld place
  rw [countValues_set, none_, Nat.add_zero]

theorem Exact.erase_unheld :
    Exact settings str { s with calls := s.calls.erase call } :=
  exact_.unheld free fun _ => countValues_erase _ _ _

theorem Exact.taken (room : blockedSlot s.active (slots str request (limits settings)) = none)
    (held : (decision.enabled && decision.acquired) = true) :
    Exact settings str
      { active := (take s.active (slots str request (limits settings))).1
        calls := s.calls.set call (.running request decision) } := by
  have more : ∀ active place,
      ({ active := active, calls := s.calls.set call (.running request decision) } :
        LimiterState ι).holders settings str place =
      s.holders settings str place +
        oneOf ((slots str request (limits settings)).map AgentConcurrencySlot.place)
          place := by
    intro active place
    have counted := countValues_set s.calls
      (Stage.holds str (limits settings) place) call (.running request decision)
    rw [ofKind_not_holding _ free, ofKind_holds held] at counted
    exact counted
  refine ⟨?_, ?_⟩
  · intro place
    rw [take_fst, exact_.counts.up_all (places_distinct str request (limits settings)) place]
    simp only [more]
  · intro other slot mem
    simp only [more]
    have old := exact_.within other slot mem
    rw [oneOf]
    split
    · -- The slot taken there has the same scope, so that its limit is the same.
      rename_i there
      obtain ⟨mine, listed, place⟩ := List.mem_map.mp there
      have free_ := room_of_not_blocked room mine listed
      have scope : mine.scope = slot.scope := congrArg Prod.fst place
      have limit : mine.limit = slot.limit := by
        rw [limit_of_mem_slots listed, limit_of_mem_slots mem, scope]
      rw [place, exact_.counts.count_eq, limit] at free_
      exact free_
    · exact old

omit free in
theorem Exact.released (running : s.calls.get call = some (.running request decision))
    (held : (decision.enabled && decision.acquired) = true) :
    Exact settings str
      { active := release s.active (slots str request (limits settings))
        calls := s.calls.erase call } := by
  have fewer : ∀ active place,
      ({ active := active, calls := s.calls.erase call } : LimiterState ι).holders settings str
        place =
      s.holders settings str place -
        oneOf ((slots str request (limits settings)).map AgentConcurrencySlot.place)
          place := by
    intro active place
    have counted := countValues_erase s.calls
      (Stage.holds str (limits settings) place) call
    rw [running, ofKind_holds held] at counted
    exact Nat.eq_sub_of_add_eq counted
  refine ⟨?_, ?_⟩
  · intro place
    rw [release_eq,
      exact_.counts.down_all (places_distinct str request (limits settings)) place]
    simp only [fewer]
  · intro other slot mem
    simp only [fewer]
    exact (Nat.sub_le _ _).trans (exact_.within other slot mem)

theorem attempt_exact (request : AgentConcurrencyRequest)
    (deadline checked : ℚ) :
    Exact settings str (attempt settings str s call request deadline checked).2 := by
  rw [attempt]
  split
  · rename_i room
    exact exact_.taken free room rfl
  · split
    · exact exact_.erase_unheld free
    · exact exact_.set_unheld free rfl

theorem enter_exact (request : AgentConcurrencyRequest)
    (now checked : ℚ) : Exact settings str (enter settings str s call request now checked).2 := by
  rw [enter]
  split
  · exact attempt_exact exact_ free request _ checked
  · exact exact_.set_unheld free rfl

end

theorem leave_exact
    (running : s.calls.get call = some (.running request decision)) (raised : Option Exc) :
    Exact settings str (leave settings str s call request decision raised).2 := by
  rw [leave]
  split
  · rename_i held
    exact exact_.released running held
  · rename_i unheld
    refine exact_.erase_unheld ?_
    rw [running]
    exact Bool.eq_false_iff.mpr unheld

theorem step_exact (event : Event ι) :
    Exact settings str (step settings str s event).2 := by
  cases event with
  | enter call request now checked =>
    cases found : s.calls.get call with
    | none =>
      simp only [step, found]
      exact enter_exact exact_ (by rw [found]; rfl) request now checked
    | some stage =>
      simp only [step, found]
      exact exact_
  | wake call checked =>
    simp only [step]
    split
    · rename_i request deadline found
      exact attempt_exact exact_ (by rw [found]; rfl) request deadline checked
    · exact exact_
  | cancel call =>
    simp only [step]
    split
    · rename_i request deadline found
      exact exact_.erase_unheld (by rw [found]; rfl)
    · exact exact_
  | leave call raised =>
    simp only [step]
    split
    · rename_i request decision found
      exact leave_exact exact_ found raised
    · exact exact_

end

theorem attempt_refused {deadline checked : ℚ}
    (refused : (attempt settings str s call request deadline checked).1.isRefusal = true) :
    (attempt settings str s call request deadline checked).2.active = s.active := by
  rw [attempt] at refused ⊢
  split
  · rename_i room
    simp only [room] at refused
    cases refused
  · split
    · rfl
    · rfl

theorem refused_unchanged {event : Event ι}
    (refused : (step settings str s event).1.isRefusal = true) :
    (step settings str s event).2.active = s.active := by
  cases event with
  | enter call request now checked =>
    cases found : s.calls.get call with
    | none =>
      simp only [step, found, enter] at refused ⊢
      split
      · rename_i enabled
        simp only [enabled, if_true] at refused
        exact attempt_refused refused
      · rfl
    | some stage => simp only [step, found]
  | wake call checked =>
    simp only [step] at refused ⊢
    split
    · rename_i request deadline found
      simp only [found] at refused
      exact attempt_refused refused
    · rfl
  | cancel call =>
    simp only [step]
    split
    · rfl
    · rfl
  | leave call raised =>
    simp only [step] at refused ⊢
    split
    · rename_i request decision found
      simp only [found, leave] at refused
      split at refused
      · cases refused
      · cases refused
    · rfl

omit [DecidableEq ι] in
theorem no_holders (free : ∀ e ∈ s.calls.entries, e.2.holding = false) (place : String × String) :
    s.holders settings str place = 0 := by
  refine List.countP_eq_zero.mpr fun e mem => ?_
  have none_ : ofKind (Stage.holds str (limits settings) place) (some e.2) = 0 :=
    ofKind_not_holding (some e.2) (free e mem) place
  simpa [ofKind] using none_

/-- After any calls that interleave in any order, each counter is the number of
calls that hold its slot and is within the limit; the next attempt that is refused
leaves the counters, and without holders there are none. -/
theorem agent_slots_exact (settings : ConcurrencySettings) (str : UUID → String)
    (events : List (Event ι)) :
    let s := (limiter settings str).after .start events
    (∀ place, s.active.count place = s.holders settings str place) ∧
    (∀ request, ∀ slot ∈ slots str request (limits settings),
      s.active.count slot.place ≤ slot.limit) ∧
    (∀ event, (step settings str s event).1.isRefusal = true →
      (step settings str s event).2.active = s.active) ∧
    ((∀ e ∈ s.calls.entries, e.2.holding = false) → s.active = .empty) := by
  intro s
  have exact_ : Exact settings str s :=
    Process.Machine.after_of_step (m := limiter settings str) (P := Exact settings str)
      (fun _ event kept => step_exact kept event) Exact.start events
  refine ⟨exact_.counts.count_eq, ?_, fun _ => refused_unchanged, ?_⟩
  · intro request slot mem
    rw [exact_.counts.count_eq]
    exact exact_.within request slot mem
  · intro free
    exact exact_.counts.eq_empty (no_holders free)

example :
    let request : AgentConcurrencyRequest := { tenantId := 1, userId := 2, agentId := none }
    let settings : ConcurrencySettings :=
      { agentConcurrencyTenantLimit := 1, agentConcurrencyWaitTimeoutSeconds := 0 }
    ((limiter settings fun _ => "7").answer .start [.enter 1 request 0 0]
      (.enter 2 request 1 1)).isRefusal = true := by
  decide +kernel

end AgentHive.Concurrency
