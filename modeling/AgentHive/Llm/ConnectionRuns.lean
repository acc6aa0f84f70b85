import AgentHive.Llm.ConnectionTest
import AgentHive.Llm.GatewayRuns

/-!
The runs of `test_connection`. A probe that answers leaves its row before
anything else is done with the answer.
-/

namespace AgentHive.LLMGateway

open Process (Action)
open UsageCollector
open Process.Action (wp_bind wp_get wp_ite wp_modify wp_mono wp_ofExcept wp_perform wp_pure
  wp_throw wp_tryCatch)
open List (append_nil nil_append)

section Shapes

variable (gateway : LLMGateway) (request : ConnectionTestRequest) (context : LLMRequestContext)
  (reservation : BudgetReservation)

def probeReport (route : RouteSelection) (result : ConnectionTestResult) : CallEvent :=
  if result.ok then ⟨.recordSuccess route.deployment.id, ()⟩
  else ⟨.recordFailure route.deployment.id "connection_test_failed", ()⟩

inductive ConnectionAttempt (route : RouteSelection) :
    Trace → Except Exc (Option ConnectionTestResult) → Prop
  | unsupported {x : Exc} (failed : adapterFor route = .error x) :
      ConnectionAttempt route [] (.error x)
  | refused {x : Exc} :
      ConnectionAttempt route [⟨.adapterTest route request, .error x⟩] (.error x)
  | uncommitted {result enriched : ConnectionTestResult} {f : Fault} :
      ConnectionAttempt route
        [⟨.adapterTest route request, .ok result⟩, probeReport route result,
          ⟨.recordUsage (connectionTestRecord context route enriched) context, .error f⟩]
        (.error f.toExc)
  | failedProbe {result enriched : ConnectionTestResult}
      (more : (result.ok || connectionTestIsExplicit request) = false) :
      ConnectionAttempt route
        [⟨.adapterTest route request, .ok result⟩, probeReport route result,
          ⟨.recordUsage (connectionTestRecord context route enriched) context, .ok ()⟩]
        (.ok none)
  | unreleased {result enriched : ConnectionTestResult} {t : Trace} {x : Exc}
      (decided : (result.ok || connectionTestIsExplicit request) = true)
      (run : GuardRun (gateway.budget.closing .release reservation) t
        (.error x : Except Exc Unit)) :
      ConnectionAttempt route
        (⟨.adapterTest route request, .ok result⟩ :: probeReport route result ::
          ⟨.recordUsage (connectionTestRecord context route enriched) context, .ok ()⟩ :: t)
        (.error x)
  | released {result enriched : ConnectionTestResult} {t : Trace}
      (decided : (result.ok || connectionTestIsExplicit request) = true)
      (run : GuardRun (gateway.budget.closing .release reservation) t
        (.ok () : Except Exc Unit)) :
      ConnectionAttempt route
        (⟨.adapterTest route request, .ok result⟩ :: probeReport route result ::
          ⟨.recordUsage (connectionTestRecord context route enriched) context, .ok ()⟩ :: t)
        (.ok (some enriched))

inductive ConnectionLoop : List RouteSelection → Bool → Trace →
    Except Exc ConnectionTestResult → Option BudgetReservation → Bool → Prop
  | exhausted {x : Exc} (ordinary : x.isException = true) :
      ConnectionLoop [] false [] (.error x) (some reservation) false
  | unreleased {t : Trace} {x : Exc}
      (run : GuardRun (gateway.budget.closing .release reservation) t
        (.error x : Except Exc Unit)) :
      ConnectionLoop [] true t (.error x) (some reservation) false
  | allFailed {t : Trace} {result : ConnectionTestResult}
      (run : GuardRun (gateway.budget.closing .release reservation) t
        (.ok () : Except Exc Unit)) :
      ConnectionLoop [] true t (.ok result) (some reservation) false
  | answered {route : RouteSelection} {rest : List RouteSelection} {probed : Bool} {t : Trace}
      {result : ConnectionTestResult}
      (attempt : ConnectionAttempt gateway request context reservation route t
        (.ok (some result))) :
      ConnectionLoop (route :: rest) probed t (.ok result) (some reservation) false
  | interrupted {route : RouteSelection} {rest : List RouteSelection} {probed : Bool}
      {t : Trace} {x : Exc}
      (attempt : ConnectionAttempt gateway request context reservation route t (.error x))
      (base : x.isException = false) :
      ConnectionLoop (route :: rest) probed t (.error x) (some reservation) false
  | failed {route : RouteSelection} {rest : List RouteSelection} {probed : Bool}
      {t u : Trace} {x y : Exc} {held : Option BudgetReservation} {recorded : Bool}
      (attempt : ConnectionAttempt gateway request context reservation route t (.error x))
      (ordinary : x.isException = true)
      (handled : AttemptFailed gateway context "test_connection" reservation route x
        (connectionTestIsExplicit request || rest.isEmpty) u (.error y) held recorded) :
      ConnectionLoop (route :: rest) probed (t ++ u) (.error y) held recorded
  | probed {route : RouteSelection} {rest : List RouteSelection} {probed : Bool}
      {t u : Trace} {r : Except Exc ConnectionTestResult} {held : Option BudgetReservation}
      {recorded : Bool}
      (attempt : ConnectionAttempt gateway request context reservation route t (.ok none))
      (loop : ConnectionLoop rest true u r held recorded) :
      ConnectionLoop (route :: rest) probed (t ++ u) r held recorded
  | next {route : RouteSelection} {rest : List RouteSelection} {probed probed' : Bool}
      {t u v : Trace} {x : Exc} {r : Except Exc ConnectionTestResult}
      {held : Option BudgetReservation} {recorded : Bool}
      (attempt : ConnectionAttempt gateway request context reservation route t (.error x))
      (ordinary : x.isException = true)
      (handled : AttemptFailed gateway context "test_connection" reservation route x
        (connectionTestIsExplicit request || rest.isEmpty) u (.ok ()) (some reservation) false)
      (loop : ConnectionLoop rest probed' v r held recorded) :
      ConnectionLoop (route :: rest) probed (t ++ u ++ v) r held recorded

end Shapes

variable {gateway : LLMGateway} {request : ConnectionTestRequest} {context : LLMRequestContext}
  {reservation : BudgetReservation}

structure ConnectionKept (s s' : ConnectionLocals) : Prop where
  held : s'.reservation = s.reservation
  reserved : s'.budgetReserved = s.budgetReserved
  recorded : s'.routeErrorRecorded = s.routeErrorRecorded
  lastError : s'.lastError = s.lastError

theorem reportProbe_wp {σ : Type} (route : RouteSelection) (result : ConnectionTestResult)
    (s : σ) (Q : Trace → Except Exc Unit → σ → Prop) :
    (reportProbe route result : Step σ Unit).wp s Q ↔ Q [probeReport route result] (.ok ()) s := by
  rw [reportProbe, wp_ite, probeReport]
  cases result.ok with
  | true => exact ⟨fun h => h (), fun h _ => h⟩
  | false => exact ⟨fun h => h (), fun h _ => h⟩

theorem connectionAttempt_run (index : Nat) (route : RouteSelection) (s : ConnectionLocals) :
    (gateway.connectionAttempt request context reservation index route).wp s fun t r s' =>
      ConnectionAttempt gateway request context reservation route t r ∧ ConnectionKept s s' ∧
        (r = .ok none → s'.lastResult.isSome = true) := by
  simp only [connectionAttempt, wp_bind, wp_perform, wp_ofExcept]
  cases supported : adapterFor route with
  | error x => exact ⟨.unsupported supported, ⟨rfl, rfl, rfl, rfl⟩, by simp⟩
  | ok kind =>
    intro answer
    cases answer with
    | error x => exact ⟨.refused, ⟨rfl, rfl, rfl, rfl⟩, by simp⟩
    | ok result =>
      simp only [wp_modify, wp_get, reportProbe_wp, append_wp, nil_append,
        List.cons_append]
      refine ⟨?_, fun f => ⟨.uncommitted, ⟨rfl, rfl, rfl, rfl⟩, by simp⟩⟩
      cases decided : result.ok || connectionTestIsExplicit request with
      | false => exact ⟨.failedProbe decided, ⟨rfl, rfl, rfl, rfl⟩, fun _ => rfl⟩
      | true =>
        simp only [if_true, wp_bind]
        refine wp_mono (gateway.budget.release_guarded reservation context _ _) ?_
        intro t r s' h
        obtain ⟨rfl, run⟩ := h
        cases r with
        | error x => exact ⟨.unreleased decided run, ⟨rfl, rfl, rfl, rfl⟩, by simp⟩
        | ok a =>
          simp only [wp_pure, append_nil]
          exact ⟨.released decided run, ⟨rfl, rfl, rfl, rfl⟩, by simp⟩

theorem connectionFailureRecord_row (index total : Nat) (route : RouteSelection)
    (attempts : List RouteAttempt) (exc : Exc) :
    IsOperationRow "test_connection" context
      (gateway.connectionFailureRecord context index total route attempts exc) := by
  refine ⟨rfl, ?_, rfl⟩
  intro same
  cases same

theorem connectionAttemptFailed_run (index total : Nat) (route : RouteSelection) (x : Exc)
    (s : ConnectionLocals) (held : s.reservation = some reservation)
    (unrecorded : s.routeErrorRecorded = false) :
    (gateway.connectionAttemptFailed request context reservation index total route x).wp s
      fun t r s' =>
        AttemptFailed gateway context "test_connection" reservation route x
            (connectionTestIsExplicit request || index == total) t r s'.reservation
            s'.routeErrorRecorded ∧
          s'.budgetReserved = s.budgetReserved ∧ s'.lastError = some x := by
  simp only [connectionAttemptFailed, wp_bind, wp_modify, wp_perform,
    wp_get, append_wp, nil_append]
  intro u
  refine ⟨?_, ?_⟩
  · cases stop : connectionTestIsExplicit request || index == total with
    | true =>
      simp only [if_true, wp_bind, wp_modify, nil_append]
      refine wp_mono (gateway.budget.release_guarded reservation context _ _) ?_
      intro v r s' h
      obtain ⟨rfl, run⟩ := h
      cases r with
      | error y =>
        simp only [held]
        exact ⟨.unreleased (connectionFailureRecord_row ..) rfl run, trivial, trivial⟩
      | ok a =>
        simp only [wp_throw, append_nil]
        exact ⟨.released (connectionFailureRecord_row ..) rfl run, trivial, trivial⟩
    | false =>
      simp only [Bool.false_eq_true, if_false, wp_pure, held, unrecorded]
      exact ⟨.fellBack (connectionFailureRecord_row ..) rfl, trivial, trivial⟩
  · intro f
    simp only [held, unrecorded]
    exact ⟨.uncommitted (connectionFailureRecord_row ..), trivial, trivial⟩

theorem connectionRoutes_run (total : Nat) (routes : List RouteSelection) (index : Nat)
    (s : ConnectionLocals) (held : s.reservation = some reservation)
    (unrecorded : s.routeErrorRecorded = false)
    (ordinary : ∀ x, s.lastError = some x → x.isException = true)
    (numbered : index + routes.length = total + 1) :
    (gateway.connectionRoutes request context reservation total index routes).wp s
      fun t r s' =>
        ConnectionLoop gateway request context reservation routes s.lastResult.isSome t r
            s'.reservation s'.routeErrorRecorded ∧
          s'.budgetReserved = s.budgetReserved := by
  induction routes generalizing index s with
  | nil =>
    simp only [connectionRoutes, wp_bind, wp_get, nil_append]
    cases probed : s.lastResult with
    | some result =>
      simp only [wp_bind]
      refine wp_mono (gateway.budget.release_guarded reservation context _ _) ?_
      intro t r s' h
      obtain ⟨rfl, run⟩ := h
      cases r with
      | error x =>
        simp only [held, unrecorded]
        exact ⟨.unreleased run, trivial⟩
      | ok a =>
        simp only [wp_pure, append_nil, held, unrecorded]
        exact ⟨.allFailed run, trivial⟩
    | none =>
      cases failed : s.lastError with
      | some x =>
        simp only [wp_throw, held, unrecorded]
        exact ⟨.exhausted (ordinary x failed), trivial⟩
      | none =>
        simp only [wp_throw, held, unrecorded]
        exact ⟨.exhausted rfl, trivial⟩
  | cons route rest ih =>
    simp only [connectionRoutes, wp_bind, wp_modify, wp_tryCatch]
    refine wp_mono (connectionAttempt_run index route _) ?_
    intro t r s' h
    obtain ⟨attempt, kept, probed⟩ := h
    have last : (index == total) = rest.isEmpty := by
      cases rest with
      | nil => simpa using numbered
      | cons other others =>
        simp only [List.length_cons] at numbered
        simp only [List.isEmpty_cons, beq_eq_false_iff_ne]
        omega
    have numberedRest : index + 1 + rest.length = total + 1 := by
      simp only [List.length_cons] at numbered
      omega
    cases r with
    | ok answer =>
      cases answer with
      | some result =>
        simp only [wp_pure, append_nil, nil_append]
        rw [kept.held.trans held, kept.recorded.trans unrecorded]
        exact ⟨.answered attempt, kept.reserved⟩
      | none =>
        simp only [nil_append]
        refine wp_mono (ih (index + 1) s' (kept.held.trans held)
          (kept.recorded.trans unrecorded) ?_ numberedRest) ?_
        · intro y same
          exact ordinary y (kept.lastError ▸ same)
        · intro u r s'' h
          rw [probed rfl] at h
          exact ⟨.probed attempt h.1, h.2.trans kept.reserved⟩
    | error x =>
      simp only [wp_ite]
      split
      · rename_i caught
        simp only [wp_bind]
        refine wp_mono (connectionAttemptFailed_run index total route x s'
          (kept.held.trans held) (kept.recorded.trans unrecorded)) ?_
        intro u r s'' h
        obtain ⟨handled, reserved, lastError⟩ := h
        rw [last] at handled
        cases r with
        | error y =>
          simp only [nil_append]
          exact ⟨.failed attempt caught handled, reserved.trans kept.reserved⟩
        | ok a =>
          simp only [wp_pure, nil_append, append_nil]
          have still := handled.kept
          rw [still.1, still.2] at handled
          refine wp_mono (ih (index + 1) s'' still.1 still.2 ?_ numberedRest) ?_
          · intro y same
            rw [lastError] at same
            cases same
            exact caught
          · intro v r s3 h
            exact ⟨.next attempt caught handled h.1,
              h.2.trans (reserved.trans kept.reserved)⟩
      · rename_i base
        simp only [wp_throw, append_nil, nil_append]
        rw [kept.held.trans held, kept.recorded.trans unrecorded]
        exact ⟨.interrupted attempt (Bool.eq_false_iff.mpr base), kept.reserved⟩

def lacksProvider (gateway : LLMGateway) (request : ConnectionTestRequest) : Bool :=
  match request.deploymentId with
  | none => false
  | some deploymentId =>
    match gateway.router.deployments.find? (·.id == deploymentId) with
    | none => false
    | some deployment => (gateway.router.provider deployment.providerKey).isNone

inductive ProbeRoutes (gateway : LLMGateway) (request : ConnectionTestRequest) :
    Trace → Except Exc (List RouteSelection) → Prop
  | listed {routes : List RouteSelection} (nonempty : routes ≠ [])
      (registered : gateway.lacksProvider request = false) :
      ProbeRoutes gateway request [] (.ok routes)
  | fresh {deploymentId : UUID} {route : RouteSelection}
      (registered : gateway.lacksProvider request = false) :
      ProbeRoutes gateway request [⟨.newDeploymentId, deploymentId⟩] (.ok [route])
  | planned {t : Trace} {r : Except Exc (List RouteSelection)}
      (registered : gateway.lacksProvider request = false)
      (planned : Planned gateway.router t r) : ProbeRoutes gateway request t r
  | missing {x : Exc} (http : x.isHttp = true)
      (registered : gateway.lacksProvider request = false) :
      ProbeRoutes gateway request [] (.error x)
  | unregistered {x : Exc} (plain : x.isHttp = false) (ordinary : x.isException = true)
      (lacks : gateway.lacksProvider request = true) :
      ProbeRoutes gateway request [] (.error x)

theorem deploymentRoutes_run {deploymentId : UUID}
    (asked : request.deploymentId = some deploymentId) :
    ProbeRoutes gateway request [] (gateway.deploymentRoutes request deploymentId) := by
  simp only [deploymentRoutes]
  cases found : gateway.router.deployments.find? (·.id == deploymentId) with
  | none => exact .missing rfl (by simp [lacksProvider, asked, found])
  | some deployment =>
    cases registered : gateway.router.provider deployment.providerKey with
    | none =>
      have lacks : gateway.lacksProvider request = true := by
        simp [lacksProvider, asked, found, registered]
      simp only [registered]
      exact .unregistered rfl rfl lacks
    | some provider =>
      have known : gateway.lacksProvider request = false := by
        simp [lacksProvider, asked, found, registered]
      simp only [registered]
      split
      · exact .listed (by simp) known
      · exact .listed (by simp) known

theorem routesForConnectionTest_run (decision : PolicyDecision) (chatRequest : LLMChatRequest)
    (s : ConnectionLocals) :
    (gateway.routesForConnectionTest request decision chatRequest).wp s fun t r s' =>
      s' = s ∧ ProbeRoutes gateway request t r := by
  simp only [routesForConnectionTest]
  cases asked : request.deploymentId with
  | some deploymentId =>
    rw [wp_ofExcept]
    exact ⟨rfl, deploymentRoutes_run asked⟩
  | none =>
    have known : gateway.lacksProvider request = false := by simp [lacksProvider, asked]
    have plan : (gateway.plan chatRequest decision).wp s fun t r s' =>
        s' = s ∧ ProbeRoutes gateway request t r :=
      wp_mono (plan_run gateway chatRequest decision s) fun t r s' h =>
        ⟨h.1, .planned known h.2⟩
    simp only [wp_ite]
    split
    · split
      · split
        · exact ⟨rfl, .listed (by simp) known⟩
        · simp only [wp_bind, wp_perform]
          intro freshId
          exact ⟨rfl, .fresh known⟩
      · split
        · exact plan
        · rename_i some_
          refine ⟨rfl, .listed ?_ known⟩
          intro none
          rw [none] at some_
          exact some_ rfl
    · exact plan

inductive ConnectionBody (gateway : LLMGateway) (request : ConnectionTestRequest)
    (context : LLMRequestContext) :
    Trace → Except Exc ConnectionTestResult → Option BudgetReservation → Bool → Bool → Prop
  | stopped {t : Trace} {x : Exc} {held : Option BudgetReservation}
      (authorized : Authorized gateway (pingRequest request) context
        (fun _ => pingRequest request) t (.error x) held) :
      ConnectionBody gateway request context t (.error x) held false false
  | unplanned {t u : Trace} {decision : PolicyDecision} {reservation : BudgetReservation}
      {x : Exc}
      (authorized : Authorized gateway (pingRequest request) context
        (fun _ => pingRequest request) t (.ok (decision, reservation)) (some reservation))
      (probes : ProbeRoutes gateway request u (.error x)) :
      ConnectionBody gateway request context (t ++ u) (.error x) (some reservation) true false
  | looped {t u v : Trace} {decision : PolicyDecision} {reservation : BudgetReservation}
      {routes : List RouteSelection} {r : Except Exc ConnectionTestResult}
      {held : Option BudgetReservation} {recorded : Bool}
      (authorized : Authorized gateway (pingRequest request) context
        (fun _ => pingRequest request) t (.ok (decision, reservation)) (some reservation))
      (probes : ProbeRoutes gateway request u (.ok routes))
      (loop : ConnectionLoop gateway request context reservation routes false v r held
        recorded) :
      ConnectionBody gateway request context (t ++ u ++ v) r held true recorded

theorem connectionBody_run (gateway : LLMGateway) (request : ConnectionTestRequest)
    (context : LLMRequestContext) :
    (gateway.connectionBody request context).wp {} fun t r s' =>
      ConnectionBody gateway request context t r s'.reservation s'.budgetReserved
        s'.routeErrorRecorded := by
  simp only [connectionBody, wp_bind]
  refine wp_mono (authorize_run gateway (pingRequest request) context _ _ _ _ _) ?_
  intro t r s' h
  obtain ⟨held, authorized, rfl⟩ := h
  cases r with
  | error x =>
    cases held with
    | none => exact .stopped authorized
    | some reservation => exact .stopped authorized
  | ok given =>
    obtain ⟨decision, reservation⟩ := given
    obtain ⟨_, _, rfl⟩ := authorized.prelude
    simp only [wp_modify, Option.elim_some, nil_append]
    refine wp_mono (routesForConnectionTest_run decision _ _) ?_
    intro u r s' h
    obtain ⟨rfl, probes⟩ := h
    cases r with
    | error x => exact .unplanned authorized probes
    | ok routes =>
      refine wp_mono (connectionRoutes_run routes.length routes 1 _ rfl rfl (by simp)
        (Nat.add_comm 1 _)) ?_
      intro v r s' h
      obtain ⟨loop, budgetReserved⟩ := h
      rw [budgetReserved, ← List.append_assoc]
      exact .looped authorized probes loop

theorem connectionHandler_run (gateway : LLMGateway) (context : LLMRequestContext) (x : Exc)
    (s : ConnectionLocals) :
    (gateway.connectionHandler context x).wp s fun t r _ =>
      ∃ y, r = .error y ∧ Handled gateway context "connection_route_planning" s.reservation
        s.budgetReserved s.routeErrorRecorded x t y := by
  simp only [connectionHandler, wp_ite]
  split
  · rename_i http
    simp only [connectionHttpHandler, wp_bind, wp_get, nil_append]
    refine wp_mono (recordUnless_run
      (recordHttpFailure_run gateway context http s.route "connection_route_planning") s) ?_
    intro t r s' h
    obtain ⟨rfl, row⟩ := h
    cases r with
    | error y => exact ⟨y, rfl, .httpLost http row⟩
    | ok a =>
      simp only [wp_modify, nil_append]
      refine wp_mono (gateway.releaseHeld_run _ context _ _) ?_
      intro u r s'' h
      obtain ⟨rfl, run⟩ := h
      cases r with
      | error y => exact ⟨y, rfl, .httpUnreleased http row run⟩
      | ok b =>
        simp only [wp_throw]
        exact ⟨x, rfl, .http [] http row run⟩
  · rename_i plain
    split
    · rename_i ordinary
      simp only [connectionExceptionHandler, wp_bind, wp_get, nil_append]
      refine wp_mono (gateway.releaseHeld_run _ context _ _) ?_
      intro u r s' h
      obtain ⟨rfl, run⟩ := h
      cases r with
      | error y => exact ⟨y, rfl, .unreleased ordinary (by simpa using plain) run⟩
      | ok b =>
        refine wp_mono
          (recordUnless_run (append_run (failureRecord_plain _ _ _ _) context) s') ?_
        intro t r s'' h
        obtain ⟨rfl, row⟩ := h
        cases r with
        | error y => exact ⟨y, rfl, .lost ordinary (by simpa using plain) run row⟩
        | ok a =>
          simp only [wp_throw]
          exact ⟨x, rfl, .handled [] ordinary (by simpa using plain) run row⟩
    · rename_i base
      exact ⟨x, rfl, .passed (Bool.eq_false_iff.mpr base)⟩

inductive ConnectionRun (gateway : LLMGateway) (request : ConnectionTestRequest)
    (context : LLMRequestContext) : Trace → Except Exc ConnectionTestResult → Prop
  | returned {t : Trace} {result : ConnectionTestResult} {held : Option BudgetReservation}
      {reserved recorded : Bool}
      (body : ConnectionBody gateway request context t (.ok result) held reserved recorded) :
      ConnectionRun gateway request context t (.ok result)
  | raised {t u : Trace} {x y : Exc} {held : Option BudgetReservation}
      {reserved recorded : Bool}
      (body : ConnectionBody gateway request context t (.error x) held reserved recorded)
      (handler : Handled gateway context "connection_route_planning" held reserved recorded x u
        y) :
      ConnectionRun gateway request context (t ++ u) (.error y)

theorem connection_run {gateway : LLMGateway} {request : ConnectionTestRequest}
    {context : LLMRequestContext} {t : Trace} {r : Except Exc ConnectionTestResult}
    (run : Process.Program.Runs (gateway.testConnection request context) t r) :
    ConnectionRun gateway request context t r := by
  suffices every :
      (gateway.testConnection request context).wp (ConnectionRun gateway request context) from
    (Process.Program.wp_iff_runs _ _).mp every t r run
  simp only [testConnection, Action.wp_run, wp_tryCatch]
  refine wp_mono (connectionBody_run gateway request context) ?_
  intro t r s body
  cases r with
  | ok result => exact .returned body
  | error x =>
    refine wp_mono (connectionHandler_run gateway context x s) ?_
    intro u r s' h
    obtain ⟨y, rfl, handler⟩ := h
    exact .raised body handler

end AgentHive.LLMGateway
