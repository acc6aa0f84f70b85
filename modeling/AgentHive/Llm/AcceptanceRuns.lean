import AgentHive.Llm.AcceptanceTest
import AgentHive.Llm.ChatRuns
import AgentHive.Services.CredentialPrecedence

/-!
The runs of the acceptance test over given tables, circuits and adapters.
-/

namespace AgentHive.Acceptance

open Process (Action Program)
open LLMGateway UsageCollector
open Process.Action (wp_and wp_bind wp_get wp_iff_runs wp_ite wp_modify wp_mono wp_ofExcept
  wp_perform wp_pure wp_run wp_tryCatch)
open List (append_nil forall_mem_append mem_append_right mem_cons_of_mem mem_cons_self nil_append)

/-- What the test finds: the tables, the cost center of the principal, the answers of the circuit
breaker, and what each adapter answers, if it does not raise. -/
structure World where
  tables : ModelTables
  costCenter : Option UUID
  isOpen : UUID → Bool
  answers : RouteSelection → LLMChatRequest → LLMRequestContext → Option LLMResponse

namespace World

variable (world : World)

/-- The answers that fit what there is. Storage may fail at any step, and the budget may refuse. -/
def Told : CallEvent → Prop
  | ⟨.resolveCostCenter _, r⟩ => ∀ costCenter, r = .ok costCenter → costCenter = world.costCenter
  | ⟨.isOpen id, b⟩ => b = world.isOpen id
  | ⟨.adapterChat route request context, .ok response⟩ =>
    world.answers route request context = some response
  | ⟨.adapterChat route request context, .error x⟩ =>
    x.isException = true → world.answers route request context = none
  | _ => True

variable (gateway : LLMGateway) (request : LLMChatRequest) (context : LLMRequestContext)

def decision : PolicyDecision :=
  if request.messages.isEmpty || context.costCenterId.isSome ||
      !(gateway.policies.any fun policy => policy.scopeType == .costCenter) ||
      !gateway.policySession || context.userId == none then
    ModelPolicyEngine.evaluate gateway.policies request context none
  else ModelPolicyEngine.evaluate gateway.policies request context world.costCenter

def sent : LLMChatRequest :=
  effectiveRequest request (world.decision gateway request context)

def plannedRoutes : List RouteSelection :=
  if (world.decision gateway request context).allowed &&
      (gateway.budget.pricing.estimate (world.sent gateway request context)).toOption.isSome then
    (gateway.router.plan world.isOpen (world.sent gateway request context)
      (world.decision gateway request context)).toOption.getD []
  else []

theorem mem_plannedRoutes {world : World} {gateway : LLMGateway} {request : LLMChatRequest}
    {context : LLMRequestContext} {route : RouteSelection} :
    route ∈ world.plannedRoutes gateway request context ↔
      (world.decision gateway request context).allowed = true ∧
      (∃ estimate, gateway.budget.pricing.estimate (world.sent gateway request context) =
        .ok estimate) ∧
      ∃ routes, gateway.router.plan world.isOpen (world.sent gateway request context)
        (world.decision gateway request context) = .ok routes ∧ route ∈ routes := by
  unfold plannedRoutes
  cases (world.decision gateway request context).allowed with
  | false => simp
  | true =>
    cases gateway.budget.pricing.estimate (world.sent gateway request context) with
    | error x => simp [Except.toOption]
    | ok estimate =>
      cases gateway.router.plan world.isOpen (world.sent gateway request context)
        (world.decision gateway request context) with
      | error x => simp [Except.toOption]
      | ok routes => simp [Except.toOption]

def Answers (route : RouteSelection) : Prop :=
  ∃ kind response usage, adapterFor route = .ok kind ∧
    world.answers route request context = some response ∧
    gateway.budget.pricing.recalculateUsage response.usage (some response.modelKey) = .ok usage

end World

def answeredBy : CallEvent → Option (RouteSelection × LLMResponse)
  | ⟨.adapterChat route _ _, .ok response⟩ => some (route, response)
  | _ => none

def answersIn (t : Trace) : List (RouteSelection × LLMResponse) := t.filterMap answeredBy

def lastAnswer (t : Trace) : Option (RouteSelection × LLMResponse) := (answersIn t).getLast?

theorem answersIn_append (t u : Trace) : answersIn (t ++ u) = answersIn t ++ answersIn u :=
  List.filterMap_append

theorem lastAnswer_append {t u : Trace} {last : RouteSelection × LLMResponse}
    (h : lastAnswer u = some last) : lastAnswer (t ++ u) = some last := by
  rw [lastAnswer, answersIn_append, List.getLast?_append]
  change (lastAnswer u).or _ = _
  rw [h]
  rfl

theorem answersIn_bookkeeping {t : Trace} (steps : ∀ e ∈ t, isBookkeeping e.1 = true) :
    answersIn t = [] := by
  refine List.filterMap_eq_nil_iff.mpr fun e mem => ?_
  obtain ⟨effect, answer⟩ := e
  have step := steps _ mem
  cases effect <;> first | rfl | cases step

structure MadeOf (gateway : LLMGateway) (route : RouteSelection) (answer response : LLMResponse) :
    Prop where
  content : response.content = answer.content
  mock : response.metadata.get "mock" = answer.metadata.get "mock"
  live : response.metadata.get "live_network_call" = answer.metadata.get "live_network_call"
  untimed : ∃ attempts, response.metadata.get "route_attempts" = .attempts attempts ∧
    ∀ attempt ∈ attempts, attempt.latencyMs = none
  priced : ∃ usage, gateway.budget.pricing.recalculateUsage answer.usage
    (some answer.modelKey) = .ok usage
  supported : ∃ kind, adapterFor route = .ok kind

def Untimed (s : ChatLocals) : Prop := ∀ attempt ∈ s.routeAttempts, attempt.latencyMs = none

theorem Untimed.append {s : ChatLocals} (untimed : Untimed s) {attempt : RouteAttempt}
    (plain : attempt.latencyMs = none) : ∀ a ∈ s.routeAttempts ++ [attempt], a.latencyMs = none :=
  forall_mem_append.mpr ⟨untimed, List.forall_mem_singleton.mpr plain⟩

section Chat

variable {world : World} {gateway : LLMGateway} {request : LLMChatRequest}
  {context : LLMRequestContext} {reservation : BudgetReservation} {route : RouteSelection}

theorem enrich_madeOf {kind : LLMAdapterType} (supported : adapterFor route = .ok kind)
    {answer : LLMResponse} {usage : LLMUsageMetrics}
    (priced : gateway.budget.pricing.recalculateUsage answer.usage (some answer.modelKey) =
      .ok usage) {attempts : List RouteAttempt} (untimed : ∀ a ∈ attempts, a.latencyMs = none)
    (index : Nat) :
    MadeOf gateway route answer (gateway.enrich answer usage attempts index route) where
  content := rfl
  mock := by simp [enrich, Dict.merge, ProviderCredentials.get_set]
  live := by simp [enrich, Dict.merge, ProviderCredentials.get_set]
  untimed := ⟨attempts, by simp [enrich, Dict.merge, ProviderCredentials.get_set], untimed⟩
  priced := ⟨usage, priced⟩
  supported := ⟨kind, supported⟩

variable {s : ChatLocals}

theorem settleChat_madeOf {index : Nat} {kind : LLMAdapterType}
    (supported : adapterFor route = .ok kind) {answer : LLMResponse} (untimed : Untimed s) :
    (gateway.settleChat reservation context index route answer).wp s fun _ r s' =>
      Untimed s' ∧ ∀ response, r = .ok response → MadeOf gateway route answer response := by
  have extended : ∀ a ∈ s.routeAttempts ++ [routeAttempt index route .success],
      a.latencyMs = none := untimed.append rfl
  simp only [settleChat, wp_bind, wp_modify, wp_get, wp_ofExcept]
  cases priced : gateway.budget.pricing.recalculateUsage answer.usage (some answer.modelKey) with
  | error x =>
    refine ⟨extended, fun response failed => ?_⟩
    cases failed
  | ok usage =>
    refine wp_mono (gateway.budget.settle_guarded reservation _ context _) ?_
    intro t r s' h
    obtain ⟨rfl, _⟩ := h
    cases r with
    | error x =>
      refine ⟨extended, fun response failed => ?_⟩
      cases failed
    | ok u =>
      simp only [append_wp, wp_perform, wp_pure]
      refine ⟨fun _ => ⟨extended, fun response same => ?_⟩, fun f => ⟨extended, ?_⟩⟩
      · cases same
        exact enrich_madeOf supported priced extended index
      · intro response failed
        cases failed

theorem attempt_lastAnswer {t : Trace} {response : LLMResponse}
    (attempt : ChatAttempt gateway request context reservation route t (.ok response)) :
    ∃ answer rest, t = ⟨.adapterChat route request context, .ok answer⟩ :: rest ∧
      lastAnswer t = some (route, answer) := by
  cases attempt with
  | answered settled =>
    refine ⟨_, _, rfl, ?_⟩
    have quiet := answersIn_bookkeeping settled.bookkeeping
    simp only [lastAnswer, answersIn, List.filterMap_cons, answeredBy] at quiet ⊢
    rw [quiet]
    rfl

theorem chatAttempt_answers (index : Nat) (route : RouteSelection) (untimed : Untimed s) :
    (gateway.chatAttempt request context reservation index route).wp s fun t r s' =>
      Untimed s' ∧ ∀ response, r = .ok response → ∃ answer,
        ⟨.adapterChat route request context, .ok answer⟩ ∈ t ∧
        lastAnswer t = some (route, answer) ∧ MadeOf gateway route answer response := by
  have made : (gateway.chatAttempt request context reservation index route).wp s fun t r s' =>
      Untimed s' ∧ ∀ response, r = .ok response → ∃ answer rest,
        t = ⟨.adapterChat route request context, .ok answer⟩ :: rest ∧
        MadeOf gateway route answer response := by
    simp only [chatAttempt, wp_bind, wp_perform, wp_ofExcept]
    cases supported : adapterFor route with
    | error x =>
      refine ⟨untimed, fun response failed => ?_⟩
      cases failed
    | ok kind =>
      intro answer
      cases answer with
      | error x =>
        refine ⟨untimed, fun response failed => ?_⟩
        cases failed
      | ok answer =>
        intro u
        refine wp_mono (settleChat_madeOf supported untimed) ?_
        intro t r s' h
        exact ⟨h.1, fun response same => ⟨answer, _, rfl, h.2 response same⟩⟩
  refine wp_mono (wp_and (chatAttempt_run index route s) made) ?_
  intro t r s' h
  obtain ⟨⟨attempt, _⟩, kept, made⟩ := h
  refine ⟨kept, fun response same => ?_⟩
  obtain ⟨answer, rest, rfl, own⟩ := made response same
  refine ⟨answer, mem_cons_self, ?_, own⟩
  subst same
  obtain ⟨other, later, shape, last⟩ := attempt_lastAnswer attempt
  cases shape
  exact last

theorem chatAttemptFailed_untimed (index total : Nat) (route : RouteSelection) (x : Exc)
    (untimed : Untimed s) :
    (gateway.chatAttemptFailed context reservation index total route x).wp s
      fun _ _ s' => Untimed s' := by
  simp only [chatAttemptFailed, wp_bind, wp_modify, wp_perform,
    wp_get, append_wp]
  intro _
  refine ⟨?_, fun _ => untimed.append rfl⟩
  simp only [wp_ite, wp_bind, wp_modify]
  split
  · refine wp_mono (gateway.budget.release_guarded reservation context _ _) ?_
    intro v r s' h
    obtain ⟨rfl, _⟩ := h
    cases r with
    | error y => exact untimed.append rfl
    | ok a => exact untimed.append rfl
  · exact untimed.append rfl

theorem chatRoutes_answers (total : Nat) (routes : List RouteSelection) (index : Nat)
    (untimed : Untimed s) :
    (gateway.chatRoutes request context reservation total index routes).wp s fun t r _ =>
      ∀ response, r = .ok response → ∃ route ∈ routes, ∃ answer,
        ⟨.adapterChat route request context, .ok answer⟩ ∈ t ∧
        lastAnswer t = some (route, answer) ∧ MadeOf gateway route answer response := by
  induction routes generalizing index s with
  | nil =>
    simp only [chatRoutes, wp_bind, wp_get]
    cases s.lastError with
    | some x =>
      intro response failed
      cases failed
    | none =>
      intro response failed
      cases failed
  | cons route rest ih =>
    simp only [chatRoutes, wp_bind, wp_modify, wp_tryCatch, Action.wp_map]
    refine wp_mono (chatAttempt_answers index route untimed) ?_
    intro t r s' h
    obtain ⟨kept, answers⟩ := h
    cases r with
    | ok response =>
      simp only [wp_pure, append_nil, nil_append]
      intro response' same
      cases same
      obtain ⟨answer, mem, last, made⟩ := answers response rfl
      exact ⟨route, mem_cons_self, answer, mem, last, made⟩
    | error x =>
      simp only [wp_ite]
      split
      · simp only [wp_bind]
        refine wp_mono (chatAttemptFailed_untimed index total route x kept) ?_
        intro u r s'' later
        cases r with
        | error y =>
          intro response failed
          cases failed
        | ok a =>
          simp only [wp_pure, append_nil]
          refine wp_mono (ih (index + 1) later) ?_
          intro v r s'' found response same
          obtain ⟨other, inRest, answer, mem, last, made⟩ := found response same
          refine ⟨other, mem_cons_of_mem _ inRest, answer, ?_, ?_, made⟩
          · simp [mem]
          · simp only [nil_append]
            exact lastAnswer_append last
      · simp only [Action.wp_throw]
        intro response failed
        cases failed

variable (world : World)

theorem evaluate_decision {σ : Type} (s : σ) :
    (gateway.evaluate request context : Step σ PolicyDecision).wp s fun t r _ =>
      (∀ e ∈ t, world.Told e) → ∀ decision, r = .ok decision →
        decision = world.decision gateway request context := by
  simp only [evaluate, World.decision, wp_ite]
  split
  · intro _ decision same
    cases same
    rfl
  · simp only [wp_bind, wp_perform]
    intro answer
    cases answer with
    | error f =>
      intro _ decision failed
      cases failed
    | ok costCenter =>
      intro told decision same
      cases same
      have known : costCenter = world.costCenter := told _ mem_cons_self costCenter rfl
      rw [known]

theorem authorize_decision {σ : Type} (effective : PolicyDecision → LLMChatRequest)
    (subject : String) (metrics : Bool) (hold : BudgetReservation → σ → σ) (s : σ) :
    (gateway.authorize request context effective subject metrics hold :
        Step σ (PolicyDecision × BudgetReservation)).wp s fun t r _ =>
      (∀ e ∈ t, world.Told e) → ∀ decision held, r = .ok (decision, held) →
        decision = world.decision gateway request context := by
  simp only [authorize, wp_bind]
  refine wp_mono (evaluate_decision world s) ?_
  intro t r s' decides
  cases r with
  | error x =>
    intro _ decision held failed
    cases failed
  | ok decision =>
    simp only [wp_ite]
    have known : ∀ u, (∀ e ∈ t ++ u, world.Told e) →
        decision = world.decision gateway request context := fun u told =>
      decides (fun e mem => told e (List.mem_append_left u mem)) decision rfl
    split
    · refine wp_mono (refuse_run .denied 403 _ _ _ context _ (by decide) _) ?_
      intro u r s' h
      obtain ⟨_, x, rfl, _⟩ := h
      intro _ other held failed
      cases failed
    · simp only [wp_bind]
      refine wp_mono (reserve_run gateway _ context _) ?_
      intro u r s' _
      cases r with
      | error x =>
        intro _ other held failed
        cases failed
      | ok reservation =>
        simp only [wp_modify, wp_ite]
        split
        · refine wp_mono
            (refuse_run .budgetExceeded 402 _ _ _ context _ (by decide) _) ?_
          intro v r s' h
          obtain ⟨_, x, rfl, _⟩ := h
          intro _ other held failed
          cases failed
        · simp only [wp_pure]
          intro told other held same
          cases same
          exact known _ told

theorem askOpen_told {σ : Type} (deployments : List DeploymentConfig) (s : σ) :
    (askOpen deployments : Step σ (List (DeploymentConfig × Bool))).wp s fun t r _ =>
      (∀ e ∈ t, world.Told e) → r = .ok (deployments.map fun d => (d, world.isOpen d.id)) := by
  induction deployments with
  | nil => exact fun _ => rfl
  | cons d rest ih =>
    simp only [askOpen, wp_bind, wp_perform]
    intro opened
    refine wp_mono ih ?_
    intro t r s' answered
    cases r with
    | error x =>
      intro told
      cases answered fun e mem => told e (mem_append_right _ mem)
    | ok flagged =>
      intro told
      simp only [append_nil] at told
      have here : opened = world.isOpen d.id := told _ mem_cons_self
      have others := Except.ok.inj (answered fun e mem => told e (mem_append_right _ mem))
      rw [here, others]
      rfl

theorem plan_told {σ : Type} (effective : LLMChatRequest)
    (decision : PolicyDecision) (s : σ) :
    (gateway.plan effective decision : Step σ (List RouteSelection)).wp s fun t r _ =>
      (∀ e ∈ t, world.Told e) →
        r = gateway.router.plan world.isOpen effective decision := by
  simp only [LLMGateway.plan, ModelRouter.plan, wp_bind, wp_ofExcept]
  cases gateway.router.candidates effective decision with
  | error x => exact fun _ => rfl
  | ok found =>
    refine wp_mono (askOpen_told world found s) ?_
    intro t r s' answered
    cases r with
    | error x =>
      intro told
      cases answered told
    | ok flagged =>
      intro told
      simp only [append_nil, nil_append] at told
      rw [Except.ok.inj (answered told)]
      rfl

theorem Authorized.sendable {effective : PolicyDecision → LLMChatRequest} {t : Trace}
    {decision : PolicyDecision} {held : BudgetReservation} {kept : Option BudgetReservation}
    (authorized : LLMGateway.Authorized gateway request context effective t (.ok (decision, held))
      kept) :
    decision.allowed = true ∧
      ∃ estimate, gateway.budget.pricing.estimate (effective decision) = .ok estimate := by
  cases authorized with
  | authorized _ allowed reserved _ =>
    cases reserved with
    | reserved priced => exact ⟨allowed, _, priced⟩

theorem chatBody_answers :
    (gateway.chatBody request context).wp {} fun t r _ =>
      (∀ e ∈ t, world.Told e) → ∀ response, r = .ok response →
        ∃ route ∈ world.plannedRoutes gateway request context, ∃ answer,
          world.Answers gateway (world.sent gateway request context) context route ∧
          lastAnswer t = some (route, answer) ∧ MadeOf gateway route answer response := by
  simp only [chatBody, wp_bind]
  refine wp_mono (wp_and (authorize_run gateway request context _ _ _ _ _)
    (authorize_decision world _ _ _ _ _)) ?_
  intro t r s' h
  obtain ⟨⟨held, authorized, rfl⟩, decides⟩ := h
  cases r with
  | error x =>
    intro _ response failed
    cases failed
  | ok given =>
    obtain ⟨decision, reservation⟩ := given
    simp only [wp_modify, nil_append]
    refine wp_mono (wp_and (plan_run gateway _ decision _)
      (plan_told world _ decision _)) ?_
    intro u r s' h
    obtain ⟨⟨rfl, _⟩, planned⟩ := h
    cases r with
    | error x =>
      intro _ response failed
      cases failed
    | ok routes =>
      refine wp_mono (chatRoutes_answers routes.length routes 1 ?_) ?_
      · cases held with
        | none => exact List.forall_mem_nil _
        | some reservation => exact List.forall_mem_nil _
      · intro v r s'' found told response same
        obtain ⟨before, after⟩ := forall_mem_append.mp told
        obtain ⟨asked, answered⟩ := forall_mem_append.mp after
        have known := decides before decision reservation rfl
        obtain ⟨allowed, estimate, priced⟩ := Authorized.sendable authorized
        have plan := planned asked
        obtain ⟨route, inRoutes, answer, mem, last, made⟩ := found response same
        subst known
        refine ⟨route, ?_, answer, ?_, ?_, made⟩
        · exact World.mem_plannedRoutes.mpr
            ⟨allowed, ⟨estimate, priced⟩, routes, plan.symm, inRoutes⟩
        · obtain ⟨kind, supported⟩ := made.supported
          obtain ⟨usage, recalculated⟩ := made.priced
          exact ⟨kind, answer, usage, supported, answered _ mem, recalculated⟩
        · exact lastAnswer_append (lastAnswer_append last)

theorem chat_answers :
    (gateway.chat request context).wp fun t r =>
      (∀ e ∈ t, world.Told e) → ∀ response, r = .ok response →
        ∃ route ∈ world.plannedRoutes gateway request context, ∃ answer,
          world.Answers gateway (world.sent gateway request context) context route ∧
          lastAnswer t = some (route, answer) ∧ MadeOf gateway route answer response := by
  simp only [chat, wp_run, wp_tryCatch]
  refine wp_mono (chatBody_answers world) ?_
  intro t r s answers
  cases r with
  | ok response => simpa using answers
  | error x =>
    refine wp_mono (chatHandler_run gateway request context x s) ?_
    intro u r s' h
    obtain ⟨y, rfl, _⟩ := h
    intro _ response failed
    cases failed

end Chat

def openReservation : BudgetReservation := { reservationId := "open", approved := true }

def World.oracle (world : World) (lost : UUID) : (e : Effect) → Answer e
  | .resolveCostCenter _ => .ok world.costCenter
  | .reserve _ _ => .ok openReservation
  | .storeLedger _ => .ok ()
  | .rollback => .ok ()
  | .policyById _ => .ok none
  | .usageForPolicy _ _ _ _ => .ok (0, 0)
  | .utcNow => ⟨2026, 1, 1, 0⟩
  | .recordUsage record _ =>
    if record.status = .success ∧ record.deploymentId = some lost then .error (.os "OSError" "")
    else .ok ()
  | .isOpen id => world.isOpen id
  | .recordSuccess _ => ()
  | .recordFailure _ _ => ()
  | .adapterChat route request context =>
    match world.answers route request context with
    | some response => .ok response
    | none => .error (.other "RuntimeError" "")
  | .adapterStream _ _ _ => ([], .finished)
  | .yieldDelta _ => .next
  | .adapterTest _ _ => .error (.other "RuntimeError" "")
  | .newDeploymentId => 0
  | .observe _ => ()

def Steady (world : World) (lost : UUID) (t : Trace) : Prop := ∀ e ∈ t, e.2 = world.oracle lost e.1

section Steady

variable {world : World} {lost : UUID} {gateway : LLMGateway} {request : LLMChatRequest}
  {context : LLMRequestContext} {reservation : BudgetReservation} {t : Trace}

theorem Steady.append {u : Trace} :
    Steady world lost (t ++ u) ↔ Steady world lost t ∧ Steady world lost u :=
  forall_mem_append

theorem Steady.told (steady : Steady world lost t) : ∀ e ∈ t, world.Told e := by
  intro e mem
  obtain ⟨effect, answer⟩ := e
  have here := steady _ mem
  dsimp only at here
  subst here
  cases effect with
  | resolveCostCenter context =>
    intro costCenter same
    exact (Except.ok.inj same).symm
  | isOpen id => rfl
  | adapterChat route request context =>
    cases answered : world.answers route request context with
    | some response => simp [World.oracle, answered, World.Told]
    | none => simp [World.oracle, answered, World.Told]
  | _ => trivial

theorem Steady.guard {rows : List Terminal} {x : Exc} (steady : Steady world lost t)
    (run : GuardRun rows t (.error x : Except Exc Unit)) : False := by
  obtain ⟨e, mem, f, raised, _⟩ := (run.raises x).mp rfl
  obtain ⟨effect, answer⟩ := e
  have here := steady _ mem
  dsimp only at here
  subst here
  cases effect <;> cases raised

variable {route : RouteSelection}

theorem attempt_failed {x : Exc}
    (attempt : ChatAttempt gateway request context reservation route t (.error x))
    (steady : Steady world lost t) :
    x.isException = true ∧
      (world.Answers gateway request context route → route.deployment.id = lost) := by
  cases attempt with
  | unsupported failed =>
    refine ⟨isException_of_isHttp (adapterFor_error failed), fun answers => ?_⟩
    obtain ⟨kind, _, _, supported, _⟩ := answers
    rw [failed] at supported
    cases supported
  | refused =>
    have here := steady _ mem_cons_self
    simp only [World.oracle] at here
    split at here
    · cases here
    · rename_i silent
      refine ⟨by cases here; rfl, fun answers => ?_⟩
      obtain ⟨_, response, _, _, answered, _⟩ := answers
      rw [silent] at answered
      cases answered
  | @answered response t _ settled =>
    have here := steady _ mem_cons_self
    have later : Steady world lost t := fun e mem =>
      steady e (mem_cons_of_mem _ (mem_cons_of_mem _ mem))
    simp only [World.oracle] at here
    split at here
    · rename_i known answered
      cases here
      cases settled with
      | unpriced failed =>
        refine ⟨(calculate_error failed).1, fun answers => ?_⟩
        obtain ⟨_, other, usage, _, same, priced⟩ := answers
        rw [answered] at same
        cases same
        rw [failed] at priced
        cases priced
      | unsettled run => exact (later.guard run).elim
      | uncommitted run =>
        have row := later _ (mem_append_right _ mem_cons_self)
        simp only [World.oracle] at row
        split at row
        · rename_i target
          cases row
          exact ⟨rfl, fun _ => Option.some.inj target.2⟩
        · cases row
    · cases here

theorem attempt_returned {response : LLMResponse}
    (attempt : ChatAttempt gateway request context reservation route t (.ok response))
    (steady : Steady world lost t) : route.deployment.id ≠ lost := by
  cases attempt with
  | @answered answer t _ settled =>
    have later : Steady world lost t := fun e mem =>
      steady e (mem_cons_of_mem _ (mem_cons_of_mem _ mem))
    cases settled with
    | committed run =>
      have row := later _ (mem_append_right _ mem_cons_self)
      simp only [World.oracle] at row
      split at row
      · cases row
      · rename_i other
        intro same
        exact other ⟨rfl, congrArg some same⟩

theorem loop_returns {routes : List RouteSelection} {r : Except Exc LLMResponse}
    {held : Option BudgetReservation} {recorded : Bool}
    (loop : ChatLoop gateway request context reservation routes t r held recorded)
    (steady : Steady world lost t)
    (other : ∃ route ∈ routes, world.Answers gateway request context route ∧
      route.deployment.id ≠ lost) :
    ∃ response route answer, r = .ok response ∧ lastAnswer t = some (route, answer) ∧
      route.deployment.id ≠ lost := by
  induction loop with
  | exhausted =>
    obtain ⟨_, none, _⟩ := other
    cases none
  | answered attempt =>
    obtain ⟨answer, _, _, last⟩ := attempt_lastAnswer attempt
    exact ⟨_, _, answer, rfl, last, attempt_returned attempt steady⟩
  | interrupted attempt base =>
    have ordinary := (attempt_failed attempt steady).1
    rw [base] at ordinary
    cases ordinary
  | @failed route rest t u x y held recorded attempt ordinary handled =>
    obtain ⟨first, after⟩ := Steady.append.mp steady
    have lostHere := (attempt_failed attempt first).2
    cases handled with
    | uncommitted row =>
      have stored := after _ (mem_cons_of_mem _ mem_cons_self)
      simp only [World.oracle, row.2.1, false_and, if_false] at stored
      cases stored
    | unreleased row last run =>
      have later : Steady world lost _ := fun e mem =>
        after e (mem_cons_of_mem _ (mem_cons_of_mem _ mem))
      exact (later.guard run).elim
    | released row last run =>
      obtain ⟨other, mem, answers, apart⟩ := other
      rw [List.isEmpty_iff.mp last, List.mem_singleton] at mem
      subst mem
      exact absurd (lostHere answers) apart
  | @next route rest t u v x r held recorded attempt ordinary handled loop ih =>
    obtain ⟨before, after⟩ := Steady.append.mp steady
    obtain ⟨first, _⟩ := Steady.append.mp before
    have lostHere := (attempt_failed attempt first).2
    have inRest : ∃ route ∈ rest, world.Answers gateway request context route ∧
        route.deployment.id ≠ lost := by
      obtain ⟨other, mem, answers, apart⟩ := other
      rcases List.mem_cons.mp mem with rfl | later
      · exact absurd (lostHere answers) apart
      · exact ⟨other, later, answers, apart⟩
    obtain ⟨response, other, answer, ok, last, apart⟩ := ih after inRest
    exact ⟨response, other, answer, ok, lastAnswer_append last, apart⟩

theorem authorize_returns (lost : UUID) {σ : Type} (effective : PolicyDecision → LLMChatRequest)
    (subject : String) (metrics : Bool) (hold : BudgetReservation → σ → σ) (s : σ)
    (allowed : (world.decision gateway request context).allowed = true) {estimate : LLMUsageMetrics}
    (priced : gateway.budget.pricing.estimate
      (effective (world.decision gateway request context)) = .ok estimate) :
    (gateway.authorize request context effective subject metrics hold :
        Step σ (PolicyDecision × BudgetReservation)).wp s fun t r _ =>
      Steady world lost t →
        r = .ok (world.decision gateway request context, openReservation) := by
  simp only [authorize, wp_bind]
  refine wp_mono (wp_and (evaluate_run gateway request context s)
    (evaluate_decision world s)) ?_
  intro t r s' h
  obtain ⟨⟨_, evaluated⟩, decides⟩ := h
  cases r with
  | error x =>
    intro steady
    cases evaluated with
    | unresolved => cases steady _ mem_cons_self
  | ok decision =>
    have known : ∀ u, Steady world lost (t ++ u) →
        decision = world.decision gateway request context := fun u steady =>
      decides (Steady.append.mp steady).1.told decision rfl
    simp only [wp_ite]
    split
    · rename_i denied
      refine (wp_iff_runs _ _ _).mpr fun u r _ steady => ?_
      rw [known u steady, allowed] at denied
      cases denied
    · simp only [wp_bind]
      refine wp_mono (reserve_run gateway _ context _) ?_
      intro u r s' h
      obtain ⟨_, reserved⟩ := h
      cases reserved with
      | unpriced failed =>
        intro steady
        rw [known _ steady, priced] at failed
        cases failed
      | faulted =>
        intro steady
        cases (Steady.append.mp steady).2 _ mem_cons_self
      | reserved =>
        simp only [wp_modify, wp_ite]
        split
        · rename_i refused
          refine (wp_iff_runs _ _ _).mpr fun v r _ steady => ?_
          cases (Steady.append.mp steady).2 _ mem_cons_self
          cases refused
        · simp only [wp_pure]
          intro steady
          cases (Steady.append.mp steady).2 _ mem_cons_self
          rw [known _ steady]

theorem chatBody_returns (planned : route ∈ world.plannedRoutes gateway request context)
    (answers : world.Answers gateway (world.sent gateway request context) context route)
    (apart : route.deployment.id ≠ lost) :
    (gateway.chatBody request context).wp {} fun t r _ =>
      Steady world lost t → ∃ response route answer, r = .ok response ∧
        lastAnswer t = some (route, answer) ∧ route.deployment.id ≠ lost := by
  obtain ⟨allowed, ⟨estimate, priced⟩, routes, plan, inRoutes⟩ := World.mem_plannedRoutes.mp planned
  simp only [chatBody, wp_bind]
  refine wp_mono (wp_and (authorize_run gateway request context _ _ _ _ _)
    (authorize_returns lost _ _ _ _ _ allowed priced)) ?_
  intro t r s' h
  obtain ⟨⟨held, authorized, rfl⟩, returns⟩ := h
  cases r with
  | error x =>
    intro steady
    cases returns steady
  | ok given =>
    obtain ⟨decision, reservation⟩ := given
    obtain ⟨_, _, rfl⟩ := authorized.prelude
    simp only [wp_modify, Option.elim_some, nil_append]
    refine wp_mono (wp_and (plan_run gateway _ decision _)
      (plan_told world _ decision _)) ?_
    intro u r s' h
    obtain ⟨⟨rfl, _⟩, asked⟩ := h
    cases r with
    | error x =>
      intro steady
      obtain ⟨first, second⟩ := Steady.append.mp steady
      cases returns first
      have failed := (asked second.told).trans plan
      cases failed
    | ok found =>
      refine wp_mono (chatRoutes_run found.length found 1 _ ⟨rfl, rfl, by simp⟩
        (Nat.add_comm 1 _)) ?_
      intro v r s' h steady
      obtain ⟨loop, _⟩ := h
      obtain ⟨first, rest⟩ := Steady.append.mp steady
      obtain ⟨second, third⟩ := Steady.append.mp rest
      cases returns first
      have same := (asked second.told).trans plan
      cases same
      obtain ⟨response, other, answer, ok, last, differs⟩ :=
        loop_returns loop third ⟨route, inRoutes, answers, apart⟩
      exact ⟨response, other, answer, ok, lastAnswer_append (lastAnswer_append last), differs⟩

theorem chat_returns (planned : route ∈ world.plannedRoutes gateway request context)
    (answers : world.Answers gateway (world.sent gateway request context) context route)
    (apart : route.deployment.id ≠ lost) :
    (gateway.chat request context).wp fun t r =>
      Steady world lost t → ∃ response route answer, r = .ok response ∧
        lastAnswer t = some (route, answer) ∧ route.deployment.id ≠ lost := by
  simp only [chat, wp_run, wp_tryCatch]
  refine wp_mono (chatBody_returns planned answers apart) ?_
  intro t r s returns
  cases r with
  | ok response => simpa using returns
  | error x =>
    refine (wp_iff_runs _ _ _).mpr fun u r _ steady => ?_
    obtain ⟨_, _, _, failed, _⟩ := returns (Steady.append.mp steady).1
    cases failed

end Steady

end AgentHive.Acceptance
