import AgentHive.Llm.ChatRuns
import AgentHive.Llm.StreamChat

/-!
Which providers a run calls after one has answered, and which it reports to the
circuit breaker.
-/

namespace AgentHive

open Process (Monitor)
open Process.Monitor (always_append always_cons always_of_kept stateAfter stateAfter_append)

inductive LastCall
  | none
  | streaming (deploymentId : UUID) (left : List String) (finish : StreamEnd)
  | answered
  | raised (deploymentId : UUID)
  | stopped
deriving DecidableEq

def LastCall.opened (deploymentId : UUID) : List String → StreamEnd → LastCall
  | [], .finished => .answered
  | [], .raised _ => .raised deploymentId
  | left, finish => .streaming deploymentId left finish

structure Standing where
  last : LastCall := .none
  answered : Bool := false
deriving DecidableEq

def Standing.note (s : Standing) (last : LastCall) : Standing :=
  ⟨last, s.answered || last == .answered⟩

def callMonitor : Monitor Effect Answer Standing where
  next s
    | ⟨.adapterChat _ _ _, .ok _⟩ => s.note .answered
    | ⟨.adapterChat route _ _, .error _⟩ => s.note (.raised route.deployment.id)
    | ⟨.adapterStream route _ _, (deltas, finish)⟩ =>
      s.note (.opened route.deployment.id deltas finish)
    | ⟨.yieldDelta _, .next⟩ =>
      match s.last with
      | .streaming deploymentId (_ :: rest) finish => s.note (.opened deploymentId rest finish)
      | _ => s
    | ⟨.yieldDelta _, _⟩ => s.note .stopped
    | _ => s

/-- No provider is called after an answer, and a deployment is reported only
when its own call, the last one, has raised. -/
def permitted (s : Standing) : CallEvent → Bool
  | ⟨.adapterChat _ _ _, _⟩ | ⟨.adapterStream _ _ _, _⟩ => !s.answered
  | ⟨.recordFailure deploymentId _, _⟩ => s.last == .raised deploymentId
  | _ => true

def bookkeepingRaises : CallEvent → Bool
  | ⟨.recordUsage _ _, .error f⟩ => f.toExc.isException
  | e => (raisedBy e).any fun f => f.toExc.isException

def calmAfterAnswer (s : Standing) (e : CallEvent) : Bool :=
  !(s.answered && bookkeepingRaises e)

def concernsProvider : Effect → Bool
  | .adapterChat _ _ _ | .adapterStream _ _ _ | .yieldDelta _ | .recordFailure _ _ => true
  | _ => false

theorem next_of_unconcerned {e : CallEvent} (apart : concernsProvider e.1 = false)
    (s : Standing) : callMonitor.next s e = s ∧ permitted s e = true := by
  obtain ⟨effect, answer⟩ := e
  cases effect <;> first | exact ⟨rfl, rfl⟩ | cases apart

variable {t : Trace}

theorem permitted_of_unconcerned (apart : ∀ e ∈ t, concernsProvider e.1 = false) (s : Standing) :
    callMonitor.stateAfter s t = s ∧ callMonitor.Always permitted s t := by
  have kept : ∀ e ∈ t, callMonitor.next s e = s :=
    fun e mem => (next_of_unconcerned (apart e mem) s).1
  refine ⟨Monitor.stateAfter_of_kept kept, (always_of_kept kept).mpr ?_⟩
  intro e mem
  exact (next_of_unconcerned (apart e mem) s).2

theorem unconcerned_of_prelude (steps : ∀ e ∈ t, isPrelude e.1 = true) :
    ∀ e ∈ t, concernsProvider e.1 = false := by
  intro e mem
  obtain ⟨effect, answer⟩ := e
  have step := steps _ mem
  cases effect <;> first | rfl | cases step

theorem unconcerned_of_bookkeeping (steps : ∀ e ∈ t, isBookkeeping e.1 = true) :
    ∀ e ∈ t, concernsProvider e.1 = false := by
  intro e mem
  obtain ⟨effect, answer⟩ := e
  have step := steps _ mem
  cases effect <;> first | rfl | cases step

theorem opensNone_of_unconcerned (apart : ∀ e ∈ t, concernsProvider e.1 = false) :
    ∀ e ∈ t, opensStream e.1 = false := by
  intro e mem
  obtain ⟨effect, answer⟩ := e
  have step := apart _ mem
  cases effect <;> first | rfl | cases step

theorem permitted_append_unconcerned {u : Trace} {s : Standing}
    (before : callMonitor.Always permitted s t) (apart : ∀ e ∈ u, concernsProvider e.1 = false) :
    callMonitor.Always permitted s (t ++ u) :=
  (always_append s t u).mpr ⟨before, (permitted_of_unconcerned apart _).2⟩

theorem permitted_unconcerned_append {u : Trace} {s : Standing}
    (apart : ∀ e ∈ t, concernsProvider e.1 = false) :
    callMonitor.Always permitted s (t ++ u) ↔ callMonitor.Always permitted s u := by
  rw [always_append, (permitted_of_unconcerned apart s).1]
  exact and_iff_right (permitted_of_unconcerned apart s).2

theorem GuardRun.calm {α : Type} {rows : List Terminal} {x : Exc}
    (run : GuardRun rows t (.error x : Except Exc α)) {s : Standing} (answered : s.answered = true)
    (calm : callMonitor.Always calmAfterAnswer s t) : x.isException = false := by
  obtain ⟨e, mem, f, raised, rfl⟩ := (run.raises x).mp rfl
  have kept : ∀ e ∈ t, callMonitor.next s e = s := fun e mem =>
    (next_of_unconcerned (unconcerned_of_bookkeeping run.bookkeeping e mem) s).1
  have still := (always_of_kept kept).mp calm e mem
  simp only [calmAfterAnswer, answered, Bool.true_and, Bool.not_eq_true'] at still
  obtain ⟨effect, answer⟩ := e
  cases effect <;> simp_all [bookkeepingRaises, raisedBy]

namespace LLMGateway

def answerPriced (gateway : LLMGateway) : CallEvent → Bool
  | ⟨.adapterChat _ _ _, .ok response⟩ =>
    (gateway.budget.pricing.recalculateUsage response.usage (some response.modelKey)).isOk
  | _ => true

def IsSupported (kind : LLMAdapterType) : Prop := ∀ name, kind ≠ .unsupported name

theorem adapterFor_supported {route : RouteSelection}
    (supported : IsSupported route.provider.adapterType) : ∃ kind, adapterFor route = .ok kind := by
  cases kind : route.provider.adapterType with
  | unsupported name => exact (supported name kind).elim
  | _ => exact ⟨_, by simp only [adapterFor, kind]; rfl⟩

theorem Authorized.unconcerned {gateway : LLMGateway} {request : LLMChatRequest}
    {context : LLMRequestContext} {effective : PolicyDecision → LLMChatRequest} {t : Trace}
    {r : Except Exc (PolicyDecision × BudgetReservation)} {held : Option BudgetReservation}
    (authorized : Authorized gateway request context effective t r held) :
    ∀ e ∈ t, concernsProvider e.1 = false := by
  cases authorized with
  | undecided evaluated => exact unconcerned_of_prelude evaluated.prelude.1
  | denied evaluated refused refusal =>
    exact List.forall_mem_append.mpr ⟨unconcerned_of_prelude evaluated.prelude.1,
      unconcerned_of_bookkeeping refusal.bookkeeping⟩
  | unreserved evaluated allowed reserved =>
    exact List.forall_mem_append.mpr ⟨unconcerned_of_prelude evaluated.prelude.1,
      unconcerned_of_prelude reserved.prelude.1⟩
  | overBudget evaluated allowed reserved refused refusal =>
    refine List.forall_mem_append.mpr ⟨unconcerned_of_prelude evaluated.prelude.1, ?_⟩
    exact List.forall_mem_append.mpr ⟨unconcerned_of_prelude reserved.prelude.1,
      unconcerned_of_bookkeeping refusal.bookkeeping⟩
  | authorized evaluated allowed reserved approved =>
    exact List.forall_mem_append.mpr ⟨unconcerned_of_prelude evaluated.prelude.1,
      unconcerned_of_prelude reserved.prelude.1⟩

section

variable {gateway : LLMGateway} {request : LLMChatRequest} {context : LLMRequestContext}
  {reservation : BudgetReservation} {route : RouteSelection} {t : Trace} {s : Standing}

theorem ChatSettled.calm {response : LLMResponse} {x : Exc}
    (settled : ChatSettled gateway context reservation route response t (.error x))
    (priced : (gateway.budget.pricing.recalculateUsage response.usage
      (some response.modelKey)).isOk = true) (answered : s.answered = true)
    (calm : callMonitor.Always calmAfterAnswer s t) : x.isException = false := by
  cases settled with
  | unpriced failed =>
    rw [failed] at priced
    cases priced
  | unsettled run => exact run.calm answered calm
  | uncommitted run =>
    obtain ⟨_, row⟩ := (always_append _ _ _).mp calm
    rw [(permitted_of_unconcerned (unconcerned_of_bookkeeping run.bookkeeping) s).1] at row
    simpa [calmAfterAnswer, answered, bookkeepingRaises] using row.1

theorem ChatAttempt.blameless {r : Except Exc LLMResponse}
    (attempt : ChatAttempt gateway request context reservation route t r)
    (supported : ∃ kind, adapterFor route = .ok kind) (fresh : s.answered = false)
    (priced : ∀ e ∈ t, gateway.answerPriced e = true)
    (calm : callMonitor.Always calmAfterAnswer s t) :
    callMonitor.Always permitted s t ∧
      ∀ x, r = .error x → x.isException = true →
        callMonitor.stateAfter s t = ⟨.raised route.deployment.id, false⟩ := by
  cases attempt with
  | unsupported failed =>
    obtain ⟨kind, found⟩ := supported
    rw [found] at failed
    cases failed
  | refused =>
    refine ⟨⟨by simp [permitted, fresh], trivial⟩, fun x _ _ => ?_⟩
    simp [stateAfter, callMonitor, Standing.note, fresh]
  | answered settled =>
    refine ⟨⟨by simp [permitted, fresh], ?_⟩, fun x raised ordinary => ?_⟩
    · have apart := unconcerned_of_bookkeeping settled.bookkeeping
      exact (permitted_unconcerned_append (t := [⟨.recordSuccess _, ()⟩])
        (by simp [concernsProvider])).mpr (permitted_of_unconcerned apart _).2
    · subst raised
      have base := settled.calm (priced _ List.mem_cons_self)
        (by simp [callMonitor, Standing.note]) calm.2.2
      rw [base] at ordinary
      cases ordinary

variable {r : Except Exc Unit} {held : Option BudgetReservation}

theorem AttemptFailed.blameless {x : Exc} {last : Bool} {recorded : Bool}
    (failed : AttemptFailed gateway context "chat" reservation route x last t r held recorded) :
    callMonitor.stateAfter ⟨.raised route.deployment.id, false⟩ t =
        ⟨.raised route.deployment.id, false⟩ ∧
      callMonitor.Always permitted ⟨.raised route.deployment.id, false⟩ t := by
  have blamed : ∀ u, (∀ e ∈ u, isBookkeeping e.1 = true) →
      callMonitor.stateAfter ⟨.raised route.deployment.id, false⟩
          (⟨.recordFailure route.deployment.id x.className, ()⟩ :: u) =
        ⟨.raised route.deployment.id, false⟩ ∧
      callMonitor.Always permitted ⟨.raised route.deployment.id, false⟩
        (⟨.recordFailure route.deployment.id x.className, ()⟩ :: u) := by
    intro u steps
    obtain ⟨state, always⟩ := permitted_of_unconcerned (unconcerned_of_bookkeeping steps)
      ⟨.raised route.deployment.id, false⟩
    exact ⟨state, by simp [permitted], always⟩
  cases failed with
  | uncommitted | fellBack => exact blamed _ (by simp [isBookkeeping])
  | unreleased row end_ run | released row end_ run =>
    exact blamed _ (List.forall_mem_cons.mpr ⟨rfl, run.bookkeeping⟩)

theorem ChatLoop.blameless {routes : List RouteSelection} {r : Except Exc LLMResponse}
    {recorded : Bool} (loop : ChatLoop gateway request context reservation routes t r held recorded)
    (supported : ∀ route ∈ routes, ∃ kind, adapterFor route = .ok kind) (fresh : s.answered = false)
    (priced : ∀ e ∈ t, gateway.answerPriced e = true)
    (calm : callMonitor.Always calmAfterAnswer s t) : callMonitor.Always permitted s t := by
  induction loop generalizing s with
  | exhausted => trivial
  | answered attempt | interrupted attempt =>
    exact (attempt.blameless (supported _ List.mem_cons_self) fresh priced calm).1
  | failed attempt ordinary handled =>
    obtain ⟨pricedBefore, _⟩ := List.forall_mem_append.mp priced
    obtain ⟨before, after⟩ := (always_append _ _ _).mp calm
    obtain ⟨always, state⟩ :=
      attempt.blameless (supported _ List.mem_cons_self) fresh pricedBefore before
    refine (always_append _ _ _).mpr ⟨always, ?_⟩
    rw [state _ rfl ordinary]
    exact handled.blameless.2
  | next attempt ordinary handled loop ih =>
    obtain ⟨pricedBefore, pricedAfter⟩ := List.forall_mem_append.mp priced
    obtain ⟨before, after⟩ := (always_append _ _ _).mp calm
    obtain ⟨always, state⟩ := attempt.blameless (supported _ List.mem_cons_self) fresh
      (List.forall_mem_append.mp pricedBefore).1 ((always_append _ _ _).mp before).1
    have state := state _ rfl ordinary
    rw [stateAfter_append, state, handled.blameless.1] at after
    refine (always_append _ _ _).mpr ⟨(always_append _ _ _).mpr ⟨always, ?_⟩, ?_⟩
    · rw [state]
      exact handled.blameless.2
    · rw [stateAfter_append, state, handled.blameless.1]
      exact ih (fun route mem => supported route (List.mem_cons_of_mem _ mem)) rfl
        pricedAfter after

theorem ChatBody.blameless {r : Except Exc LLMResponse} {reserved recorded : Bool}
    (body : ChatBody gateway request context t r held reserved recorded)
    (supported : ∀ provider ∈ gateway.router.providers, IsSupported provider.adapterType)
    (priced : ∀ e ∈ t, gateway.answerPriced e = true)
    (calm : callMonitor.Always calmAfterAnswer {} t) : callMonitor.Always permitted {} t := by
  cases body with
  | stopped authorized => exact (permitted_of_unconcerned authorized.unconcerned _).2
  | unplanned authorized planned =>
    refine permitted_append_unconcerned ?_ (unconcerned_of_prelude planned.prelude.1)
    exact (permitted_of_unconcerned authorized.unconcerned _).2
  | looped authorized planned loop =>
    have apart := List.forall_mem_append.mpr
      ⟨authorized.unconcerned, unconcerned_of_prelude planned.prelude.1⟩
    rw [always_append, (permitted_of_unconcerned apart _).1] at calm
    refine (permitted_unconcerned_append apart).mpr ?_
    refine loop.blameless ?_ rfl (List.forall_mem_append.mp priced).2 calm.2
    intro route mem
    exact adapterFor_supported (supported _ (planned.registered _ rfl route mem))

def streaming (deploymentId : UUID) (deltas : List String) (finish : StreamEnd) : Standing :=
  Standing.note {} (.opened deploymentId deltas finish)

theorem Forwarded.blameless {deltas : List String} {finish : StreamEnd}
    (forwarded : Forwarded deltas finish t r) (deploymentId : UUID) :
    callMonitor.Always permitted (streaming deploymentId deltas finish) t ∧
      (r = .ok () → (callMonitor.stateAfter (streaming deploymentId deltas finish) t).answered =
        true) ∧
      ∀ x, r = .error x → x.isException = true →
        callMonitor.stateAfter (streaming deploymentId deltas finish) t =
          ⟨.raised deploymentId, false⟩ := by
  induction forwarded with
  | finished => exact ⟨trivial, fun _ => rfl, by simp⟩
  | raised => exact ⟨trivial, by simp, fun x _ _ => rfl⟩
  | @resumed delta rest finish t r more ih =>
    have step : callMonitor.next (streaming deploymentId (delta :: rest) finish)
        ⟨.yieldDelta delta, .next⟩ = streaming deploymentId rest finish := by
      cases rest <;> cases finish <;> rfl
    simp only [always_cons, stateAfter, List.foldl_cons, step]
    exact ⟨⟨rfl, ih.1⟩, ih.2⟩
  | cancelled | closed =>
    refine ⟨⟨rfl, trivial⟩, by simp, fun x raised ordinary => ?_⟩
    cases raised
    cases ordinary

theorem StreamSettled.calm {content : String} {x : Exc} {closed : Bool}
    (settled : StreamSettled gateway request context reservation route content t (.error x) closed)
    (priced : (gateway.streamUsage request content route.deployment.modelKey).isOk = true)
    (answered : s.answered = true) (calm : callMonitor.Always calmAfterAnswer s t) :
    x.isException = false := by
  cases settled with
  | unpriced failed =>
    rw [failed] at priced
    cases priced
  | unsettled _ run => exact run.calm answered calm
  | uncommitted _ run =>
    obtain ⟨_, row⟩ := (always_append _ _ _).mp calm
    rw [(permitted_of_unconcerned (unconcerned_of_bookkeeping run.bookkeeping) s).1] at row
    simpa [calmAfterAnswer, answered, bookkeepingRaises] using row.1

theorem StreamAttempt.blameless {closed : Bool}
    (attempt : StreamAttempt gateway request context reservation route t r closed)
    (fresh : s.answered = false)
    (priced : ∀ stream ∈ completedStreams t, gateway.isPriced stream = true)
    (calm : callMonitor.Always calmAfterAnswer s t) :
    callMonitor.Always permitted s t ∧
      ∀ x, r = .error x → x.isException = true → x.isHttp = false →
        callMonitor.stateAfter s t = ⟨.raised route.deployment.id, false⟩ := by
  have opened : ∀ deltas finish, callMonitor.next s
      ⟨.adapterStream route request context, (deltas, finish)⟩ =
        streaming route.deployment.id deltas finish := by
    intro deltas finish
    simp [callMonitor, Standing.note, streaming, fresh]
  cases attempt with
  | unsupported failed =>
    refine ⟨trivial, fun x raised _ plain => ?_⟩
    cases raised
    rw [adapterFor_error failed] at plain
    cases plain
  | broken forwarded =>
    simp only [always_cons, stateAfter, List.foldl_cons, opened]
    obtain ⟨always, _, raised⟩ := forwarded.blameless route.deployment.id
    exact ⟨⟨by simp [permitted, fresh], always⟩, fun x same ordinary _ => raised x same ordinary⟩
  | @completed deltas finish u v _ _ forwarded settled =>
    simp only [always_cons, opened] at calm ⊢
    obtain ⟨always, answered, _⟩ := forwarded.blameless route.deployment.id
    refine ⟨⟨by simp [permitted, fresh], ?_⟩, fun x raised ordinary _ => ?_⟩
    · refine permitted_append_unconcerned always (List.forall_mem_cons.mpr ⟨rfl, ?_⟩)
      exact unconcerned_of_bookkeeping settled.bookkeeping
    · subst raised
      have completed : ⟨route, request, deltas⟩ ∈ completedStreams
          (⟨.adapterStream route request context, (deltas, finish)⟩ ::
            (u ++ ⟨.recordSuccess route.deployment.id, ()⟩ :: v)) := by
        rw [forwarded.completedStreams]
        simp
      obtain ⟨_, _, still⟩ := (always_append _ _ _).mp calm.2
      rw [(next_of_unconcerned rfl _).1] at still
      have usable := priced _ completed
      simp only [isPriced] at usable
      have base := settled.calm usable (answered rfl) still
      rw [base] at ordinary
      cases ordinary

theorem StreamFailed.blameless {x : Exc} (failed : StreamFailed context route x t r) :
    callMonitor.stateAfter ⟨.raised route.deployment.id, false⟩ t =
        ⟨.raised route.deployment.id, false⟩ ∧
      callMonitor.Always permitted ⟨.raised route.deployment.id, false⟩ t := by
  cases failed with
  | uncommitted | fellBack | yielded => exact ⟨rfl, by simp [permitted, callMonitor]⟩

theorem StreamLoop.blameless {routes : List RouteSelection} {open_ left : Bool}
    (loop : StreamLoop gateway request context reservation routes open_ t r left)
    (fresh : s.answered = false)
    (priced : ∀ stream ∈ completedStreams t, gateway.isPriced stream = true)
    (calm : callMonitor.Always calmAfterAnswer s t) : callMonitor.Always permitted s t := by
  induction loop generalizing s with
  | exhausted => trivial
  | answered attempt | escaped attempt => exact (attempt.blameless fresh priced calm).1
  | failed attempt ordinary plain handled =>
    rw [attempt.selfContained] at priced
    obtain ⟨before, _⟩ := (always_append _ _ _).mp calm
    obtain ⟨always, state⟩ :=
      attempt.blameless fresh (List.forall_mem_append.mp priced).1 before
    refine (always_append _ _ _).mpr ⟨always, ?_⟩
    rw [state _ rfl ordinary plain]
    exact handled.blameless.2
  | next attempt ordinary plain handled loop ih =>
    rw [List.append_assoc, attempt.selfContained, completedStreams_append handled.opensNone]
      at priced
    obtain ⟨pricedBefore, pricedAfter⟩ := List.forall_mem_append.mp priced
    obtain ⟨before, after⟩ := (always_append _ _ _).mp calm
    obtain ⟨always, state⟩ :=
      attempt.blameless fresh pricedBefore ((always_append _ _ _).mp before).1
    have state := state _ rfl ordinary plain
    rw [stateAfter_append, state, handled.blameless.1] at after
    refine (always_append _ _ _).mpr ⟨(always_append _ _ _).mpr ⟨always, ?_⟩, ?_⟩
    · rw [state]
      exact handled.blameless.2
    · rw [stateAfter_append, state, handled.blameless.1]
      exact ih rfl pricedAfter after

theorem StreamBody.selfContained {left : Bool}
    (body : StreamBody gateway request context t r held left) : SelfContained t := by
  cases body with
  | stopped authorized =>
    exact selfContained_of_opensNone (opensNone_of_unconcerned authorized.unconcerned)
  | unplanned authorized planned =>
    refine selfContained_of_opensNone (List.forall_mem_append.mpr ⟨?_, ?_⟩)
    · exact opensNone_of_unconcerned authorized.unconcerned
    · exact opensNone_of_prelude planned.prelude.1
  | looped authorized planned loop =>
    refine SelfContained.append (selfContained_of_opensNone ?_) loop.selfContained
    refine List.forall_mem_append.mpr ⟨?_, opensNone_of_prelude planned.prelude.1⟩
    exact opensNone_of_unconcerned authorized.unconcerned

theorem StreamBody.blameless {left : Bool} (body : StreamBody gateway request context t r held left)
    (priced : ∀ stream ∈ completedStreams t, gateway.isPriced stream = true)
    (calm : callMonitor.Always calmAfterAnswer {} t) : callMonitor.Always permitted {} t := by
  cases body with
  | stopped authorized => exact (permitted_of_unconcerned authorized.unconcerned _).2
  | unplanned authorized planned =>
    refine permitted_append_unconcerned ?_ (unconcerned_of_prelude planned.prelude.1)
    exact (permitted_of_unconcerned authorized.unconcerned _).2
  | looped authorized planned loop =>
    have apart := List.forall_mem_append.mpr
      ⟨authorized.unconcerned, unconcerned_of_prelude planned.prelude.1⟩
    rw [always_append, (permitted_of_unconcerned apart _).1] at calm
    rw [completedStreams_append (opensNone_of_unconcerned apart)] at priced
    exact (permitted_unconcerned_append apart).mpr (loop.blameless rfl priced calm.2)

/-- Where no usage is unpriced and no storage step raises after an answer, a
provider that answered is neither called past nor reported, by `chat` and by
`stream_chat`. -/
theorem answered_provider_is_left_alone
    (supported : ∀ provider ∈ gateway.router.providers, IsSupported provider.adapterType) :
    (∀ t r, Process.Program.Runs (gateway.chat request context) t r →
        (∀ e ∈ t, gateway.answerPriced e = true) → callMonitor.Always calmAfterAnswer {} t →
        callMonitor.Always permitted {} t) ∧
      ∀ t r, Process.Program.Runs (gateway.streamChat request context) t r →
        (∀ stream ∈ completedStreams t, gateway.isPriced stream = true) →
        callMonitor.Always calmAfterAnswer {} t → callMonitor.Always permitted {} t := by
  refine ⟨?_, ?_⟩
  · intro t r run priced calm
    cases chat_run run with
    | returned body => exact body.blameless supported priced calm
    | raised body handler =>
      refine permitted_append_unconcerned ?_ (unconcerned_of_bookkeeping handler.bookkeeping)
      exact body.blameless supported (List.forall_mem_append.mp priced).1
        ((always_append _ _ _).mp calm).1
  · intro t r run priced calm
    cases stream_run run with
    | returned body => exact body.blameless priced calm
    | raised body handler =>
      refine permitted_append_unconcerned ?_ (unconcerned_of_bookkeeping handler.bookkeeping)
      rw [body.selfContained] at priced
      exact body.blameless (List.forall_mem_append.mp priced).1
        ((always_append _ _ _).mp calm).1

end

theorem answered_provider_is_reported :
    ∃ t r, Process.Program.Runs (twoRouteGateway.chat helloRequest tenantContext) t r ∧
      (∀ e ∈ t, twoRouteGateway.answerPriced e = true) ∧
      ¬ callMonitor.Always permitted {} t := by
  refine ⟨_, _, Process.Program.follow_runs lostSuccessRow _, ?_⟩
  decide +kernel

def secondAnswers : (e : Effect) → Answer e
  | .adapterChat route _ _ =>
    if route.deployment.id = 2 then .ok helloResponse else .error lostRow.toExc
  | .adapterStream route _ _ =>
    if route.deployment.id = 2 then (["hi"], .finished) else ([], .raised lostRow.toExc)
  | e => quiet e

theorem second_answer_is_left_alone :
    callMonitor.Always permitted {}
        ((twoRouteGateway.chat helloRequest tenantContext).follow secondAnswers).1 ∧
      callMonitor.Always permitted {}
        ((twoRouteGateway.streamChat helloRequest tenantContext).follow secondAnswers).1 := by
  have supported :
      ∀ provider ∈ twoRouteGateway.router.providers, IsSupported provider.adapterType := by
    intro provider mem name same
    rw [List.mem_singleton.mp mem] at same
    cases same
  refine ⟨?_, ?_⟩
  · exact (answered_provider_is_left_alone supported).1 _ _
      (Process.Program.follow_runs secondAnswers _) (by decide +kernel) (by decide +kernel)
  · exact (answered_provider_is_left_alone supported).2 _ _
      (Process.Program.follow_runs secondAnswers _) (by decide +kernel) (by decide +kernel)

end LLMGateway
end AgentHive
