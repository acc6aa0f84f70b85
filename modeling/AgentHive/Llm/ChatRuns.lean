import AgentHive.Llm.GatewayRuns

/-!
The runs of `chat`: which steps it takes, in which order, and how each of them
leads on. Every fact about runs of `chat` is read off from these shapes.
-/

namespace AgentHive.LLMGateway

open Process (Action)
open UsageCollector
open Process.Action (wp_bind wp_get wp_ite wp_modify wp_mono wp_ofExcept wp_perform wp_pure
  wp_throw wp_tryCatch)

section Shapes

variable (gateway : LLMGateway) (request : LLMChatRequest) (context : LLMRequestContext)
  (reservation : BudgetReservation)

inductive ChatSettled (route : RouteSelection) (response : LLMResponse) :
    Trace → Except Exc LLMResponse → Prop
  | unpriced {x : Exc}
      (failed : gateway.budget.pricing.recalculateUsage response.usage (some response.modelKey) =
        .error x) :
      ChatSettled route response [] (.error x)
  | unsettled {t : Trace} {x : Exc}
      (run : GuardRun (gateway.budget.closing .settle reservation) t
        (.error x : Except Exc Unit)) :
      ChatSettled route response t (.error x)
  | uncommitted {t : Trace} {f : Fault} {enriched : LLMResponse}
      (run : GuardRun (gateway.budget.closing .settle reservation) t (.ok () : Except Exc Unit)) :
      ChatSettled route response
        (t ++ [⟨.recordUsage (successRecord context route enriched) context, .error f⟩])
        (.error f.toExc)
  | committed {t : Trace} {call : ObservedCall} {enriched : LLMResponse}
      (run : GuardRun (gateway.budget.closing .settle reservation) t (.ok () : Except Exc Unit)) :
      ChatSettled route response
        (t ++ [⟨.recordUsage (successRecord context route enriched) context, .ok ()⟩,
          ⟨.observe call, ()⟩])
        (.ok enriched)

inductive ChatAttempt (route : RouteSelection) : Trace → Except Exc LLMResponse → Prop
  | unsupported {x : Exc} (failed : adapterFor route = .error x) :
      ChatAttempt route [] (.error x)
  | refused {x : Exc} :
      ChatAttempt route [⟨.adapterChat route request context, .error x⟩] (.error x)
  | answered {response : LLMResponse} {t : Trace} {r : Except Exc LLMResponse}
      (settled : ChatSettled gateway context reservation route response t r) :
      ChatAttempt route
        (⟨.adapterChat route request context, .ok response⟩ ::
          ⟨.recordSuccess route.deployment.id, ()⟩ :: t) r

inductive ChatLoop : List RouteSelection → Trace → Except Exc LLMResponse →
    Option BudgetReservation → Bool → Prop
  | exhausted {x : Exc} (ordinary : x.isException = true) :
      ChatLoop [] [] (.error x) (some reservation) false
  | answered {route : RouteSelection} {rest : List RouteSelection} {t : Trace}
      {response : LLMResponse}
      (attempt : ChatAttempt gateway request context reservation route t (.ok response)) :
      ChatLoop (route :: rest) t (.ok response) (some reservation) false
  | interrupted {route : RouteSelection} {rest : List RouteSelection} {t : Trace} {x : Exc}
      (attempt : ChatAttempt gateway request context reservation route t (.error x))
      (base : x.isException = false) :
      ChatLoop (route :: rest) t (.error x) (some reservation) false
  | failed {route : RouteSelection} {rest : List RouteSelection} {t u : Trace} {x y : Exc}
      {held : Option BudgetReservation} {recorded : Bool}
      (attempt : ChatAttempt gateway request context reservation route t (.error x))
      (ordinary : x.isException = true)
      (handled : AttemptFailed gateway context "chat" reservation route x rest.isEmpty u (.error y) held
        recorded) :
      ChatLoop (route :: rest) (t ++ u) (.error y) held recorded
  | next {route : RouteSelection} {rest : List RouteSelection} {t u v : Trace} {x : Exc}
      {r : Except Exc LLMResponse} {held : Option BudgetReservation} {recorded : Bool}
      (attempt : ChatAttempt gateway request context reservation route t (.error x))
      (ordinary : x.isException = true)
      (handled : AttemptFailed gateway context "chat" reservation route x rest.isEmpty u (.ok ())
        (some reservation) false)
      (loop : ChatLoop rest v r held recorded) :
      ChatLoop (route :: rest) (t ++ u ++ v) r held recorded

end Shapes

variable {gateway : LLMGateway} {request : LLMChatRequest} {context : LLMRequestContext}
  {reservation : BudgetReservation}

theorem settleChat_run (index : Nat) (route : RouteSelection) (response : LLMResponse)
    (s : ChatLocals) :
    (gateway.settleChat reservation context index route response).wp s fun t r s' =>
      ChatSettled gateway context reservation route response t r ∧
        ∃ attempts, s' = { s with routeAttempts := attempts } := by
  simp only [settleChat, wp_bind, wp_modify, wp_get, wp_ofExcept]
  cases priced : gateway.budget.pricing.recalculateUsage response.usage
      (some response.modelKey) with
  | error x => exact ⟨.unpriced priced, _, rfl⟩
  | ok usage =>
    refine wp_mono (gateway.budget.settle_guarded reservation _ context _) ?_
    intro t r s' h
    obtain ⟨rfl, run⟩ := h
    cases r with
    | error x => exact ⟨.unsettled run, _, rfl⟩
    | ok u =>
      simp only [append_wp, wp_perform, wp_pure]
      refine ⟨fun call => ⟨.committed run, _, rfl⟩, ?_⟩
      intro f
      exact ⟨.uncommitted run, _, rfl⟩

theorem chatAttempt_run (index : Nat) (route : RouteSelection) (s : ChatLocals) :
    (gateway.chatAttempt request context reservation index route).wp s fun t r s' =>
      ChatAttempt gateway request context reservation route t r ∧
        ∃ attempts, s' = { s with routeAttempts := attempts } := by
  simp only [chatAttempt, wp_bind, wp_perform, wp_ofExcept]
  cases supported : adapterFor route with
  | error x => exact ⟨.unsupported supported, _, rfl⟩
  | ok kind =>
    intro answer
    cases answer with
    | error x => exact ⟨.refused, _, rfl⟩
    | ok response =>
      intro u
      refine wp_mono (settleChat_run index route response s) ?_
      intro t r s' h
      exact ⟨.answered h.1, h.2⟩

theorem chatFailureRecord_row (index total : Nat) (route : RouteSelection)
    (attempts : List RouteAttempt) (exc : Exc) :
    IsOperationRow "chat" context
    (gateway.chatFailureRecord context index total route attempts exc) := by
  refine ⟨rfl, ?_, rfl⟩
  intro same
  cases same

structure ChatReady (reservation : BudgetReservation) (s : ChatLocals) : Prop where
  held : s.reservation = some reservation
  unrecorded : s.routeErrorRecorded = false
  ordinary : ∀ x, s.lastError = some x → x.isException = true

theorem chatAttemptFailed_run (index total : Nat) (route : RouteSelection) (x : Exc)
    (s : ChatLocals) (held : s.reservation = some reservation)
    (unrecorded : s.routeErrorRecorded = false) :
    (gateway.chatAttemptFailed context reservation index total route x).wp s fun t r s' =>
      AttemptFailed gateway context "chat" reservation route x (index == total) t r s'.reservation
          s'.routeErrorRecorded ∧
        s'.budgetReserved = s.budgetReserved ∧ s'.lastError = some x := by
  simp only [chatAttemptFailed, wp_bind, wp_modify, wp_perform,
    wp_get, append_wp, List.nil_append]
  intro u
  refine ⟨?_, ?_⟩
  · cases last : index == total with
    | true =>
      simp only [if_true, wp_bind, wp_modify, List.nil_append]
      refine wp_mono (gateway.budget.release_guarded reservation context _ _) ?_
      intro v r s' h
      obtain ⟨rfl, run⟩ := h
      cases r with
      | error y =>
        simp only [held]
        exact ⟨.unreleased (chatFailureRecord_row ..) rfl run, trivial, trivial⟩
      | ok a =>
        simp only [wp_throw, List.append_nil]
        exact ⟨.released (chatFailureRecord_row ..) rfl run, trivial, trivial⟩
    | false =>
      simp only [Bool.false_eq_true, if_false, wp_pure, held, unrecorded]
      exact ⟨.fellBack (chatFailureRecord_row ..) rfl, trivial, trivial⟩
  · intro f
    simp only [held, unrecorded]
    exact ⟨.uncommitted (chatFailureRecord_row ..), trivial, trivial⟩

theorem chatRoutes_run (total : Nat) (routes : List RouteSelection) (index : Nat)
    (s : ChatLocals) (ready : ChatReady reservation s)
    (numbered : index + routes.length = total + 1) :
    (gateway.chatRoutes request context reservation total index routes).wp s fun t r s' =>
      ChatLoop gateway request context reservation routes t r s'.reservation
          s'.routeErrorRecorded ∧
        s'.budgetReserved = s.budgetReserved := by
  induction routes generalizing index s with
  | nil =>
    simp only [chatRoutes, wp_bind, wp_get]
    cases failed : s.lastError with
    | some x =>
      simp only [wp_throw]
      rw [ready.held, ready.unrecorded]
      exact ⟨.exhausted (ready.ordinary x failed), trivial⟩
    | none =>
      simp only [wp_throw]
      rw [ready.held, ready.unrecorded]
      exact ⟨.exhausted rfl, trivial⟩
  | cons route rest ih =>
    simp only [chatRoutes, wp_bind, wp_modify, wp_tryCatch, Action.wp_map]
    refine wp_mono (chatAttempt_run index route _) ?_
    intro t r s' h
    obtain ⟨attempt, attempts, rfl⟩ := h
    have last : (index == total) = rest.isEmpty := by
      cases rest with
      | nil => simpa using numbered
      | cons other others =>
        simp only [List.length_cons] at numbered
        simp only [List.isEmpty_cons, beq_eq_false_iff_ne]
        omega
    cases r with
    | ok response =>
      simp only [wp_pure, List.append_nil, List.nil_append]
      rw [ready.held, ready.unrecorded]
      exact ⟨.answered attempt, trivial⟩
    | error x =>
      simp only [wp_ite]
      split
      · rename_i ordinary
        simp only [wp_bind]
        refine wp_mono (chatAttemptFailed_run index total route x _ ready.held
          ready.unrecorded) ?_
        intro u r s' h
        obtain ⟨handled, reserved, lastError⟩ := h
        rw [last] at handled
        cases r with
        | error y =>
          simp only [List.nil_append]
          exact ⟨.failed attempt ordinary handled, reserved⟩
        | ok a =>
          simp only [wp_pure, List.nil_append, List.append_nil]
          have kept := handled.kept
          rw [kept.1, kept.2] at handled
          refine wp_mono (ih (index + 1) s' ⟨kept.1, kept.2, ?_⟩ ?_) ?_
          · intro y same
            rw [lastError] at same
            cases same
            exact ordinary
          · simp only [List.length_cons] at numbered
            omega
          · intro v r s'' h
            exact ⟨.next attempt ordinary handled h.1, h.2.trans reserved⟩
      · rename_i base
        simp only [wp_throw, List.append_nil, List.nil_append]
        rw [ready.held, ready.unrecorded]
        exact ⟨.interrupted attempt (Bool.eq_false_iff.mpr base), trivial⟩

variable {t : Trace} {r : Except Exc LLMResponse}

theorem ChatSettled.bookkeeping {route : RouteSelection} {response : LLMResponse}
    (settled : ChatSettled gateway context reservation route response t r) :
    ∀ e ∈ t, isBookkeeping e.1 = true := by
  cases settled with
  | unpriced => simp
  | unsettled run => exact run.bookkeeping
  | uncommitted run =>
    exact List.forall_mem_append.mpr ⟨run.bookkeeping, by simp [isBookkeeping]⟩
  | committed run =>
    exact List.forall_mem_append.mpr ⟨run.bookkeeping, by simp [isBookkeeping]⟩

theorem ChatAttempt.later {route : RouteSelection}
    (attempt : ChatAttempt gateway request context reservation route t r) :
    ∀ e ∈ t, isPrelude e.1 = false := by
  cases attempt with
  | unsupported => simp
  | refused => simp [isPrelude]
  | answered settled =>
    refine List.forall_mem_cons.mpr ⟨rfl, List.forall_mem_cons.mpr ⟨rfl, ?_⟩⟩
    exact not_prelude_of_bookkeeping settled.bookkeeping

theorem ChatLoop.later {routes : List RouteSelection} {held : Option BudgetReservation}
    {recorded : Bool}
    (loop : ChatLoop gateway request context reservation routes t r held recorded) :
    ∀ e ∈ t, isPrelude e.1 = false := by
  induction loop with
  | exhausted => simp
  | answered attempt => exact attempt.later
  | interrupted attempt => exact attempt.later
  | failed attempt ordinary handled =>
    exact List.forall_mem_append.mpr ⟨attempt.later, handled.later⟩
  | next attempt ordinary handled loop ih =>
    refine List.forall_mem_append.mpr ⟨?_, ih⟩
    exact List.forall_mem_append.mpr ⟨attempt.later, handled.later⟩

inductive ChatBody (gateway : LLMGateway) (request : LLMChatRequest)
    (context : LLMRequestContext) :
    Trace → Except Exc LLMResponse → Option BudgetReservation → Bool → Bool → Prop
  | stopped {t : Trace} {x : Exc} {held : Option BudgetReservation}
      (authorized : Authorized gateway request context (effectiveRequest request) t (.error x)
        held) :
      ChatBody gateway request context t (.error x) held false false
  | unplanned {t u : Trace} {decision : PolicyDecision} {reservation : BudgetReservation}
      {x : Exc}
      (authorized : Authorized gateway request context (effectiveRequest request) t
        (.ok (decision, reservation)) (some reservation))
      (planned : Planned gateway.router u (.error x)) :
      ChatBody gateway request context (t ++ u) (.error x) (some reservation) true false
  | looped {t u v : Trace} {decision : PolicyDecision} {reservation : BudgetReservation}
      {routes : List RouteSelection} {r : Except Exc LLMResponse}
      {held : Option BudgetReservation} {recorded : Bool}
      (authorized : Authorized gateway request context (effectiveRequest request) t
        (.ok (decision, reservation)) (some reservation))
      (planned : Planned gateway.router u (.ok routes))
      (loop : ChatLoop gateway (effectiveRequest request decision) context reservation routes v r
        held recorded) :
      ChatBody gateway request context (t ++ u ++ v) r held true recorded

theorem chatBody_run (gateway : LLMGateway) (request : LLMChatRequest)
    (context : LLMRequestContext) :
    (gateway.chatBody request context).wp {} fun t r s' =>
      ChatBody gateway request context t r s'.reservation s'.budgetReserved
        s'.routeErrorRecorded := by
  simp only [chatBody, wp_bind]
  refine wp_mono (authorize_run gateway request context _ _ _ _ _) ?_
  intro t r s' h
  obtain ⟨held, authorized, rfl⟩ := h
  cases r with
  | error x =>
    cases held with
    | none => exact .stopped authorized
    | some reservation => exact .stopped authorized
  | ok given =>
    obtain ⟨decision, reservation⟩ := given
    obtain ⟨_, _, rfl⟩ := authorized.prelude
    simp only [wp_modify, Option.elim_some, List.nil_append]
    refine wp_mono (plan_run gateway _ decision _) ?_
    intro u r s' h
    obtain ⟨rfl, planned⟩ := h
    cases r with
    | error x => exact .unplanned authorized planned
    | ok routes =>
      refine wp_mono (chatRoutes_run routes.length routes 1 _ ⟨rfl, rfl, by simp⟩
        (Nat.add_comm 1 _)) ?_
      intro v r s' h
      obtain ⟨loop, budgetReserved⟩ := h
      rw [budgetReserved, ← List.append_assoc]
      exact .looped authorized planned loop

theorem chatHandler_run (gateway : LLMGateway) (request : LLMChatRequest)
    (context : LLMRequestContext) (x : Exc) (s : ChatLocals) :
    (gateway.chatHandler request context x).wp s fun t r _ =>
      ∃ y, r = .error y ∧ Handled gateway context "route_planning" s.reservation s.budgetReserved
        s.routeErrorRecorded x t y := by
  simp only [chatHandler, wp_ite]
  split
  · rename_i http
    simp only [chatHttpHandler, wp_bind, wp_get, List.nil_append]
    refine wp_mono (recordUnless_run
      (recordHttpFailure_run gateway context http s.route "route_planning") s) ?_
    intro t r s' h
    obtain ⟨rfl, row⟩ := h
    cases r with
    | error y => exact ⟨y, rfl, .httpLost http row⟩
    | ok a =>
      simp only [wp_modify, List.nil_append]
      refine wp_mono (gateway.releaseHeld_run _ context _ _) ?_
      intro u r s'' h
      obtain ⟨rfl, run⟩ := h
      cases r with
      | error y => exact ⟨y, rfl, .httpUnreleased http row run⟩
      | ok b =>
        simp only [wp_perform, wp_throw, List.append_nil]
        intro observed
        exact ⟨x, rfl, .http [_] http row run⟩
  · rename_i plain
    split
    · rename_i ordinary
      simp only [chatExceptionHandler, wp_bind, wp_get, List.nil_append]
      refine wp_mono (gateway.releaseHeld_run _ context _ _) ?_
      intro u r s' h
      obtain ⟨rfl, run⟩ := h
      cases r with
      | error y => exact ⟨y, rfl, .unreleased ordinary (by simpa using plain) run⟩
      | ok b =>
        refine wp_mono
          (recordUnless_run (append_run (failureRecord_plain _ _ _ _) context) s') ?_
        intro t r s'' h
        obtain ⟨rfl, row⟩ := h
        cases r with
        | error y => exact ⟨y, rfl, .lost ordinary (by simpa using plain) run row⟩
        | ok a =>
          simp only [wp_perform, wp_throw, List.append_nil]
          intro observed
          exact ⟨x, rfl, .handled [_] ordinary (by simpa using plain) run row⟩
    · rename_i base
      exact ⟨x, rfl, .passed (Bool.eq_false_iff.mpr base)⟩

inductive ChatRun (gateway : LLMGateway) (request : LLMChatRequest)
    (context : LLMRequestContext) : Trace → Except Exc LLMResponse → Prop
  | returned {t : Trace} {response : LLMResponse} {held : Option BudgetReservation}
      {reserved recorded : Bool}
      (body : ChatBody gateway request context t (.ok response) held reserved recorded) :
      ChatRun gateway request context t (.ok response)
  | raised {t u : Trace} {x y : Exc} {held : Option BudgetReservation}
      {reserved recorded : Bool}
      (body : ChatBody gateway request context t (.error x) held reserved recorded)
      (handler : Handled gateway context "route_planning" held reserved recorded x u y) :
      ChatRun gateway request context (t ++ u) (.error y)

theorem chat_run {gateway : LLMGateway} {request : LLMChatRequest} {context : LLMRequestContext}
    (run : Process.Program.Runs (gateway.chat request context) t r) :
    ChatRun gateway request context t r := by
  suffices every : (gateway.chat request context).wp (ChatRun gateway request context) from
    (Process.Program.wp_iff_runs _ _).mp every t r run
  simp only [chat, Action.wp_run, wp_tryCatch]
  refine wp_mono (chatBody_run gateway request context) ?_
  intro t r s body
  cases r with
  | ok response => exact .returned body
  | error x =>
    refine wp_mono (chatHandler_run gateway request context x s) ?_
    intro u r s' h
    obtain ⟨y, rfl, handler⟩ := h
    exact .raised body handler

end AgentHive.LLMGateway
