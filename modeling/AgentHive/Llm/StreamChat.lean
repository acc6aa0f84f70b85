import AgentHive.Llm.GatewayRuns

/-!
`stream_chat`: the same governance path, with the deltas of a provider handed
to a consumer that may stop the generator at any of them.
-/

namespace AgentHive

open Process (Action)
open Process.Action (ofExcept tryCatch wp_bind wp_get wp_ite wp_modify wp_mono wp_ofExcept
  wp_perform wp_pure wp_throw wp_tryCatch)
open List (append_assoc append_nil forall_mem_append forall_mem_cons nil_append)

structure StreamLocals where
  route : Option RouteSelection := none
  reservation : Option BudgetReservation := none
  reservationOpen : Bool := false
  routeAttempts : List RouteAttempt := []
  lastError : Option Exc := none
  collected : List String := []
  yieldedContent : Bool := false

namespace LLMGateway

open UsageCollector

def adapterName (kind : LLMAdapterType) : String := kind.text

def forward : List String → StreamEnd → Step StreamLocals Unit
  | [], .finished => pure ()
  | [], .raised exc => Action.throw exc
  | delta :: rest, finish => do
    Action.modify fun s =>
      { s with
        collected := s.collected ++ [delta]
        yieldedContent := s.yieldedContent || delta != "" }
    let resume : Resume ← Action.perform (Effect.yieldDelta delta)
    match resume with
    | .next => forward rest finish
    | .cancelled => Action.throw .cancelled
    | .generatorExit => Action.throw .generatorExit

def estimatedOutput (content : String) : Int :=
  if content = "" then 0 else max 1 (content.length / 4 : Nat)

def streamedResponse (gateway : LLMGateway) (context : LLMRequestContext) (content : String)
    (usage : LLMUsageMetrics) (kind : LLMAdapterType) (attempts : List RouteAttempt)
    (index : Nat) (route : RouteSelection) : LLMResponse :=
  { requestId := context.requestId
    modelKey := route.deployment.modelKey
    content := content
    usage := usage
    providerKey := route.provider.providerKey
    deploymentId := some route.deployment.id
    finishReason := some "stop"
    metadata :=
      [("adapter", .str (adapterName kind)), ("streamed", .bool true),
        ("usage_estimated", .bool true), ("selected_route_reason", .str route.reason),
        ("fallback_attempt_count", .int (index - 1)), ("route_attempts", .attempts attempts),
        ("pricing_rule", .str (gateway.budget.pricing.priceRuleFor
          (some route.deployment.modelKey)).pattern)] }

def streamUsage (gateway : LLMGateway) (request : LLMChatRequest) (content : String)
    (modelKey : String) : Except Exc LLMUsageMetrics := do
  let estimated ← gateway.budget.pricing.estimate request
  gateway.budget.pricing.calculate estimated.inputTokens (estimatedOutput content) (some modelKey)

def settleStream (gateway : LLMGateway) (request : LLMChatRequest) (context : LLMRequestContext)
    (reservation : BudgetReservation) (index : Nat) (route : RouteSelection)
    (kind : LLMAdapterType) : Step StreamLocals Unit := do
  Action.modify fun s =>
    { s with routeAttempts := s.routeAttempts ++ [routeAttempt index route .success] }
  let s ← Action.get
  let content := "".intercalate s.collected
  let usage ← ofExcept
    (gateway.streamUsage request content route.deployment.modelKey)
  let response :=
    gateway.streamedResponse context content usage kind s.routeAttempts index route
  gateway.budget.settle reservation usage context
  Action.modify fun s => { s with reservationOpen := false }
  append (successRecord context route response) context
  Action.perform (Effect.observe
    { providerKey := some route.provider.providerKey
      modelKey := some response.modelKey
      status := .success })

def streamAttempt (gateway : LLMGateway) (request : LLMChatRequest) (context : LLMRequestContext)
    (reservation : BudgetReservation) (index : Nat) (route : RouteSelection) :
    Step StreamLocals Unit := do
  let kind ← ofExcept (adapterFor route)
  let answer : List String × StreamEnd ←
    Action.perform (Effect.adapterStream route request context)
  forward answer.1 answer.2
  Action.perform (Effect.recordSuccess route.deployment.id)
  gateway.settleStream request context reservation index route kind

def streamFailureRecord (gateway : LLMGateway) (context : LLMRequestContext) (index total : Nat)
    (route : RouteSelection) (yielded : Bool) (attempts : List RouteAttempt) (exc : Exc) :
    UsageRecord :=
  failureRecord context .error exc.className (gateway.render.exc exc) (some route)
    [("operation", .str "stream_chat"), ("attempt", .int index),
      ("total_candidates", .int total), ("partial_output", .bool yielded),
      ("route_attempts", .attempts attempts)]

def streamAttemptFailed (gateway : LLMGateway) (context : LLMRequestContext)
    (index total : Nat) (route : RouteSelection) (exc : Exc) : Step StreamLocals Unit := do
  Action.modify fun s => { s with lastError := some exc }
  Action.perform (Effect.recordFailure route.deployment.id exc.className)
  Action.modify fun s =>
    { s with routeAttempts := s.routeAttempts ++ [{ routeAttempt index route .error with
        errorCode := some exc.className, errorMessage := some (gateway.render.exc exc) }] }
  let s ← Action.get
  append (gateway.streamFailureRecord context index total route s.yieldedContent
    s.routeAttempts exc) context
  Action.perform (Effect.observe
    { providerKey := some route.provider.providerKey
      modelKey := some route.deployment.modelKey
      status := .error
      errorCode := some exc.className })
  if s.yieldedContent then Action.throw exc else pure ()

def streamRoutes (gateway : LLMGateway) (request : LLMChatRequest) (context : LLMRequestContext)
    (reservation : BudgetReservation) (total : Nat) :
    Nat → List RouteSelection → Step StreamLocals Unit
  | _, [] => do
    let s ← Action.get
    match s.lastError with
    | some exc => Action.throw exc
    | none => Action.throw (.http 503 (.text "No available LLM route for streaming."))
  | index, route :: rest => do
    Action.modify fun s =>
      { s with route := some route, collected := [], yieldedContent := false }
    let answered ← tryCatch
      (some <$> gateway.streamAttempt request context reservation index route)
      fun exc =>
        if exc.isHttp then Action.throw exc
        else if exc.isException then do
          gateway.streamAttemptFailed context index total route exc
          pure none
        else Action.throw exc
    match answered with
    | some done => pure done
    | none => gateway.streamRoutes request context reservation total (index + 1) rest

def streamBody (gateway : LLMGateway) (request : LLMChatRequest) (context : LLMRequestContext) :
    Step StreamLocals Unit := do
  let (decision, reservation) ← gateway.authorize request context (effectiveRequest request)
    "request: " true fun held s => { s with reservation := some held }
  let effective := effectiveRequest request decision
  Action.modify fun s => { s with reservationOpen := true }
  let routes ← gateway.plan effective decision
  gateway.streamRoutes effective context reservation routes.length 1 routes

def streamHandler (gateway : LLMGateway) (context : LLMRequestContext) (exc : Exc) :
    Step StreamLocals Unit := do
  let s ← Action.get
  if s.reservationOpen then do
    gateway.releaseHeld s.reservation context
      (if exc.isException then "stream_exception" else "stream_cancelled")
    Action.modify fun s => { s with reservationOpen := false }
  Action.throw exc

def streamChat (gateway : LLMGateway) (request : LLMChatRequest) (context : LLMRequestContext) :
    Process.Program Effect Answer (Except Exc Unit) :=
  Action.run (tryCatch (gateway.streamBody request context)
    (gateway.streamHandler context)) {}

end LLMGateway

def opensStream : Effect → Bool
  | .adapterStream _ _ _ => true
  | _ => false

theorem opensNone_of_bookkeeping {t : Trace} (steps : ∀ e ∈ t, isBookkeeping e.1 = true) :
    ∀ e ∈ t, opensStream e.1 = false := by
  intro e mem
  obtain ⟨effect, answer⟩ := e
  have step := steps _ mem
  cases effect <;> first | rfl | cases step

theorem GuardRun.opensNone {α : Type} {rows : List Terminal} {t : Trace} {r : Except Exc α}
    (run : GuardRun rows t r) : ∀ e ∈ t, opensStream e.1 = false :=
  opensNone_of_bookkeeping run.bookkeeping

namespace LLMGateway

open Process (Action)
open UsageCollector

inductive Forwarded : List String → StreamEnd → Trace → Except Exc Unit → Prop
  | finished : Forwarded [] .finished [] (.ok ())
  | raised {x : Exc} : Forwarded [] (.raised x) [] (.error x)
  | resumed {delta : String} {rest : List String} {finish : StreamEnd} {t : Trace}
      {r : Except Exc Unit} (more : Forwarded rest finish t r) :
      Forwarded (delta :: rest) finish (⟨.yieldDelta delta, .next⟩ :: t) r
  | cancelled {delta : String} {rest : List String} {finish : StreamEnd} :
      Forwarded (delta :: rest) finish [⟨.yieldDelta delta, .cancelled⟩] (.error .cancelled)
  | closed {delta : String} {rest : List String} {finish : StreamEnd} :
      Forwarded (delta :: rest) finish [⟨.yieldDelta delta, .generatorExit⟩]
        (.error .generatorExit)

theorem forward_run (deltas : List String) (finish : StreamEnd) (s : StreamLocals) :
    (forward deltas finish).wp s fun t r s' =>
      Forwarded deltas finish t r ∧
        ∃ collected yielded, s' = { s with collected := collected, yieldedContent := yielded } ∧
          (r = .ok () → collected = s.collected ++ deltas) := by
  induction deltas generalizing s with
  | nil =>
    cases finish with
    | finished => exact ⟨.finished, _, _, rfl, by simp⟩
    | raised x => exact ⟨.raised, _, _, rfl, by simp⟩
  | cons delta rest ih =>
    simp only [forward, wp_bind, wp_modify, wp_perform, nil_append]
    intro resume
    cases resume with
    | next =>
      refine wp_mono (ih _) ?_
      intro t r s' h
      obtain ⟨more, collected, yielded, rfl, all⟩ := h
      refine ⟨.resumed more, _, _, rfl, ?_⟩
      intro done
      simp [all done]
    | cancelled => exact ⟨.cancelled, _, _, rfl, by simp⟩
    | generatorExit => exact ⟨.closed, _, _, rfl, by simp⟩

section Shapes

variable (gateway : LLMGateway) (request : LLMChatRequest) (context : LLMRequestContext)
  (reservation : BudgetReservation)

inductive StreamSettled (route : RouteSelection) (content : String) :
    Trace → Except Exc Unit → Bool → Prop
  | unpriced {x : Exc}
      (failed : gateway.streamUsage request content route.deployment.modelKey = .error x) :
      StreamSettled route content [] (.error x) false
  | unsettled {usage : LLMUsageMetrics} {t : Trace} {x : Exc}
      (priced : gateway.streamUsage request content route.deployment.modelKey = .ok usage)
      (run : GuardRun (gateway.budget.closing .settle reservation) t
        (.error x : Except Exc Unit)) :
      StreamSettled route content t (.error x) false
  | uncommitted {usage : LLMUsageMetrics} {t : Trace} {f : Fault} {response : LLMResponse}
      (priced : gateway.streamUsage request content route.deployment.modelKey = .ok usage)
      (run : GuardRun (gateway.budget.closing .settle reservation) t (.ok () : Except Exc Unit)) :
      StreamSettled route content
        (t ++ [⟨.recordUsage (successRecord context route response) context, .error f⟩])
        (.error f.toExc) true
  | committed {usage : LLMUsageMetrics} {t : Trace} {call : ObservedCall}
      {response : LLMResponse}
      (priced : gateway.streamUsage request content route.deployment.modelKey = .ok usage)
      (run : GuardRun (gateway.budget.closing .settle reservation) t (.ok () : Except Exc Unit)) :
      StreamSettled route content
        (t ++ [⟨.recordUsage (successRecord context route response) context, .ok ()⟩,
          ⟨.observe call, ()⟩])
        (.ok ()) true

inductive StreamAttempt (route : RouteSelection) : Trace → Except Exc Unit → Bool → Prop
  | unsupported {x : Exc} (failed : adapterFor route = .error x) :
      StreamAttempt route [] (.error x) false
  | broken {deltas : List String} {finish : StreamEnd} {t : Trace} {x : Exc}
      (forwarded : Forwarded deltas finish t (.error x)) :
      StreamAttempt route (⟨.adapterStream route request context, (deltas, finish)⟩ :: t)
        (.error x) false
  | completed {deltas : List String} {finish : StreamEnd} {t u : Trace} {r : Except Exc Unit}
      {closed : Bool} (forwarded : Forwarded deltas finish t (.ok ()))
      (settled : StreamSettled gateway request context reservation route
        ("".intercalate deltas) u r closed) :
      StreamAttempt route
        (⟨.adapterStream route request context, (deltas, finish)⟩ ::
          (t ++ ⟨.recordSuccess route.deployment.id, ()⟩ :: u)) r closed

def IsStreamFailureRow (record : UsageRecord) : Prop :=
  record.requestId = context.requestId ∧ record.status ≠ .success

inductive StreamFailed (route : RouteSelection) (x : Exc) : Trace → Except Exc Unit → Prop
  | uncommitted {record : UsageRecord} {f : Fault} (row : IsStreamFailureRow context record) :
      StreamFailed route x
        [⟨.recordFailure route.deployment.id x.className, ()⟩,
          ⟨.recordUsage record context, .error f⟩]
        (.error f.toExc)
  | fellBack {record : UsageRecord} {call : ObservedCall}
      (row : IsStreamFailureRow context record) :
      StreamFailed route x
        [⟨.recordFailure route.deployment.id x.className, ()⟩,
          ⟨.recordUsage record context, .ok ()⟩, ⟨.observe call, ()⟩]
        (.ok ())
  | yielded {record : UsageRecord} {call : ObservedCall}
      (row : IsStreamFailureRow context record) :
      StreamFailed route x
        [⟨.recordFailure route.deployment.id x.className, ()⟩,
          ⟨.recordUsage record context, .ok ()⟩, ⟨.observe call, ()⟩]
        (.error x)

inductive StreamLoop : List RouteSelection → Bool → Trace → Except Exc Unit → Bool → Prop
  | exhausted {open_ : Bool} {x : Exc} (ordinary : x.isException = true) :
      StreamLoop [] open_ [] (.error x) open_
  | answered {route : RouteSelection} {rest : List RouteSelection} {open_ closed : Bool}
      {t : Trace}
      (attempt : StreamAttempt gateway request context reservation route t (.ok ()) closed) :
      StreamLoop (route :: rest) open_ t (.ok ()) (open_ && !closed)
  | escaped {route : RouteSelection} {rest : List RouteSelection} {open_ closed : Bool}
      {t : Trace} {x : Exc}
      (attempt : StreamAttempt gateway request context reservation route t (.error x) closed)
      (uncaught : x.isHttp = true ∨ x.isException = false) :
      StreamLoop (route :: rest) open_ t (.error x) (open_ && !closed)
  | failed {route : RouteSelection} {rest : List RouteSelection} {open_ closed : Bool}
      {t u : Trace} {x y : Exc}
      (attempt : StreamAttempt gateway request context reservation route t (.error x) closed)
      (ordinary : x.isException = true) (plain : x.isHttp = false)
      (handled : StreamFailed context route x u (.error y)) :
      StreamLoop (route :: rest) open_ (t ++ u) (.error y) (open_ && !closed)
  | next {route : RouteSelection} {rest : List RouteSelection} {open_ closed left : Bool}
      {t u v : Trace} {x : Exc} {r : Except Exc Unit}
      (attempt : StreamAttempt gateway request context reservation route t (.error x) closed)
      (ordinary : x.isException = true) (plain : x.isHttp = false)
      (handled : StreamFailed context route x u (.ok ()))
      (loop : StreamLoop rest (open_ && !closed) v r left) :
      StreamLoop (route :: rest) open_ (t ++ u ++ v) r left

end Shapes

variable {gateway : LLMGateway} {request : LLMChatRequest} {context : LLMRequestContext}
  {reservation : BudgetReservation}

theorem settleStream_run (index : Nat) (route : RouteSelection) (kind : LLMAdapterType)
    (s : StreamLocals) :
    (gateway.settleStream request context reservation index route kind).wp s fun t r s' =>
      ∃ closed, StreamSettled gateway request context reservation route
          ("".intercalate s.collected) t r closed ∧
        s'.reservation = s.reservation ∧ s'.reservationOpen = (s.reservationOpen && !closed) ∧
        s'.lastError = s.lastError := by
  simp only [settleStream, wp_bind, wp_modify, wp_get, wp_ofExcept]
  cases priced : gateway.streamUsage request ("".intercalate s.collected)
      route.deployment.modelKey with
  | error x => exact ⟨false, .unpriced priced, by simp⟩
  | ok usage =>
    simp only [nil_append]
    refine wp_mono (gateway.budget.settle_guarded reservation _ context _) ?_
    intro t r s' h
    obtain ⟨rfl, run⟩ := h
    cases r with
    | error x => exact ⟨false, .unsettled priced run, by simp⟩
    | ok u =>
      simp only [append_wp, wp_perform]
      refine ⟨fun call => ⟨true, .committed priced run, by simp⟩, ?_⟩
      intro f
      exact ⟨true, .uncommitted priced run, by simp⟩

theorem streamAttempt_run (index : Nat) (route : RouteSelection) (s : StreamLocals)
    (fresh : s.collected = []) :
    (gateway.streamAttempt request context reservation index route).wp s fun t r s' =>
      ∃ closed, StreamAttempt gateway request context reservation route t r closed ∧
        s'.reservation = s.reservation ∧ s'.reservationOpen = (s.reservationOpen && !closed) ∧
        s'.lastError = s.lastError := by
  simp only [streamAttempt, wp_bind, wp_perform, wp_ofExcept]
  cases supported : adapterFor route with
  | error x => exact ⟨false, .unsupported supported, by simp⟩
  | ok kind =>
    intro answer
    obtain ⟨deltas, finish⟩ := answer
    simp only [nil_append]
    refine wp_mono (forward_run deltas finish s) ?_
    intro t r s' h
    obtain ⟨forwarded, collected, yielded, rfl, all⟩ := h
    cases r with
    | error x => exact ⟨false, .broken forwarded, by simp⟩
    | ok a =>
      intro u
      refine wp_mono (settleStream_run index route kind _) ?_
      intro u r s' h
      obtain ⟨closed, settled, rest⟩ := h
      have content : collected = deltas := by simp [all rfl, fresh]
      subst content
      exact ⟨closed, .completed forwarded settled, rest⟩

theorem streamFailureRecord_row (index total : Nat) (route : RouteSelection) (yielded : Bool)
    (attempts : List RouteAttempt) (exc : Exc) :
    IsStreamFailureRow context
      (gateway.streamFailureRecord context index total route yielded attempts exc) := by
  refine ⟨rfl, ?_⟩
  intro same
  cases same

theorem streamAttemptFailed_run (index total : Nat) (route : RouteSelection) (x : Exc)
    (s : StreamLocals) :
    (gateway.streamAttemptFailed context index total route x).wp s fun t r s' =>
      StreamFailed context route x t r ∧ s'.reservation = s.reservation ∧
        s'.reservationOpen = s.reservationOpen ∧ s'.lastError = some x := by
  simp only [streamAttemptFailed, wp_bind, wp_modify, wp_perform,
    wp_get, append_wp, nil_append]
  intro u
  refine ⟨?_, ?_⟩
  · intro call
    cases yielded : s.yieldedContent with
    | true => exact ⟨.yielded (streamFailureRecord_row ..), by simp⟩
    | false => exact ⟨.fellBack (streamFailureRecord_row ..), by simp⟩
  · intro f
    exact ⟨.uncommitted (streamFailureRecord_row ..), by simp⟩

theorem streamRoutes_run (total : Nat) (routes : List RouteSelection) (index : Nat)
    (s : StreamLocals) (ordinary : ∀ x, s.lastError = some x → x.isException = true) :
    (gateway.streamRoutes request context reservation total index routes).wp s fun t r s' =>
      StreamLoop gateway request context reservation routes s.reservationOpen t r
          s'.reservationOpen ∧
        s'.reservation = s.reservation := by
  induction routes generalizing index s with
  | nil =>
    simp only [streamRoutes, wp_bind, wp_get]
    cases failed : s.lastError with
    | some x => exact ⟨.exhausted (ordinary x failed), rfl⟩
    | none => exact ⟨.exhausted rfl, rfl⟩
  | cons route rest ih =>
    simp only [streamRoutes, wp_bind, wp_modify, wp_tryCatch,
      Action.wp_map]
    refine wp_mono (streamAttempt_run index route _ rfl) ?_
    intro t r s' h
    obtain ⟨closed, attempt, held, left, last⟩ := h
    cases r with
    | ok done =>
      simp only [wp_pure, append_nil, nil_append, left, held]
      exact ⟨.answered attempt, trivial⟩
    | error x =>
      simp only [wp_ite]
      split
      · rename_i http
        simp only [wp_throw, append_nil, nil_append, left, held]
        exact ⟨.escaped attempt (.inl http), trivial⟩
      · rename_i plain
        simp only [Bool.not_eq_true] at plain
        split
        · rename_i caught
          simp only [wp_bind]
          refine wp_mono (streamAttemptFailed_run index total route x s') ?_
          intro u r s'' h
          obtain ⟨handled, held', left', last'⟩ := h
          cases r with
          | error y =>
            simp only [nil_append, left', left, held', held]
            exact ⟨.failed attempt caught plain handled, trivial⟩
          | ok a =>
            simp only [wp_pure, nil_append, append_nil]
            refine wp_mono (ih (index + 1) s'' ?_) ?_
            · intro y same
              rw [last'] at same
              cases same
              exact caught
            · intro v r s''' h
              rw [left', left] at h
              exact ⟨.next attempt caught plain handled h.1,
                h.2.trans (held'.trans held)⟩
        · rename_i base
          simp only [wp_throw, append_nil, nil_append, left, held]
          exact ⟨.escaped attempt (.inr (Bool.eq_false_iff.mpr base)), trivial⟩

variable {route : RouteSelection} {t : Trace} {closed : Bool}

theorem StreamAttempt.returned_closed
    (attempt : StreamAttempt gateway request context reservation route t (.ok ()) closed) :
    closed = true := by
  cases attempt with
  | completed forwarded settled =>
    cases settled with
    | committed => rfl

variable {routes : List RouteSelection}

theorem StreamLoop.returned_closed {open_ left : Bool}
    (loop : StreamLoop gateway request context reservation routes open_ t (.ok ()) left) :
    left = false := by
  generalize ended : (Except.ok () : Except Exc Unit) = r at loop
  induction loop with
  | exhausted | escaped | failed => cases ended
  | answered attempt => simp [attempt.returned_closed]
  | next attempt ordinary plain handled loop ih => exact ih ended

variable {deltas : List String} {finish : StreamEnd} {r : Except Exc Unit}

theorem Forwarded.yields (forwarded : Forwarded deltas finish t r) :
    ∀ e ∈ t, ∃ delta resume, e = ⟨.yieldDelta delta, resume⟩ := by
  induction forwarded with
  | finished | raised => simp
  | resumed more ih => exact forall_mem_cons.mpr ⟨⟨_, _, rfl⟩, ih⟩
  | cancelled | closed => simp

theorem Forwarded.later (forwarded : Forwarded deltas finish t r) :
    ∀ e ∈ t, isPrelude e.1 = false := by
  intro e mem
  obtain ⟨delta, resume, rfl⟩ := forwarded.yields e mem
  rfl

theorem StreamSettled.bookkeeping {content : String}
    (settled : StreamSettled gateway request context reservation route content t r closed) :
    ∀ e ∈ t, isBookkeeping e.1 = true := by
  cases settled with
  | unpriced => simp
  | unsettled _ run => exact run.bookkeeping
  | uncommitted _ run | committed _ run =>
    exact forall_mem_append.mpr ⟨run.bookkeeping, by simp [isBookkeeping]⟩

theorem StreamAttempt.later
    (attempt : StreamAttempt gateway request context reservation route t r closed) :
    ∀ e ∈ t, isPrelude e.1 = false := by
  cases attempt with
  | unsupported => simp
  | broken forwarded => exact forall_mem_cons.mpr ⟨rfl, forwarded.later⟩
  | completed forwarded settled =>
    refine forall_mem_cons.mpr ⟨rfl, forall_mem_append.mpr ⟨forwarded.later, ?_⟩⟩
    exact forall_mem_cons.mpr ⟨rfl, not_prelude_of_bookkeeping settled.bookkeeping⟩

theorem StreamLoop.later {open_ left : Bool}
    (loop : StreamLoop gateway request context reservation routes open_ t r left) :
    ∀ e ∈ t, isPrelude e.1 = false := by
  induction loop with
  | exhausted => simp
  | answered attempt => exact attempt.later
  | escaped attempt => exact attempt.later
  | failed attempt ordinary plain handled =>
    refine forall_mem_append.mpr ⟨attempt.later, ?_⟩
    cases handled <;> simp [isPrelude]
  | next attempt ordinary plain handled loop ih =>
    refine forall_mem_append.mpr ⟨forall_mem_append.mpr ⟨attempt.later, ?_⟩, ih⟩
    cases handled with
    | fellBack => simp [isPrelude]

inductive StreamBody (gateway : LLMGateway) (request : LLMChatRequest)
    (context : LLMRequestContext) :
    Trace → Except Exc Unit → Option BudgetReservation → Bool → Prop
  | stopped {t : Trace} {x : Exc} {held : Option BudgetReservation}
      (authorized : Authorized gateway request context (effectiveRequest request) t (.error x)
        held) :
      StreamBody gateway request context t (.error x) held false
  | unplanned {t u : Trace} {decision : PolicyDecision} {reservation : BudgetReservation}
      {x : Exc}
      (authorized : Authorized gateway request context (effectiveRequest request) t
        (.ok (decision, reservation)) (some reservation))
      (planned : Planned gateway.router u (.error x)) :
      StreamBody gateway request context (t ++ u) (.error x) (some reservation) true
  | looped {t u v : Trace} {decision : PolicyDecision} {reservation : BudgetReservation}
      {routes : List RouteSelection} {r : Except Exc Unit} {left : Bool}
      (authorized : Authorized gateway request context (effectiveRequest request) t
        (.ok (decision, reservation)) (some reservation))
      (planned : Planned gateway.router u (.ok routes))
      (loop : StreamLoop gateway (effectiveRequest request decision) context reservation routes
        true v r left) :
      StreamBody gateway request context (t ++ u ++ v) r (some reservation) left

theorem streamBody_run (gateway : LLMGateway) (request : LLMChatRequest)
    (context : LLMRequestContext) :
    (gateway.streamBody request context).wp {} fun t r s' =>
      StreamBody gateway request context t r s'.reservation s'.reservationOpen := by
  simp only [streamBody, wp_bind]
  refine wp_mono (authorize_run gateway request context _ _ _ _ _) ?_
  intro t r s' h
  obtain ⟨held, authorized, rfl⟩ := h
  cases r with
  | error x =>
    cases held with
    | none => exact .stopped authorized
    | some reservation => exact .stopped authorized
  | ok given =>
    obtain ⟨decision, reservation⟩ := given
    obtain ⟨_, _, rfl⟩ := authorized.prelude
    simp only [wp_modify, Option.elim_some, nil_append]
    refine wp_mono (plan_run gateway _ decision _) ?_
    intro u r s' h
    obtain ⟨rfl, planned⟩ := h
    cases r with
    | error x => exact .unplanned authorized planned
    | ok routes =>
      refine wp_mono (streamRoutes_run routes.length routes 1 _ (by simp)) ?_
      intro v r s' h
      obtain ⟨loop, held⟩ := h
      rw [held, ← append_assoc]
      exact .looped authorized planned loop

inductive StreamHandled (gateway : LLMGateway) (held : Option BudgetReservation) (x : Exc) :
    Bool → Trace → Exc → Prop
  | closed : StreamHandled gateway held x false [] x
  | unreleased {u : Trace} {y : Exc}
      (run : HeldRun gateway held u (.error y)) :
      StreamHandled gateway held x true u y
  | released {u : Trace}
      (run : HeldRun gateway held u (.ok ())) :
      StreamHandled gateway held x true u x

theorem StreamHandled.bookkeeping {held : Option BudgetReservation} {x y : Exc} {left : Bool}
    (handled : StreamHandled gateway held x left t y) : ∀ e ∈ t, isBookkeeping e.1 = true := by
  cases handled with
  | closed => simp
  | unreleased run | released run => exact run.guarded.bookkeeping

theorem streamHandler_run (gateway : LLMGateway) (context : LLMRequestContext) (x : Exc)
    (s : StreamLocals) :
    (gateway.streamHandler context x).wp s fun t r _ =>
      ∃ y, r = .error y ∧ StreamHandled gateway s.reservation x s.reservationOpen t y := by
  simp only [streamHandler, wp_bind, wp_get, wp_ite, nil_append]
  split
  · rename_i left
    rw [left]
    refine wp_mono (gateway.releaseHeld_run _ context _ _) ?_
    intro u r s' h
    obtain ⟨rfl, run⟩ := h
    cases r with
    | error y => exact ⟨y, rfl, .unreleased run⟩
    | ok a =>
      simp only [wp_modify, wp_throw, append_nil]
      exact ⟨x, rfl, .released run⟩
  · rename_i done
    rw [Bool.eq_false_iff.mpr done]
    exact ⟨x, rfl, .closed⟩

inductive StreamRun (gateway : LLMGateway) (request : LLMChatRequest)
    (context : LLMRequestContext) : Trace → Except Exc Unit → Prop
  | returned {t : Trace} {held : Option BudgetReservation} {left : Bool}
      (body : StreamBody gateway request context t (.ok ()) held left) :
      StreamRun gateway request context t (.ok ())
  | raised {t u : Trace} {x y : Exc} {held : Option BudgetReservation} {left : Bool}
      (body : StreamBody gateway request context t (.error x) held left)
      (handler : StreamHandled gateway held x left u y) :
      StreamRun gateway request context (t ++ u) (.error y)

theorem stream_run {gateway : LLMGateway} {request : LLMChatRequest} {context : LLMRequestContext}
    (run : Process.Program.Runs (gateway.streamChat request context) t r) :
    StreamRun gateway request context t r := by
  suffices every : (gateway.streamChat request context).wp (StreamRun gateway request context) from
    (Process.Program.wp_iff_runs _ _).mp every t r run
  simp only [streamChat, Action.wp_run, wp_tryCatch]
  refine wp_mono (streamBody_run gateway request context) ?_
  intro t r s body
  cases r with
  | ok done => exact .returned body
  | error x =>
    refine wp_mono (streamHandler_run gateway context x s) ?_
    intro u r s' h
    obtain ⟨y, rfl, handler⟩ := h
    exact .raised body handler

structure CompletedStream where
  route : RouteSelection
  request : LLMChatRequest
  deltas : List String
deriving DecidableEq

def isPriced (gateway : LLMGateway) (stream : CompletedStream) : Bool :=
  (gateway.streamUsage stream.request ("".intercalate stream.deltas)
    stream.route.deployment.modelKey).isOk

def takesAll : List String → Trace → Bool
  | [], _ => true
  | delta :: rest, ⟨.yieldDelta given, .next⟩ :: t => given == delta && takesAll rest t
  | _ :: _, _ => false

def completedStreams : Trace → List CompletedStream
  | [] => []
  | ⟨.adapterStream route request _, (deltas, .finished)⟩ :: t =>
    if takesAll deltas t then ⟨route, request, deltas⟩ :: completedStreams t
    else completedStreams t
  | _ :: t => completedStreams t

theorem completedStreams_append (none : ∀ e ∈ t, opensStream e.1 = false) (u : Trace) :
    completedStreams (t ++ u) = completedStreams u := by
  induction t with
  | nil => rfl
  | cons e t ih =>
    obtain ⟨first, rest⟩ := forall_mem_cons.mp none
    obtain ⟨effect, answer⟩ := e
    cases effect <;> first | exact ih rest | cases first

theorem Forwarded.opensNone (forwarded : Forwarded deltas finish t r) :
    ∀ e ∈ t, opensStream e.1 = false := by
  intro e mem
  obtain ⟨delta, resume, rfl⟩ := forwarded.yields e mem
  rfl

theorem Forwarded.takesAll (forwarded : Forwarded deltas finish t r) (u : Trace) :
    (LLMGateway.takesAll deltas (t ++ u) = true ∧ finish = .finished) ↔ r = .ok () := by
  induction forwarded with
  | finished => simp [LLMGateway.takesAll]
  | raised => simp
  | resumed more ih => simpa [LLMGateway.takesAll] using ih
  | cancelled | closed => simp [LLMGateway.takesAll]

/-- A stream counts as completed exactly when its deltas were forwarded without
an exception. -/
theorem Forwarded.completedStreams (forwarded : Forwarded deltas finish t r)
    (route : RouteSelection) (request : LLMChatRequest) (context : LLMRequestContext) (u : Trace) :
    LLMGateway.completedStreams
        (⟨.adapterStream route request context, (deltas, finish)⟩ :: (t ++ u)) =
      (if r = .ok () then [⟨route, request, deltas⟩] else []) ++
        LLMGateway.completedStreams u := by
  have taken := forwarded.takesAll u
  have rest := completedStreams_append forwarded.opensNone u
  cases finish with
  | finished =>
    simp only [and_true] at taken
    simp only [LLMGateway.completedStreams, taken, rest]
    split <;> rfl
  | raised x =>
    have failed : r ≠ .ok () := by
      intro done
      cases (taken.mpr done).2
    simp only [LLMGateway.completedStreams, rest, failed, if_false, nil_append]

def SelfContained (t : Trace) : Prop :=
  ∀ u, completedStreams (t ++ u) = completedStreams t ++ completedStreams u

theorem completedStreams_of_opensNone (none : ∀ e ∈ t, opensStream e.1 = false) :
    completedStreams t = [] := by
  have all := completedStreams_append none []
  rwa [append_nil] at all

theorem selfContained_of_opensNone (none : ∀ e ∈ t, opensStream e.1 = false) : SelfContained t := by
  intro u
  rw [completedStreams_append none, completedStreams_of_opensNone none, nil_append]

theorem SelfContained.append {u : Trace} (first : SelfContained t) (rest : SelfContained u) :
    SelfContained (t ++ u) := by
  intro v
  rw [append_assoc, first, rest, first, append_assoc]

theorem Forwarded.selfContained {u : Trace} (forwarded : Forwarded deltas finish t r)
    (route : RouteSelection) (request : LLMChatRequest) (context : LLMRequestContext)
    (none : ∀ e ∈ u, opensStream e.1 = false) :
    SelfContained (⟨.adapterStream route request context, (deltas, finish)⟩ :: (t ++ u)) := by
  intro v
  rw [List.cons_append, append_assoc, forwarded.completedStreams,
    forwarded.completedStreams, completedStreams_append none, completedStreams_of_opensNone none,
    append_nil]

theorem StreamAttempt.selfContained
    (attempt : StreamAttempt gateway request context reservation route t r closed) :
    SelfContained t := by
  cases attempt with
  | unsupported => exact selfContained_of_opensNone (by simp)
  | broken forwarded =>
    have all := forwarded.selfContained (u := []) route request context (by simp)
    rwa [append_nil] at all
  | completed forwarded settled =>
    refine forwarded.selfContained route request context (forall_mem_cons.mpr ⟨rfl, ?_⟩)
    exact opensNone_of_bookkeeping settled.bookkeeping

theorem StreamFailed.opensNone {x : Exc} (failed : StreamFailed context route x t r) :
    ∀ e ∈ t, opensStream e.1 = false := by
  cases failed with
  | uncommitted | fellBack | yielded => simp [opensStream]

theorem StreamLoop.selfContained {open_ left : Bool}
    (loop : StreamLoop gateway request context reservation routes open_ t r left) :
    SelfContained t := by
  induction loop with
  | exhausted => exact selfContained_of_opensNone (by simp)
  | answered attempt | escaped attempt => exact attempt.selfContained
  | failed attempt ordinary plain handled =>
    exact attempt.selfContained.append (selfContained_of_opensNone handled.opensNone)
  | next attempt ordinary plain handled loop ih =>
    exact (attempt.selfContained.append (selfContained_of_opensNone handled.opensNone)).append ih

theorem opensNone_of_prelude (steps : ∀ e ∈ t, isPrelude e.1 = true) :
    ∀ e ∈ t, opensStream e.1 = false := by
  intro e mem
  obtain ⟨effect, answer⟩ := e
  have step := steps _ mem
  cases effect <;> first | rfl | cases step

end LLMGateway
end AgentHive
