import AgentHive.Llm.StreamChat

/-!
The text a consumer of `stream_chat` is handed.
-/

namespace AgentHive

open Process.Action (wp_bind wp_get wp_modify wp_mono wp_ofExcept wp_perform wp_tryCatch)
open List (append_assoc append_nil cons_append forall_mem_append forall_mem_cons nil_append)

def isMute : Effect → Bool
  | .adapterStream _ _ _ | .yieldDelta _ => false
  | _ => true

theorem mute_of_bookkeeping {t : Trace} (steps : ∀ e ∈ t, isBookkeeping e.1 = true) :
    ∀ e ∈ t, isMute e.1 = true := by
  intro e mem
  obtain ⟨effect, answer⟩ := e
  have step := steps _ mem
  cases effect <;> first | rfl | cases step

theorem mute_of_prelude {t : Trace} (steps : ∀ e ∈ t, isPrelude e.1 = true) :
    ∀ e ∈ t, isMute e.1 = true := by
  intro e mem
  obtain ⟨effect, answer⟩ := e
  have step := steps _ mem
  cases effect <;> first | rfl | cases step

namespace LLMGateway

open Process (Action)

def yieldedDeltas : Trace → List String
  | [] => []
  | ⟨.yieldDelta delta, _⟩ :: t => delta :: yieldedDeltas t
  | _ :: t => yieldedDeltas t

def yieldedFirst : Trace → List String
  | [] => []
  | ⟨.adapterStream _ _ _, _⟩ :: _ => []
  | ⟨.yieldDelta delta, _⟩ :: t => delta :: yieldedFirst t
  | _ :: t => yieldedFirst t

/-- A stream that was opened: its route, the deltas it produced, and those of
them that reached the consumer. -/
structure RouteStream where
  route : RouteSelection
  produced : List String
  yielded : List String
deriving DecidableEq

def routeStreams : Trace → List RouteStream
  | [] => []
  | ⟨.adapterStream route _ _, (deltas, _)⟩ :: t =>
    ⟨route, deltas, yieldedFirst t⟩ :: routeStreams t
  | _ :: t => routeStreams t

/-- Whether text was handed out, which `yielded_content` records. -/
def hasContent (deltas : List String) : Bool := deltas.any (· != "")

section

variable {t u : Trace}

theorem yieldedDeltas_append (t u : Trace) :
    yieldedDeltas (t ++ u) = yieldedDeltas t ++ yieldedDeltas u := by
  induction t with
  | nil => rfl
  | cons e t ih =>
    obtain ⟨effect, answer⟩ := e
    cases effect <;> simp [yieldedDeltas, ih]

theorem yieldedDeltas_mute (mute : ∀ e ∈ t, isMute e.1 = true) : yieldedDeltas t = [] := by
  induction t with
  | nil => rfl
  | cons e t ih =>
    obtain ⟨first, rest⟩ := forall_mem_cons.mp mute
    obtain ⟨effect, answer⟩ := e
    cases effect <;> first | exact ih rest | cases first

theorem yieldedFirst_append (opens : ∀ e ∈ t, opensStream e.1 = false) (u : Trace) :
    yieldedFirst (t ++ u) = yieldedDeltas t ++ yieldedFirst u := by
  induction t with
  | nil => rfl
  | cons e t ih =>
    obtain ⟨first, rest⟩ := forall_mem_cons.mp opens
    obtain ⟨effect, answer⟩ := e
    cases effect <;> first | exact congrArg _ (ih rest) | exact ih rest | cases first

theorem routeStreams_append (opens : ∀ e ∈ t, opensStream e.1 = false) (u : Trace) :
    routeStreams (t ++ u) = routeStreams u := by
  induction t with
  | nil => rfl
  | cons e t ih =>
    obtain ⟨first, rest⟩ := forall_mem_cons.mp opens
    obtain ⟨effect, answer⟩ := e
    cases effect <;> first | exact ih rest | cases first

theorem opensNone_of_mute (mute : ∀ e ∈ t, isMute e.1 = true) :
    ∀ e ∈ t, opensStream e.1 = false := by
  intro e mem
  obtain ⟨effect, answer⟩ := e
  have step := mute _ mem
  cases effect <;> first | rfl | cases step

end

inductive Unmixed : Trace → Prop
  | ended {t : Trace} (mute : ∀ e ∈ t, isMute e.1 = true) : Unmixed t
  | quiet {t u : Trace} (mute : ∀ e ∈ t, isMute e.1 = true) (rest : Unmixed u) : Unmixed (t ++ u)
  | last {route : RouteSelection} {request : LLMChatRequest} {context : LLMRequestContext}
      {produced : List String} {finish : StreamEnd} {t : Trace}
      (opens : ∀ e ∈ t, opensStream e.1 = false) (part : yieldedDeltas t <+: produced) :
      Unmixed (⟨.adapterStream route request context, (produced, finish)⟩ :: t)
  | silent {route : RouteSelection} {request : LLMChatRequest} {context : LLMRequestContext}
      {produced : List String} {finish : StreamEnd} {t u : Trace}
      (opens : ∀ e ∈ t, opensStream e.1 = false) (part : yieldedDeltas t <+: produced)
      (nothing : hasContent (yieldedDeltas t) = false) (rest : Unmixed u) :
      Unmixed (⟨.adapterStream route request context, (produced, finish)⟩ :: (t ++ u))

namespace Unmixed

variable {t u : Trace}

variable (unmixed : Unmixed t)

include unmixed

theorem append_mute (mute : ∀ e ∈ u, isMute e.1 = true) :
    Unmixed (t ++ u) := by
  induction unmixed with
  | ended first => exact .ended (forall_mem_append.mpr ⟨first, mute⟩)
  | quiet first rest ih =>
    rw [append_assoc]
    exact .quiet first ih
  | last opens part =>
    rw [cons_append]
    refine .last (forall_mem_append.mpr ⟨opens, opensNone_of_mute mute⟩) ?_
    rwa [yieldedDeltas_append, yieldedDeltas_mute mute, append_nil]
  | silent opens part nothing rest ih =>
    rw [cons_append, append_assoc]
    exact .silent opens part nothing ih

theorem yieldedFirst_eq : yieldedFirst t = [] := by
  have alone {t : Trace} (mute : ∀ e ∈ t, isMute e.1 = true) (u : Trace) :
      yieldedFirst (t ++ u) = yieldedFirst u := by
    rw [yieldedFirst_append (opensNone_of_mute mute), yieldedDeltas_mute mute, nil_append]
  induction unmixed with
  | ended mute => simpa [yieldedFirst] using alone mute []
  | quiet mute rest ih => rw [alone mute, ih]
  | last | silent => rfl

theorem yieldedDeltas_eq :
    yieldedDeltas t = (routeStreams t).flatMap RouteStream.yielded := by
  induction unmixed with
  | ended mute =>
    have none := routeStreams_append (opensNone_of_mute mute) []
    rw [append_nil] at none
    rw [yieldedDeltas_mute mute, none]
    rfl
  | quiet mute rest ih =>
    rw [yieldedDeltas_append, yieldedDeltas_mute mute,
      routeStreams_append (opensNone_of_mute mute), ih, nil_append]
  | @last route request context produced finish t opens part =>
    have first := yieldedFirst_append opens []
    have none := routeStreams_append opens []
    rw [append_nil] at first none
    simp [yieldedDeltas, routeStreams, first, none, yieldedFirst]
  | silent opens part nothing rest ih =>
    simp [yieldedDeltas, routeStreams, yieldedDeltas_append, yieldedFirst_append opens,
      routeStreams_append opens, rest.yieldedFirst_eq, ih]

theorem yielded_prefix :
    ∀ stream ∈ routeStreams t, stream.yielded <+: stream.produced := by
  induction unmixed with
  | ended mute =>
    have none := routeStreams_append (opensNone_of_mute mute) []
    rw [append_nil] at none
    simp [none, routeStreams]
  | quiet mute rest ih => rwa [routeStreams_append (opensNone_of_mute mute)]
  | @last route request context produced finish t opens part =>
    have first := yieldedFirst_append opens []
    have none := routeStreams_append opens []
    rw [append_nil] at first none
    simpa [routeStreams, first, none, yieldedFirst] using part
  | silent opens part nothing rest ih =>
    rw [routeStreams, routeStreams_append opens, yieldedFirst_append opens,
      rest.yieldedFirst_eq, append_nil]
    exact forall_mem_cons.mpr ⟨part, ih⟩

theorem content_last :
    (routeStreams t).Pairwise fun earlier _ => hasContent earlier.yielded = false := by
  induction unmixed with
  | ended mute =>
    have none := routeStreams_append (opensNone_of_mute mute) []
    rw [append_nil] at none
    rw [none]
    exact .nil
  | quiet mute rest ih => rwa [routeStreams_append (opensNone_of_mute mute)]
  | @last route request context produced finish t opens part =>
    have none := routeStreams_append opens []
    rw [append_nil] at none
    rw [routeStreams, none]
    exact List.pairwise_singleton ..
  | silent opens part nothing rest ih =>
    rw [routeStreams, routeStreams_append opens, yieldedFirst_append opens,
      rest.yieldedFirst_eq, append_nil]
    exact .cons (fun _ _ => nothing) ih

end Unmixed

section

variable {gateway : LLMGateway} {request : LLMChatRequest} {context : LLMRequestContext}
  {reservation : BudgetReservation}

theorem Forwarded.yielded_prefix {deltas : List String} {finish : StreamEnd} {t : Trace}
    {r : Except Exc Unit} (forwarded : Forwarded deltas finish t r) :
    yieldedDeltas t <+: deltas := by
  induction forwarded with
  | finished | raised => exact List.nil_prefix
  | resumed more ih => exact (List.cons_prefix_cons).mpr ⟨rfl, ih⟩
  | cancelled | closed => exact (List.cons_prefix_cons).mpr ⟨rfl, List.nil_prefix⟩

theorem forward_content (deltas : List String) (finish : StreamEnd) (s : StreamLocals) :
    (forward deltas finish).wp s fun t _ s' =>
      s'.yieldedContent = (s.yieldedContent || hasContent (yieldedDeltas t)) := by
  induction deltas generalizing s with
  | nil => cases finish <;> simp [forward, yieldedDeltas, hasContent]
  | cons delta rest ih =>
    simp only [forward, wp_bind, wp_modify, wp_perform, nil_append]
    intro resume
    cases resume with
    | next =>
      refine wp_mono (ih _) ?_
      intro t r s' flag
      simpa [yieldedDeltas, hasContent, Bool.or_assoc] using flag
    | cancelled | generatorExit => simp [yieldedDeltas, hasContent]

theorem settleStream_content (index : Nat) (route : RouteSelection) (kind : LLMAdapterType)
    (s : StreamLocals) :
    (gateway.settleStream request context reservation index route kind).wp s fun t _ s' =>
      (∀ e ∈ t, isMute e.1 = true) ∧ s'.yieldedContent = s.yieldedContent := by
  simp only [settleStream, wp_bind, wp_modify, wp_get, wp_ofExcept]
  cases gateway.streamUsage request ("".intercalate s.collected) route.deployment.modelKey with
  | error x => simp
  | ok usage =>
    simp only [nil_append]
    refine wp_mono (gateway.budget.settle_guarded reservation _ context _) ?_
    intro t r s' h
    obtain ⟨rfl, run⟩ := h
    have mute := mute_of_bookkeeping run.bookkeeping
    cases r with
    | error x => exact ⟨mute, rfl⟩
    | ok u =>
      simp only [append_wp, wp_perform]
      refine ⟨fun call => ⟨?_, trivial⟩, fun f => ⟨?_, trivial⟩⟩
      · simpa [isMute, or_imp, forall_and] using mute
      · simpa [isMute, or_imp, forall_and] using mute

inductive OneStream : Trace → Prop
  | unopened : OneStream []
  | opened {route : RouteSelection} {request : LLMChatRequest} {context : LLMRequestContext}
      {produced : List String} {finish : StreamEnd} {t : Trace}
      (opens : ∀ e ∈ t, opensStream e.1 = false) (part : yieldedDeltas t <+: produced) :
      OneStream (⟨.adapterStream route request context, (produced, finish)⟩ :: t)

theorem OneStream.unmixed {t : Trace} (one : OneStream t) : Unmixed t := by
  cases one with
  | unopened => exact .ended (by simp)
  | opened opens part => exact .last opens part

theorem OneStream.followed {t u v : Trace} (one : OneStream t)
    (nothing : hasContent (yieldedDeltas t) = false) (mute : ∀ e ∈ u, isMute e.1 = true)
    (rest : Unmixed v) : Unmixed (t ++ u ++ v) := by
  rw [append_assoc]
  cases one with
  | unopened =>
    rw [nil_append]
    exact .quiet mute rest
  | opened opens part =>
    rw [cons_append]
    exact .silent opens part nothing (.quiet mute rest)

theorem streamAttempt_content (index : Nat) (route : RouteSelection) (s : StreamLocals)
    (fresh : s.yieldedContent = false) :
    (gateway.streamAttempt request context reservation index route).wp s fun t _ s' =>
      OneStream t ∧ s'.yieldedContent = hasContent (yieldedDeltas t) := by
  simp only [streamAttempt, wp_bind, wp_perform, wp_ofExcept]
  cases supported : adapterFor route with
  | error x => exact ⟨.unopened, fresh⟩
  | ok kind =>
    intro answer
    obtain ⟨deltas, finish⟩ := answer
    simp only [nil_append]
    refine wp_mono (Action.wp_and (forward_run deltas finish s)
      (forward_content deltas finish s)) ?_
    intro t r s' h
    obtain ⟨⟨forwarded, _⟩, flag⟩ := h
    rw [fresh, Bool.false_or] at flag
    cases r with
    | error x => exact ⟨.opened forwarded.opensNone forwarded.yielded_prefix, flag⟩
    | ok a =>
      intro u
      refine wp_mono (settleStream_content index route kind _) ?_
      intro u r s' h
      obtain ⟨mute, same⟩ := h
      have after : ∀ e ∈ (⟨.recordSuccess route.deployment.id, ()⟩ : CallEvent) :: u,
          isMute e.1 = true :=
        forall_mem_cons.mpr ⟨rfl, mute⟩
      have deltas : yieldedDeltas (t ++ ⟨.recordSuccess route.deployment.id, ()⟩ :: u) =
          yieldedDeltas t := by
        rw [yieldedDeltas_append, yieldedDeltas_mute after, append_nil]
      refine ⟨.opened (t := t ++ ⟨.recordSuccess route.deployment.id, ()⟩ :: u)
        (forall_mem_append.mpr ⟨forwarded.opensNone, opensNone_of_mute after⟩) ?_, ?_⟩
      · rw [deltas]
        exact forwarded.yielded_prefix
      · rw [same, flag]
        exact congrArg hasContent deltas.symm

theorem streamAttemptFailed_content (index total : Nat) (route : RouteSelection) (x : Exc)
    (s : StreamLocals) :
    (gateway.streamAttemptFailed context index total route x).wp s fun t r _ =>
      (∀ e ∈ t, isMute e.1 = true) ∧ (r = .ok () → s.yieldedContent = false) := by
  simp only [streamAttemptFailed, wp_bind, wp_modify, wp_perform,
    wp_get, append_wp, nil_append]
  intro u
  refine ⟨?_, ?_⟩
  · intro call
    cases yielded : s.yieldedContent with
    | true => simp [isMute]
    | false => simp [isMute]
  · intro f
    simp [isMute]

theorem streamRoutes_unmixed (total : Nat) (routes : List RouteSelection) (index : Nat)
    (s : StreamLocals) :
    (gateway.streamRoutes request context reservation total index routes).wp s fun t _ _ =>
      Unmixed t := by
  induction routes generalizing index s with
  | nil =>
    simp only [streamRoutes, wp_bind, wp_get]
    cases s.lastError <;> exact .ended (by simp)
  | cons route rest ih =>
    simp only [streamRoutes, wp_bind, wp_modify, wp_tryCatch,
      Action.wp_map]
    refine wp_mono (streamAttempt_content index route _ rfl) ?_
    intro t r s' h
    obtain ⟨one, flag⟩ := h
    cases r with
    | ok done => simpa using one.unmixed
    | error x =>
      simp only [Action.wp_ite]
      split
      · simpa using one.unmixed
      · split
        · simp only [wp_bind]
          refine wp_mono (streamAttemptFailed_content index total route x s') ?_
          intro u r s'' h
          obtain ⟨mute, silent⟩ := h
          cases r with
          | error y => simpa using one.unmixed.append_mute mute
          | ok a =>
            simp only [Action.wp_pure, nil_append, append_nil]
            refine wp_mono (ih (index + 1) s'') ?_
            intro v r _ later
            exact one.followed (flag.symm.trans (silent rfl)) mute later
        · simpa using one.unmixed

theorem Authorized.mute {effective : PolicyDecision → LLMChatRequest} {t : Trace}
    {r : Except Exc (PolicyDecision × BudgetReservation)} {held : Option BudgetReservation}
    (authorized : Authorized gateway request context effective t r held) :
    ∀ e ∈ t, isMute e.1 = true := by
  cases authorized with
  | undecided evaluated => exact mute_of_prelude evaluated.prelude.1
  | denied evaluated refused refusal =>
    exact forall_mem_append.mpr
      ⟨mute_of_prelude evaluated.prelude.1, mute_of_bookkeeping refusal.bookkeeping⟩
  | unreserved evaluated allowed reserved | authorized evaluated allowed reserved =>
    exact forall_mem_append.mpr
      ⟨mute_of_prelude evaluated.prelude.1, mute_of_prelude reserved.prelude.1⟩
  | overBudget evaluated allowed reserved refused refusal =>
    exact forall_mem_append.mpr ⟨mute_of_prelude evaluated.prelude.1,
      forall_mem_append.mpr
        ⟨mute_of_prelude reserved.prelude.1, mute_of_bookkeeping refusal.bookkeeping⟩⟩

theorem streamChat_unmixed {t : Trace} {r : Except Exc Unit}
    (run : Process.Program.Runs (gateway.streamChat request context) t r) : Unmixed t := by
  suffices every : (gateway.streamChat request context).wp fun t _ => Unmixed t from
    (Process.Program.wp_iff_runs _ _).mp every t r run
  have body : (gateway.streamBody request context).wp {} fun t _ _ => Unmixed t := by
    simp only [streamBody, wp_bind]
    refine wp_mono (authorize_run gateway request context _ _ _ _ _) ?_
    intro t r s' h
    obtain ⟨held, authorized, -⟩ := h
    cases r with
    | error x => exact .ended authorized.mute
    | ok given =>
      simp only [wp_modify, nil_append]
      refine wp_mono (plan_run gateway _ given.1 _) ?_
      intro u r s' h
      have mute : ∀ e ∈ t ++ u, isMute e.1 = true :=
        forall_mem_append.mpr ⟨authorized.mute, mute_of_prelude h.2.prelude.1⟩
      cases r with
      | error x => exact .ended mute
      | ok routes =>
        refine wp_mono (streamRoutes_unmixed routes.length routes 1 s') ?_
        intro v r _ rest
        rw [← append_assoc]
        exact .quiet mute rest
  simp only [streamChat, Action.wp_run, wp_tryCatch]
  refine wp_mono body ?_
  intro t r s unmixed
  cases r with
  | ok done => exact unmixed
  | error x =>
    refine wp_mono (streamHandler_run gateway context x s) ?_
    intro u r s' h
    obtain ⟨y, rfl, handler⟩ := h
    exact unmixed.append_mute (mute_of_bookkeeping handler.bookkeeping)

theorem join_of_no_content {deltas : List String} (nothing : hasContent deltas = false) :
    String.join deltas = "" := by
  induction deltas with
  | nil => rfl
  | cons delta rest ih =>
    obtain ⟨first, others⟩ := forall_mem_cons.mp (List.any_eq_false.mp nothing)
    have empty : delta = "" := by simpa using first
    rw [String.join_cons, ih (List.any_eq_false.mpr others), empty]
    rfl

theorem join_yielded {streams : List RouteStream}
    (part : ∀ stream ∈ streams, stream.yielded <+: stream.produced)
    (last : streams.Pairwise fun earlier _ => hasContent earlier.yielded = false) :
    String.join (streams.flatMap RouteStream.yielded) = "" ∨
      ∃ stream ∈ streams, ∃ rest,
        String.join (streams.flatMap RouteStream.yielded) ++ rest = String.join stream.produced := by
  induction streams with
  | nil => exact .inl rfl
  | cons stream streams ih =>
    obtain ⟨front, others⟩ := forall_mem_cons.mp part
    obtain ⟨silent, later⟩ := List.pairwise_cons.mp last
    rw [List.flatMap_cons, String.join_append]
    cases streams with
    | nil =>
      obtain ⟨rest, produced⟩ := front
      refine .inr ⟨stream, List.mem_cons_self, String.join rest, ?_⟩
      rw [← produced, String.join_append]
      simp [String.join_nil]
    | cons next streams =>
      rw [join_of_no_content (silent next List.mem_cons_self), String.empty_append]
      refine (ih others later).imp_right ?_
      intro h
      obtain ⟨found, mem, text⟩ := h
      exact ⟨found, List.mem_cons_of_mem _ mem, text⟩

def yieldedText (t : Trace) : String := String.join (yieldedDeltas t)

/-- A stream hands out its first deltas in order, no other stream is opened
once text was handed out, and so the text is the beginning of what one route
produced. -/
structure TextOfOneRoute (t : Trace) : Prop where
  streams : yieldedDeltas t = (routeStreams t).flatMap RouteStream.yielded
  part : ∀ stream ∈ routeStreams t, stream.yielded <+: stream.produced
  last : (routeStreams t).Pairwise fun earlier _ => hasContent earlier.yielded = false
  text : yieldedText t = "" ∨ ∃ stream ∈ routeStreams t, ∃ rest,
    yieldedText t ++ rest = String.join stream.produced

theorem streamed_text_of_one_route {t : Trace} {r : Except Exc Unit}
    (run : Process.Program.Runs (gateway.streamChat request context) t r) : TextOfOneRoute t := by
  have unmixed := streamChat_unmixed run
  refine ⟨unmixed.yieldedDeltas_eq, unmixed.yielded_prefix, unmixed.content_last, ?_⟩
  rw [yieldedText, unmixed.yieldedDeltas_eq]
  exact join_yielded unmixed.yielded_prefix unmixed.content_last

end

def brokenOff : (e : Effect) → Answer e
  | .adapterStream _ _ _ => (["", "he"], .raised (.other "TimeoutError" "timed out"))
  | e => quiet e

def brokenRun : Trace :=
  ((twoRouteGateway.streamChat helloRequest tenantContext).follow brokenOff).1

theorem broken_stream_is_not_continued :
    (routeStreams brokenRun).map RouteStream.yielded = [["", "he"]] ∧ TextOfOneRoute brokenRun :=
  ⟨by decide +kernel, streamed_text_of_one_route (Process.Program.follow_runs brokenOff _)⟩

end LLMGateway
end AgentHive
