import AgentHive.Llm.ChatRuns
import AgentHive.Llm.ConnectionRuns
import AgentHive.Llm.StreamChat

/-!
The usage records a call leaves when the usage storage works.
-/

namespace AgentHive

open List (append_nil filterMap_append filterMap_eq_nil_iff forall_mem_append forall_mem_cons
  mem_cons_of_mem mem_cons_self)

def storedRecord : CallEvent → Option UsageRecord
  | ⟨.recordUsage record _, .ok ()⟩ => some record
  | _ => none

def usageRecords (t : Trace) : List UsageRecord := t.filterMap storedRecord

@[simp] theorem usageRecords_nil : usageRecords [] = [] := rfl

@[simp] theorem usageRecords_append (t u : Trace) :
    usageRecords (t ++ u) = usageRecords t ++ usageRecords u :=
  filterMap_append ..

@[simp] theorem usageRecords_cons (e : CallEvent) (t : Trace) :
    usageRecords (e :: t) = (storedRecord e).toList ++ usageRecords t := by
  cases h : storedRecord e <;> simp [usageRecords, h]

def isUsageFault : CallEvent → Bool
  | ⟨.recordUsage _ _, .error _⟩ => true
  | _ => false

def UsageStored (t : Trace) : Prop := ∀ e ∈ t, isUsageFault e = false

variable {t : Trace}

theorem usageStored_append {u : Trace} : UsageStored (t ++ u) ↔ UsageStored t ∧ UsageStored u :=
  forall_mem_append

theorem UsageStored.before {u : Trace} (stored : UsageStored (t ++ u)) : UsageStored t :=
  (usageStored_append.mp stored).1

theorem UsageStored.after {u : Trace} (stored : UsageStored (t ++ u)) : UsageStored u :=
  (usageStored_append.mp stored).2

variable {context : LLMRequestContext}

theorem not_usageStored {record : UsageRecord} {f : Fault}
    (mem : (⟨.recordUsage record context, .error f⟩ : CallEvent) ∈ t) (stored : UsageStored t) :
    False := by
  cases stored _ mem

def Finished {α : Type} : Except Exc α → Prop
  | .ok _ => True
  | .error x => x.isException = true

def Recorded (context : LLMRequestContext) (t : Trace) : Prop :=
  ∃ record ∈ usageRecords t, record.requestId = context.requestId

def successes (t : Trace) : Nat :=
  (usageRecords t).countP fun record => record.status == .success

def successesDue {α : Type} : Except Exc α → Nat
  | .ok _ => 1
  | .error _ => 0

structure Rows (context : LLMRequestContext) (t : Trace) (count : Nat) : Prop where
  own : ∀ record ∈ usageRecords t, record.requestId = context.requestId
  count : successes t = count

namespace Rows

variable {context : LLMRequestContext} {t u : Trace} {m n : Nat}

theorem nothing (none : usageRecords t = []) : Rows context t 0 :=
  ⟨by simp [none], by simp [successes, none]⟩

theorem append (first : Rows context t m) (rest : Rows context u n) :
    Rows context (t ++ u) (m + n) := by
  refine ⟨?_, ?_⟩
  · intro record mem
    rw [usageRecords_append] at mem
    exact (List.mem_append.mp mem).elim (first.own record) (rest.own record)
  · rw [successes, usageRecords_append, List.countP_append]
    exact congrArg₂ _ first.count rest.count

theorem recorded (rows : Rows context t m) (some_ : usageRecords t ≠ []) : Recorded context t := by
  obtain ⟨record, mem⟩ := List.exists_mem_of_ne_nil _ some_
  exact ⟨record, mem, rows.own record mem⟩

theorem failure {record : UsageRecord} (only : usageRecords t = [record])
    (own : record.requestId = context.requestId) (failed : record.status ≠ .success) :
    Rows context t 0 ∧ Recorded context t := by
  have rows : Rows context t 0 := ⟨by simp [only, own], by simp [successes, only, failed]⟩
  exact ⟨rows, rows.recorded (by simp [only])⟩

end Rows

theorem Recorded.of_append_left (recorded : Recorded context t) (u : Trace) :
    Recorded context (t ++ u) := by
  obtain ⟨record, mem, own⟩ := recorded
  exact ⟨record, by simp [mem], own⟩

theorem Recorded.of_append_right {u : Trace} (recorded : Recorded context u) (t : Trace) :
    Recorded context (t ++ u) := by
  obtain ⟨record, mem, own⟩ := recorded
  exact ⟨record, by simp [mem], own⟩

theorem not_recorded (none : usageRecords t = []) : ¬ Recorded context t := by
  intro recorded
  obtain ⟨record, mem, _⟩ := recorded
  rw [none] at mem
  cases mem

theorem recorded_append {u : Trace} (none : usageRecords t = []) :
    Recorded context (t ++ u) ↔ Recorded context u := by
  simp [Recorded, none]

theorem usageRecords_prelude (steps : ∀ e ∈ t, isPrelude e.1 = true) : usageRecords t = [] := by
  refine filterMap_eq_nil_iff.mpr ?_
  intro e mem
  obtain ⟨effect, answer⟩ := e
  have step := steps _ mem
  cases effect <;> first | rfl | cases step

theorem GuardRun.no_records {α : Type} {rows : List Terminal} {r : Except Exc α}
    (run : GuardRun rows t r) : usageRecords t = [] := by
  refine filterMap_eq_nil_iff.mpr ?_
  intro e mem
  obtain ⟨effect, answer⟩ := e
  have step := run.steps _ mem
  cases effect <;> first | rfl | cases step

theorem observed_no_records (calls : List ObservedCall) :
    usageRecords (calls.map fun call => ⟨.observe call, ()⟩) = [] := by
  simp [usageRecords, filterMap_eq_nil_iff, storedRecord]

namespace LLMGateway

open UsageCollector

section

variable {gateway : LLMGateway} {context : LLMRequestContext} {t : Trace}

theorem Refused.rows {x : Exc} (refused : Refused context t x) (stored : UsageStored t) :
    Rows context t 0 ∧ Recorded context t ∧ x.isHttp = true := by
  cases refused with
  | uncommitted => exact (not_usageStored mem_cons_self stored).elim
  | refused calls own failure http =>
    have only := observed_no_records calls
    exact and_assoc.mp ⟨Rows.failure (by simp [storedRecord, only]) own failure, http⟩

variable {held : Option BudgetReservation}

/-- Where a call stopped before the routing, it was refused and has its record,
or it failed without one. -/
theorem Authorized.rows {request : LLMChatRequest} {effective : PolicyDecision → LLMChatRequest}
    {x : Exc} (authorized : Authorized gateway request context effective t (.error x) held)
    (stored : UsageStored t) :
    Rows context t 0 ∧ (∀ reservation, held = some reservation → reservation.approved = false) ∧
      (Recorded context t ∧ x.isHttp = true ∨ usageRecords t = [] ∧ x.isHttp = false) := by
  cases authorized with
  | undecided evaluated =>
    have none := usageRecords_prelude evaluated.prelude.1
    refine ⟨.nothing none, by simp, .inr ⟨none, ?_⟩⟩
    cases evaluated with
    | unresolved => exact Fault.toExc_isHttp _
  | denied evaluated refused refusal =>
    obtain ⟨rows, recorded, http⟩ := refusal.rows stored.after
    have none := usageRecords_prelude evaluated.prelude.1
    exact ⟨Rows.append (.nothing none) rows, by simp, .inl ⟨recorded.of_append_right _, http⟩⟩
  | unreserved evaluated allowed reserved =>
    have none := usageRecords_prelude
      (forall_mem_append.mpr ⟨evaluated.prelude.1, reserved.prelude.1⟩)
    refine ⟨.nothing none, by simp, .inr ⟨none, ?_⟩⟩
    cases reserved with
    | unpriced failed => exact (calculate_error failed).2
    | faulted => exact Fault.toExc_isHttp _
  | overBudget evaluated allowed reserved refused refusal =>
    obtain ⟨rows, recorded, http⟩ := refusal.rows stored.after.after
    have none := usageRecords_prelude evaluated.prelude.1
    have none' := usageRecords_prelude reserved.prelude.1
    refine ⟨Rows.append (.nothing none) (Rows.append (.nothing none') rows), ?_,
      .inl ⟨(recorded.of_append_right _).of_append_right _, http⟩⟩
    intro other same
    cases same
    exact refused

variable {r : Except Exc Unit} {recorded : Bool}

theorem AttemptFailed.rows {operation : String} {reservation : BudgetReservation}
    {route : RouteSelection} {x : Exc} {stop : Bool}
    (failed : AttemptFailed gateway context operation reservation route x stop t r held recorded)
    (stored : UsageStored t) : Rows context t 0 ∧ Recorded context t := by
  cases failed with
  | uncommitted =>
    exact (not_usageStored (mem_cons_of_mem _ mem_cons_self) stored).elim
  | fellBack row => exact Rows.failure (by simp [storedRecord]) row.1 row.2.1
  | unreleased row end_ run | released row end_ run =>
    exact Rows.failure (by simp [storedRecord, run.no_records]) row.1 row.2.1

variable {kind : UsageRecord → Prop}

theorem RowUnless.rows (row : RowUnless recorded kind context t r)
    (failure : ∀ record, kind record →
      record.requestId = context.requestId ∧ record.status ≠ .success) (stored : UsageStored t) :
    Rows context t 0 ∧ r = .ok () ∧ (recorded = false → Recorded context t) := by
  cases row with
  | skipped done => exact ⟨.nothing rfl, rfl, by simp [done]⟩
  | written due row =>
    cases row with
    | @stored record row =>
      obtain ⟨own, failed⟩ := failure record row
      have both : Rows context [⟨.recordUsage record context, .ok ()⟩] 0 ∧
          Recorded context [⟨.recordUsage record context, .ok ()⟩] :=
        Rows.failure (by simp [storedRecord]) own failed
      exact ⟨both.1, rfl, fun _ => both.2⟩
    | lost row => exact (not_usageStored mem_cons_self stored).elim

theorem HeldRun.unapproved (run : HeldRun gateway held t r)
    (refused : ∀ reservation, held = some reservation → reservation.approved = false) :
    t = [] ∧ r = .ok () := by
  cases run with
  | idle => exact ⟨rfl, rfl⟩
  | released held_ approved run =>
    rw [refused _ held_] at approved
    cases approved

theorem RowUnless.raisedBy (row : RowUnless recorded kind context t r) :
    ∀ e ∈ t, raisedBy e = none := by
  cases row with
  | skipped => simp
  | written due row => cases row <;> simp [AgentHive.raisedBy]

variable {operation : String} {held : Option BudgetReservation} {reserved recorded : Bool}
  {x y : Exc} {t : Trace}

theorem IsOperationRow.failure (record : UsageRecord)
    (row : IsOperationRow operation context record) :
    record.requestId = context.requestId ∧ record.status ≠ .success :=
  ⟨row.1, row.2.1⟩

theorem IsPlainRow.failure (record : UsageRecord) (row : IsPlainRow context record) :
    record.requestId = context.requestId ∧ record.status ≠ .success :=
  ⟨row.1, row.2.1⟩

theorem Handled.rows (handled : Handled gateway context operation held reserved recorded x t y)
    (stored : UsageStored t) : Rows context t 0 := by
  cases handled with
  | passed => exact .nothing rfl
  | httpLost http row => exact (row.rows IsOperationRow.failure stored).1
  | httpUnreleased http row run =>
    exact (row.rows IsOperationRow.failure stored.before).1.append (.nothing run.guarded.no_records)
  | http calls http row run =>
    refine (row.rows IsOperationRow.failure stored.before).1.append (.nothing ?_)
    rw [usageRecords_append, run.guarded.no_records, observed_no_records, append_nil]
  | unreleased ordinary plain run => exact .nothing run.guarded.no_records
  | lost ordinary plain run row =>
    exact (Rows.nothing run.guarded.no_records).append (row.rows IsPlainRow.failure stored.after).1
  | handled calls ordinary plain run row =>
    refine Rows.append (m := 0) (n := 0) (.nothing run.guarded.no_records) ?_
    exact (row.rows IsPlainRow.failure stored.after.before).1.append
      (.nothing (observed_no_records calls))

theorem Handled.base (handled : Handled gateway context operation held reserved recorded x t y)
    (base : x.isException = false) : y = x := by
  cases handled with
  | passed => rfl
  | httpLost http | httpUnreleased http | http _ http =>
    exact absurd (isException_of_isHttp http) (by simp [base])
  | unreleased ordinary | lost ordinary | handled _ ordinary =>
    exact absurd ordinary (by simp [base])

theorem Handled.http_recorded (handled : Handled gateway context operation held true false x t y)
    (http : x.isHttp = true) (stored : UsageStored t) : Recorded context t := by
  cases handled with
  | passed base =>
    rw [isException_of_isHttp http] at base
    cases base
  | httpLost _ row => exact (row.rows IsOperationRow.failure stored).2.2 rfl
  | httpUnreleased _ row run | http _ _ row run =>
    exact ((row.rows IsOperationRow.failure stored.before).2.2 rfl).of_append_left _
  | unreleased _ plain | lost _ plain | handled _ _ plain =>
    rw [http] at plain
    cases plain

theorem Handled.plain_recorded_iff
    (handled : Handled gateway context operation held reserved false x t y)
    (ordinary : x.isException = true) (plain : x.isHttp = false) (stored : UsageStored t) :
    Recorded context t ↔ ∀ e ∈ t, raisedBy e = none := by
  cases handled with
  | passed base =>
    rw [ordinary] at base
    cases base
  | httpLost http | httpUnreleased http | http _ http =>
    rw [http] at plain
    cases plain
  | unreleased _ _ run =>
    refine iff_of_false (not_recorded run.guarded.no_records) ?_
    intro none
    obtain ⟨e, mem, f, raised, _⟩ := (run.guarded.raises _).mp rfl
    rw [none e mem] at raised
    cases raised
  | lost _ _ run row =>
    cases (row.rows IsPlainRow.failure stored.after).2.1
  | handled calls _ _ run row =>
    refine iff_of_true ?_ ?_
    · refine Recorded.of_append_right ?_ _
      exact ((row.rows IsPlainRow.failure stored.after.before).2.2 rfl).of_append_left _
    · refine forall_mem_append.mpr ⟨run.guarded.not_returned, ?_⟩
      exact forall_mem_append.mpr ⟨row.raisedBy, by simp +contextual [raisedBy]⟩

theorem Handled.unheld_raisedBy
    (handled : Handled gateway context operation held reserved recorded x t y)
    (refused : ∀ reservation, held = some reservation → reservation.approved = false) :
    ∀ e ∈ t, raisedBy e = none := by
  cases handled with
  | passed => simp
  | httpLost _ row => exact row.raisedBy
  | httpUnreleased _ row run => cases (run.unapproved refused).2
  | http calls _ row run =>
    refine forall_mem_append.mpr ⟨row.raisedBy, ?_⟩
    simp +contextual [(run.unapproved refused).1, raisedBy]
  | unreleased _ _ run => cases (run.unapproved refused).2
  | lost _ _ run row => simpa [(run.unapproved refused).1] using row.raisedBy
  | handled calls _ _ run row =>
    rw [(run.unapproved refused).1, List.nil_append]
    exact forall_mem_append.mpr ⟨row.raisedBy, by simp +contextual [raisedBy]⟩

end

section

variable {gateway : LLMGateway} {request : LLMChatRequest} {context : LLMRequestContext}
  {reservation : BudgetReservation} {t : Trace} {r : Except Exc LLMResponse}

theorem ChatAttempt.rows {route : RouteSelection}
    (attempt : ChatAttempt gateway request context reservation route t r) (stored : UsageStored t) :
    Rows context t (successesDue r) ∧ (∀ response, r = .ok response → Recorded context t) := by
  cases attempt with
  | unsupported | refused => exact ⟨.nothing rfl, by simp⟩
  | @answered response t r settled =>
    cases settled with
    | unpriced => exact ⟨.nothing rfl, by simp⟩
    | unsettled run => exact ⟨.nothing (by simp [storedRecord, run.no_records]), by simp⟩
    | uncommitted run =>
      cases stored _ (mem_cons_of_mem _ (mem_cons_of_mem _
        (List.mem_append_right _ mem_cons_self)))
    | @committed t call enriched run =>
      have only : usageRecords (⟨.adapterChat route request context, .ok response⟩ ::
          ⟨.recordSuccess route.deployment.id, ()⟩ :: (t ++
            [⟨.recordUsage (successRecord context route enriched) context, .ok ()⟩,
              ⟨.observe call, ()⟩])) = [successRecord context route enriched] := by
        simp [storedRecord, run.no_records]
      refine ⟨⟨?_, ?_⟩, fun _ _ => ⟨successRecord context route enriched, ?_, rfl⟩⟩
      · intro record mem
        rw [only, List.mem_singleton] at mem
        rw [mem]
        rfl
      · rw [successes, only]
        rfl
      · rw [only]
        exact mem_cons_self

variable {held : Option BudgetReservation}

theorem ChatLoop.rows {routes : List RouteSelection} {recorded : Bool}
    (loop : ChatLoop gateway request context reservation routes t r held recorded)
    (stored : UsageStored t) :
    Rows context t (successesDue r) ∧
      (routes ≠ [] → Finished r → Recorded context t) := by
  induction loop with
  | exhausted => exact ⟨.nothing rfl, by simp⟩
  | answered attempt =>
    obtain ⟨rows, recorded⟩ := attempt.rows stored
    exact ⟨rows, fun _ _ => recorded _ rfl⟩
  | interrupted attempt base =>
    refine ⟨(attempt.rows stored).1, fun _ finished => ?_⟩
    rw [Finished, base] at finished
    cases finished
  | failed attempt ordinary handled =>
    obtain ⟨rows, recorded⟩ := handled.rows stored.after
    exact ⟨(attempt.rows stored.before).1.append rows, fun _ _ => recorded.of_append_right _⟩
  | next attempt ordinary handled loop ih =>
    obtain ⟨rows, recorded⟩ := handled.rows stored.before.after
    refine ⟨?_, fun _ _ => (recorded.of_append_right _).of_append_left _⟩
    simpa [successesDue] using ((attempt.rows stored.before.before).1.append rows).append
      (ih stored.after).1

theorem Planned.rows {r : Except Exc (List RouteSelection)} (planned : Planned gateway.router t r) :
    Rows context t 0 :=
  .nothing (usageRecords_prelude planned.prelude.1)

variable {effective : PolicyDecision → LLMChatRequest}

theorem Authorized.prelude_rows {decision : PolicyDecision}
    (authorized : Authorized gateway request context effective t (.ok (decision, reservation))
      held) : Rows context t 0 :=
  .nothing (usageRecords_prelude authorized.prelude.1)

theorem raisedBy_of_prelude (steps : ∀ e ∈ t, isPrelude e.1 = true) :
    ∀ e ∈ t, raisedBy e = none := by
  intro e mem
  obtain ⟨effect, answer⟩ := e
  have step := steps _ mem
  cases effect <;> first | rfl | cases step

theorem Refused.raisedBy {x : Exc} (refused : Refused context t x) :
    ∀ e ∈ t, raisedBy e = none := by
  cases refused with
  | uncommitted => simp [AgentHive.raisedBy]
  | refused => simp +contextual [AgentHive.raisedBy]

theorem Authorized.raisedBy {r : Except Exc (PolicyDecision × BudgetReservation)}
    (authorized : Authorized gateway request context effective t r held) :
    ∀ e ∈ t, raisedBy e = none := by
  cases authorized with
  | undecided evaluated => exact raisedBy_of_prelude evaluated.prelude.1
  | denied evaluated refused refusal =>
    exact forall_mem_append.mpr ⟨raisedBy_of_prelude evaluated.prelude.1, refusal.raisedBy⟩
  | unreserved evaluated allowed reserved | authorized evaluated allowed reserved =>
    exact forall_mem_append.mpr
      ⟨raisedBy_of_prelude evaluated.prelude.1, raisedBy_of_prelude reserved.prelude.1⟩
  | overBudget evaluated allowed reserved refused refusal =>
    refine forall_mem_append.mpr ⟨raisedBy_of_prelude evaluated.prelude.1, ?_⟩
    exact forall_mem_append.mpr ⟨raisedBy_of_prelude reserved.prelude.1, refusal.raisedBy⟩

theorem Authorized.handled_recorded {operation : String} {u : Trace} {x y : Exc}
    (authorized : Authorized gateway request context effective t (.error x) held)
    (handler : Handled gateway context operation held false false x u y)
    (stored : UsageStored (t ++ u)) (finished : y.isException = true) :
    Recorded context (t ++ u) ∧ ∀ e ∈ t ++ u, AgentHive.raisedBy e = none := by
  obtain ⟨_, refused, known⟩ := authorized.rows stored.before
  have quiet := handler.unheld_raisedBy refused
  refine ⟨?_, forall_mem_append.mpr ⟨authorized.raisedBy, quiet⟩⟩
  cases known with
  | inl recorded => exact recorded.1.of_append_left _
  | inr failed =>
    cases ordinary : x.isException with
    | true =>
      exact ((handler.plain_recorded_iff ordinary failed.2 stored.after).mpr quiet).of_append_right _
    | false =>
      rw [handler.base ordinary, ordinary] at finished
      cases finished

theorem ChatRun.recorded (run : ChatRun gateway request context t r) (stored : UsageStored t) :
    Rows context t (successesDue r) ∧ (Finished r → Recorded context t) := by
  cases run with
  | returned body =>
    cases body with
    | looped authorized planned loop =>
      obtain ⟨rows, recorded⟩ := loop.rows stored.after
      refine ⟨?_, fun finished => ?_⟩
      · simpa using (authorized.prelude_rows.append planned.rows).append rows
      · exact (recorded (planned.nonempty _ rfl) finished).of_append_right _
  | @raised _ _ x y held reserved recorded body handler =>
    have tail := handler.rows stored.after
    cases body with
    | stopped authorized =>
      refine ⟨(authorized.rows stored.before).1.append tail, fun finished => ?_⟩
      exact (authorized.handled_recorded handler stored finished).1
    | unplanned authorized planned =>
      refine ⟨(authorized.prelude_rows.append planned.rows).append tail, fun _ => ?_⟩
      exact (handler.http_recorded (planned.http _ rfl) stored.after).of_append_right _
    | looped authorized planned loop =>
      obtain ⟨rows, recorded⟩ := loop.rows stored.before.after
      refine ⟨?_, fun finished => ?_⟩
      · exact ((authorized.prelude_rows.append planned.rows).append rows).append tail
      · cases ordinary : x.isException with
        | true =>
          exact ((recorded (planned.nonempty _ rfl) ordinary).of_append_right _).of_append_left _
        | false =>
          rw [Finished, handler.base ordinary, ordinary] at finished
          cases finished

end

section

variable {gateway : LLMGateway} {request : ConnectionTestRequest} {context : LLMRequestContext}
  {reservation : BudgetReservation} {t : Trace}

theorem ConnectionAttempt.recorded {route : RouteSelection} {answer : Option ConnectionTestResult}
    (attempt : ConnectionAttempt gateway request context reservation route t (.ok answer)) :
    Recorded context t := by
  have stored : ∀ result enriched u, Recorded context
      (⟨.adapterTest route request, .ok result⟩ :: probeReport route result ::
        ⟨.recordUsage (connectionTestRecord context route enriched) context, .ok ()⟩ :: u) := by
    intro result enriched u
    exact ⟨connectionTestRecord context route enriched, by simp [storedRecord], rfl⟩
  cases attempt with
  | failedProbe | released => exact stored _ _ _

variable {routes : List RouteSelection} {r : Except Exc ConnectionTestResult}

theorem ConnectionLoop.recorded {probed : Bool} {held : Option BudgetReservation} {recorded : Bool}
    (loop : ConnectionLoop gateway request context reservation routes probed t r held recorded)
    (some_ : routes ≠ []) (stored : UsageStored t) (finished : Finished r) :
    Recorded context t := by
  cases loop with
  | exhausted | unreleased | allFailed => exact absurd rfl some_
  | answered attempt => exact attempt.recorded
  | interrupted attempt base =>
    rw [Finished, base] at finished
    cases finished
  | failed attempt ordinary handled =>
    exact (handled.rows stored.after).2.of_append_right _
  | probed attempt loop => exact attempt.recorded.of_append_left _
  | next attempt ordinary handled loop =>
    exact ((handled.rows stored.before.after).2.of_append_right _).of_append_left _

theorem ProbeRoutes.usable (probes : ProbeRoutes gateway request t (.ok routes)) :
    routes ≠ [] ∧ gateway.lacksProvider request = false := by
  cases probes with
  | listed nonempty registered => exact ⟨nonempty, registered⟩
  | fresh registered => exact ⟨by simp, registered⟩
  | planned registered planned => exact ⟨planned.nonempty _ rfl, registered⟩

theorem ConnectionRun.recorded_iff (run : ConnectionRun gateway request context t r)
    (stored : UsageStored t) (finished : Finished r) :
    Recorded context t ↔
      (gateway.lacksProvider request = true → ∀ e ∈ t, raisedBy e = none) := by
  cases run with
  | returned body =>
    cases body with
    | looped authorized probes loop =>
      obtain ⟨some_, registered⟩ := probes.usable
      refine iff_of_true ((loop.recorded some_ stored.after finished).of_append_right _) ?_
      simp [registered]
  | @raised _ _ x y held reserved recorded body handler =>
    cases body with
    | stopped authorized =>
      obtain ⟨recorded, quiet⟩ := authorized.handled_recorded handler stored finished
      exact iff_of_true recorded fun _ => quiet
    | unplanned authorized probes =>
      cases probes with
      | planned registered planned =>
        refine iff_of_true ?_ (by simp [registered])
        exact (handler.http_recorded (planned.http _ rfl) stored.after).of_append_right _
      | missing http registered =>
        refine iff_of_true ?_ (by simp [registered])
        exact (handler.http_recorded http stored.after).of_append_right _
      | unregistered plain ordinary lacks =>
        have none := authorized.prelude_rows
        have quiet := authorized.raisedBy
        have due := handler.plain_recorded_iff ordinary plain stored.after
        rw [append_nil]
        constructor
        · intro recorded _
          refine forall_mem_append.mpr ⟨quiet, due.mp ?_⟩
          obtain ⟨record, mem, own⟩ := recorded
          rw [usageRecords_append, usageRecords_prelude authorized.prelude.1] at mem
          exact ⟨record, mem, own⟩
        · intro none
          exact (due.mpr (forall_mem_append.mp (none lacks)).2).of_append_right _
    | looped authorized probes loop =>
      obtain ⟨some_, registered⟩ := probes.usable
      refine iff_of_true ?_ (by simp [registered])
      cases ordinary : x.isException with
      | true =>
        exact ((loop.recorded some_ stored.before.after ordinary).of_append_right _).of_append_left _
      | false =>
        rw [Finished, handler.base ordinary, ordinary] at finished
        cases finished

end

def streamEnd : CallEvent → Option StreamEnd
  | ⟨.adapterStream _ _ _, (_, finish)⟩ => some finish
  | _ => none

def firstStreamEnd (t : Trace) : Option StreamEnd := (t.filterMap streamEnd).head?

def recordable : StreamEnd → Bool
  | .finished => true
  | .raised x => !x.isHttp

def lookupFailed : CallEvent → Bool
  | ⟨.resolveCostCenter _, .error _⟩ => true
  | _ => false

/-- The policy refuses, or the budget does, or a stream is opened that does not
end in an `HTTPException`. -/
def Attended (gateway : LLMGateway) (request : LLMChatRequest) (context : LLMRequestContext)
    (t : Trace) : Prop :=
  ((∀ e ∈ t, lookupFailed e = false) ∧
      (ModelPolicyEngine.evaluate gateway.policies request context (resolvedIn t)).allowed =
        false) ∨
    (∃ reservation ∈ reservations t, reservation.approved = false) ∨
    ∃ finish, firstStreamEnd t = some finish ∧ recordable finish = true

def stopsStream : CallEvent → Bool
  | ⟨.yieldDelta _, .cancelled⟩ | ⟨.yieldDelta _, .generatorExit⟩ => true
  | ⟨.adapterStream _ _ _, (_, .raised x)⟩ => !x.isException
  | e => raisedBy e == some .cancelled

theorem firstStreamEnd_append {t : Trace} (none : ∀ e ∈ t, opensStream e.1 = false)
    (u : Trace) : firstStreamEnd (t ++ u) = firstStreamEnd u := by
  have nothing : t.filterMap streamEnd = [] := by
    refine filterMap_eq_nil_iff.mpr ?_
    intro e mem
    obtain ⟨effect, answer⟩ := e
    have step := none _ mem
    cases effect <;> first | rfl | cases step
  rw [firstStreamEnd, filterMap_append, nothing, List.nil_append, firstStreamEnd]

section

variable {gateway : LLMGateway} {request : LLMChatRequest} {context : LLMRequestContext}
  {reservation : BudgetReservation} {x : Exc}

theorem streamUsage_error {content modelKey : String}
    (failed : gateway.streamUsage request content modelKey = .error x) :
    x.isException = true ∧ x.isHttp = false := by
  simp only [streamUsage, bind, Except.bind] at failed
  split at failed
  · rename_i unestimated
    cases failed
    exact calculate_error unestimated
  · exact calculate_error failed

variable {deltas : List String} {finish : StreamEnd} {t : Trace}

theorem Forwarded.raised_by (forwarded : Forwarded deltas finish t (.error x))
    (running : ∀ e ∈ t, stopsStream e = false) : finish = .raised x := by
  generalize ended : (Except.error x : Except Exc Unit) = r at forwarded
  induction forwarded with
  | finished => cases ended
  | raised =>
    cases ended
    rfl
  | resumed more ih => exact ih (forall_mem_cons.mp running).2 ended
  | cancelled | closed => cases running _ mem_cons_self

theorem Forwarded.finished_of_ok (forwarded : Forwarded deltas finish t (.ok ())) :
    finish = .finished :=
  ((forwarded.takesAll []).mpr rfl).2

variable {route : RouteSelection} {r : Except Exc Unit} {closed : Bool}

variable (stored : UsageStored t) (running : ∀ e ∈ t, stopsStream e = false)

include stored running in
theorem StreamSettled.rows {content : String}
    (settled : StreamSettled gateway request context reservation route content t r closed) :
    Rows context t (successesDue r) ∧ (r = .ok () → Recorded context t) ∧
      ∀ x, r = .error x → x.isException = true ∧ x.isHttp = false ∧ usageRecords t = [] := by
  cases settled with
  | unpriced failed =>
    refine ⟨.nothing rfl, by simp, fun x same => ?_⟩
    cases same
    exact ⟨(streamUsage_error failed).1, (streamUsage_error failed).2, rfl⟩
  | unsettled _ run =>
    refine ⟨.nothing run.no_records, by simp, fun x same => ⟨?_, ?_, run.no_records⟩⟩
    · obtain ⟨e, mem, f, raised, rfl⟩ := (run.raises x).mp same
      have step := run.steps e mem
      have going := running e mem
      obtain ⟨effect, answer⟩ := e
      cases f <;> cases effect <;> simp_all [stopsStream, isBudgetStep, Fault.toExc,
        Exc.isException]
    · exact run.notHttp x same
  | uncommitted _ run => cases stored _ (List.mem_append_right _ mem_cons_self)
  | @committed usage t call response _ run =>
    have only : usageRecords (t ++
        [⟨.recordUsage (successRecord context route response) context, .ok ()⟩,
          ⟨.observe call, ()⟩]) = [successRecord context route response] := by
      simp [storedRecord, run.no_records]
    refine ⟨⟨?_, ?_⟩, fun _ => ⟨successRecord context route response, ?_, rfl⟩, by simp⟩
    · intro record mem
      rw [only, List.mem_singleton] at mem
      rw [mem]
      rfl
    · rw [successes, only]
      rfl
    · rw [only]
      exact mem_cons_self

variable {held : Option BudgetReservation} {left : Bool}

theorem StreamHandled.no_records {y : Exc} (handled : StreamHandled gateway held x left t y) :
    usageRecords t = [] := by
  cases handled with
  | closed => rfl
  | unreleased run | released run => exact run.guarded.no_records

theorem Forwarded.no_records (forwarded : Forwarded deltas finish t r) : usageRecords t = [] := by
  refine filterMap_eq_nil_iff.mpr ?_
  intro e mem
  obtain ⟨delta, resume, rfl⟩ := forwarded.yields e mem
  rfl

include stored running in
/-- An attempt records a success, or it raised: what its stream ended with,
after its stream was over, or an `HTTPException` before one was opened. -/
theorem StreamAttempt.rows
    (attempt : StreamAttempt gateway request context reservation route t r closed) :
    Rows context t (successesDue r) ∧ (r = .ok () → Recorded context t) ∧
      ∀ x, r = .error x → x.isException = true ∧ usageRecords t = [] := by
  cases attempt with
  | unsupported failed =>
    refine ⟨.nothing rfl, by simp, fun x same => ?_⟩
    cases same
    exact ⟨isException_of_isHttp (adapterFor_error failed), rfl⟩
  | broken forwarded =>
    obtain ⟨going, within⟩ := forall_mem_cons.mp running
    have none : usageRecords _ = [] := forwarded.no_records
    refine ⟨.nothing (by simp [storedRecord, none]), by simp, fun x same => ?_⟩
    cases same
    rw [forwarded.raised_by within] at going
    exact ⟨by simpa [stopsStream] using going, by simp [storedRecord, none]⟩
  | @completed deltas finish u v _ _ forwarded settled =>
    obtain ⟨_, within⟩ := forall_mem_cons.mp running
    obtain ⟨_, _, rest⟩ := (forall_mem_append.mp within).imp id forall_mem_cons.mp
    obtain ⟨_, after⟩ := usageStored_append.mp (forall_mem_cons.mp stored).2
    obtain ⟨rows, recorded, raised⟩ :=
      settled.rows (forall_mem_cons.mp after).2 rest
    have same : usageRecords (⟨.adapterStream route request context, (deltas, finish)⟩ ::
        (u ++ ⟨.recordSuccess route.deployment.id, ()⟩ :: v)) = usageRecords v := by
      simp [storedRecord, forwarded.no_records]
    refine ⟨⟨?_, ?_⟩, ?_, ?_⟩
    · rw [same]
      exact rows.own
    · rw [successes, same]
      exact rows.count
    · intro done
      obtain ⟨record, mem, own⟩ := recorded done
      exact ⟨record, same ▸ mem, own⟩
    · intro x failed
      obtain ⟨ordinary, _, none⟩ := raised x failed
      exact ⟨ordinary, same.trans none⟩

include stored running in
theorem StreamAttempt.recordable_iff
    (attempt : StreamAttempt gateway request context reservation route t r closed) :
    (∃ finish, firstStreamEnd t = some finish ∧ recordable finish = true) ↔
      ∀ x, r = .error x → x.isHttp = false := by
  cases attempt with
  | @unsupported x failed =>
    refine iff_of_false (by simp [firstStreamEnd]) ?_
    intro plain
    have http := adapterFor_error failed
    rw [plain x rfl] at http
    cases http
  | @broken deltas finish u x forwarded =>
    obtain ⟨_, within⟩ := forall_mem_cons.mp running
    rw [forwarded.raised_by within]
    simp [firstStreamEnd, streamEnd, recordable]
  | completed forwarded settled =>
    rw [forwarded.finished_of_ok]
    obtain ⟨_, within⟩ := forall_mem_cons.mp running
    obtain ⟨_, _, rest⟩ := (forall_mem_append.mp within).imp id forall_mem_cons.mp
    obtain ⟨_, after⟩ := usageStored_append.mp (forall_mem_cons.mp stored).2
    obtain ⟨_, _, raised⟩ := settled.rows (forall_mem_cons.mp after).2 rest
    refine iff_of_true ⟨.finished, rfl, rfl⟩ ?_
    intro x failed
    exact (raised x failed).2.1

theorem firstStreamEnd_of_prefix (found : firstStreamEnd t = some finish) (u : Trace) :
    firstStreamEnd (t ++ u) = some finish := by
  rw [firstStreamEnd] at found
  rw [firstStreamEnd, filterMap_append, List.head?_append, found]
  rfl

theorem StreamFailed.rows (failed : StreamFailed context route x t r) (stored : UsageStored t) :
    Rows context t 0 ∧ Recorded context t := by
  cases failed with
  | uncommitted => cases stored _ (mem_cons_of_mem _ mem_cons_self)
  | fellBack row | yielded row => exact Rows.failure (by simp [storedRecord]) row.1 row.2

variable {routes : List RouteSelection}

include stored running in
theorem StreamLoop.rows {open_ : Bool}
    (loop : StreamLoop gateway request context reservation routes open_ t r left) :
    Rows context t (successesDue r) := by
  induction loop with
  | exhausted => exact .nothing rfl
  | answered attempt | escaped attempt => exact (attempt.rows stored running).1
  | failed attempt ordinary plain handled =>
    exact (attempt.rows stored.before (forall_mem_append.mp running).1).1.append
      (handled.rows stored.after).1
  | next attempt ordinary plain handled loop ih =>
    obtain ⟨runningBefore, runningAfter⟩ := forall_mem_append.mp running
    have rows := attempt.rows stored.before.before (forall_mem_append.mp runningBefore).1
    simpa [successesDue] using
      (rows.1.append (handled.rows stored.before.after).1).append (ih stored.after runningAfter)

include stored running in
theorem StreamLoop.recorded_iff {open_ : Bool}
    (loop : StreamLoop gateway request context reservation routes open_ t r left)
    (some_ : routes ≠ []) :
    Recorded context t ↔ ∃ finish, firstStreamEnd t = some finish ∧ recordable finish = true := by
  have attended : ∀ {route : RouteSelection} {closed : Bool} {x : Exc} {u v : Trace},
      StreamAttempt gateway request context reservation route u (.error x) closed →
      UsageStored u → (∀ e ∈ u, stopsStream e = false) → x.isHttp = false →
      ∃ finish, firstStreamEnd (u ++ v) = some finish ∧ recordable finish = true := by
    intro route closed x u v attempt stored running plain
    obtain ⟨finish, found, good⟩ := (attempt.recordable_iff stored running).mpr
      fun y same => by cases same; exact plain
    exact ⟨finish, firstStreamEnd_of_prefix found v, good⟩
  cases loop with
  | exhausted => exact absurd rfl some_
  | answered attempt =>
    refine iff_of_true ((attempt.rows stored running).2.1 rfl) ?_
    exact (attempt.recordable_iff stored running).mpr (by simp)
  | escaped attempt uncaught =>
    obtain ⟨ordinary, none⟩ := (attempt.rows stored running).2.2 _ rfl
    refine iff_of_false (not_recorded none) ?_
    intro found
    have plain := (attempt.recordable_iff stored running).mp found _ rfl
    simp [plain, ordinary] at uncaught
  | failed attempt ordinary plain handled =>
    refine iff_of_true ((handled.rows stored.after).2.of_append_right _) ?_
    exact attended attempt stored.before (forall_mem_append.mp running).1 plain
  | next attempt ordinary plain handled loop =>
    rw [List.append_assoc] at stored running ⊢
    refine iff_of_true ?_
      (attended attempt stored.before (forall_mem_append.mp running).1 plain)
    refine Recorded.of_append_right ?_ _
    exact (handled.rows stored.after.before).2.of_append_left _

theorem resolvedIn_append {u : Trace} (none : ∀ e ∈ u, resolvedBy e = none) (t : Trace) :
    resolvedIn (t ++ u) = resolvedIn t := by
  rw [resolvedIn, filterMap_append, filterMap_eq_nil_iff.mpr none, append_nil,
    resolvedIn]

variable {decision : PolicyDecision}

theorem Evaluated.decides (evaluated : Evaluated gateway request context t (.ok decision)) :
    decision = ModelPolicyEngine.evaluate gateway.policies request context (resolvedIn t) ∧
      ∀ e ∈ t, lookupFailed e = false := by
  cases evaluated with
  | @asked resolved => cases resolved <;> exact ⟨rfl, by simp [lookupFailed]⟩
  | known => exact ⟨rfl, by simp⟩

theorem unresolved_of_later (later : ∀ e ∈ t, isPrelude e.1 = false) :
    ∀ e ∈ t, resolvedBy e = none ∧ lookupFailed e = false := by
  intro e mem
  obtain ⟨effect, answer⟩ := e
  have step := later _ mem
  cases effect <;> first | exact ⟨rfl, rfl⟩ | cases step

theorem Reserved.unresolved {r : Except Exc BudgetReservation}
    (reserved : Reserved gateway request context t r) : ∀ e ∈ t, resolvedBy e = none := by
  cases reserved with
  | unpriced => simp
  | faulted | reserved => simp [resolvedBy]

theorem Planned.unresolved {r : Except Exc (List RouteSelection)}
    (planned : Planned gateway.router t r) : ∀ e ∈ t, resolvedBy e = none := by
  intro e mem
  obtain ⟨d, b, rfl⟩ := planned.asked e mem
  rfl

theorem Authorized.allowed {effective : PolicyDecision → LLMChatRequest}
    (authorized : Authorized gateway request context effective t (.ok (decision, reservation))
      held) :
    (ModelPolicyEngine.evaluate gateway.policies request context (resolvedIn t)).allowed = true ∧
      reservation.approved = true := by
  cases authorized with
  | authorized evaluated allowed reserved approved =>
    rw [resolvedIn_append reserved.unresolved, ← evaluated.decides.1]
    exact ⟨allowed, approved⟩

theorem attended_iff (allowed : (ModelPolicyEngine.evaluate gateway.policies request context
      (resolvedIn t)).allowed = true)
    (approved : ∀ reservation ∈ reservations t, reservation.approved = true) :
    Attended gateway request context t ↔
      ∃ finish, firstStreamEnd t = some finish ∧ recordable finish = true := by
  constructor
  · intro attended
    obtain ⟨_, refused⟩ | ⟨reservation, mem, refused⟩ | found := attended
    · rw [allowed] at refused
      cases refused
    · rw [approved reservation mem] at refused
      cases refused
    · exact found
  · exact fun found => .inr (.inr found)

theorem not_attended (decided : (∀ e ∈ t, lookupFailed e = false) →
      (ModelPolicyEngine.evaluate gateway.policies request context (resolvedIn t)).allowed = true)
    (empty : reservations t = []) (unopened : firstStreamEnd t = none) :
    ¬ Attended gateway request context t := by
  intro attended
  obtain ⟨lookups, refused⟩ | ⟨reservation, mem, _⟩ | ⟨finish, found, _⟩ := attended
  · rw [decided lookups] at refused
    cases refused
  · rw [empty] at mem
    cases mem
  · rw [unopened] at found
    cases found

theorem firstStreamEnd_of_opensNone (opens : ∀ e ∈ t, opensStream e.1 = false) :
    firstStreamEnd t = none := by
  have all := firstStreamEnd_append opens []
  rw [append_nil] at all
  exact all

theorem attended_append {u : Trace} (steps : ∀ e ∈ u, isBookkeeping e.1 = true) :
    Attended gateway request context (t ++ u) ↔ Attended gateway request context t := by
  have later := unresolved_of_later (not_prelude_of_bookkeeping steps)
  have ends : firstStreamEnd (t ++ u) = firstStreamEnd t := by
    have nothing := firstStreamEnd_of_opensNone (opensNone_of_bookkeeping steps)
    simp only [firstStreamEnd] at nothing ⊢
    rw [filterMap_append, List.head?_append, nothing, Option.or_none]
  simp only [Attended, resolvedIn_append fun e mem => (later e mem).1, reservations_append,
    reservations_bookkeeping steps, append_nil, ends, forall_mem_append]
  simp only [and_iff_left fun e mem => (later e mem).2]

theorem Authorized.recorded_iff
    (authorized : Authorized gateway request context (effectiveRequest request) t (.error x) held)
    (stored : UsageStored t) : Recorded context t ↔ Attended gateway request context t := by
  cases authorized with
  | undecided evaluated =>
    have none := usageRecords_prelude evaluated.prelude.1
    refine iff_of_false (not_recorded none) (not_attended ?_ evaluated.prelude.2 ?_)
    · intro lookups
      cases evaluated with
      | unresolved => cases lookups _ mem_cons_self
    · exact firstStreamEnd_of_opensNone (opensNone_of_prelude evaluated.prelude.1)
  | denied evaluated refused refusal =>
    have recorded := (refusal.rows stored.after).2.1
    refine iff_of_true (recorded.of_append_right _) ?_
    refine (attended_append refusal.bookkeeping).mpr (.inl ⟨evaluated.decides.2, ?_⟩)
    rw [← evaluated.decides.1]
    exact refused
  | unreserved evaluated allowed reserved =>
    have steps := forall_mem_append.mpr ⟨evaluated.prelude.1, reserved.prelude.1⟩
    refine iff_of_false (not_recorded (usageRecords_prelude steps)) (not_attended ?_ ?_ ?_)
    · intro _
      rw [resolvedIn_append reserved.unresolved, ← evaluated.decides.1]
      exact allowed
    · rw [reservations_append, evaluated.prelude.2, reserved.prelude.2]
      rfl
    · exact firstStreamEnd_of_opensNone (opensNone_of_prelude steps)
  | @overBudget _ _ _ _ reservation _ evaluated allowed reserved refused refusal =>
    have recorded := (refusal.rows stored.after.after).2.1
    refine iff_of_true ((recorded.of_append_right _).of_append_right _) ?_
    refine .inr (.inl ⟨reservation, ?_, refused⟩)
    rw [reservations_append, reservations_append, reserved.prelude.2]
    exact List.mem_append_right _ (List.mem_append_left _ mem_cons_self)

include stored running in
theorem StreamBody.recorded_iff (body : StreamBody gateway request context t r held left) :
    Rows context t (successesDue r) ∧
      (Recorded context t ↔ Attended gateway request context t) := by
  cases body with
  | stopped authorized => exact ⟨(authorized.rows stored).1, authorized.recorded_iff stored⟩
  | unplanned authorized planned =>
    refine ⟨authorized.prelude_rows.append planned.rows, ?_⟩
    obtain ⟨allowed, approved⟩ := authorized.allowed
    have steps := forall_mem_append.mpr ⟨authorized.prelude.1, planned.prelude.1⟩
    refine iff_of_false (not_recorded (usageRecords_prelude steps)) ?_
    rw [attended_iff, firstStreamEnd_of_opensNone (opensNone_of_prelude steps)]
    · simp
    · rw [resolvedIn_append planned.unresolved]
      exact allowed
    · simp [(authorized.planned_prelude planned).2, approved]
  | looped authorized planned loop =>
    obtain ⟨_, within⟩ := forall_mem_append.mp running
    obtain ⟨allowed, approved⟩ := authorized.allowed
    have steps := forall_mem_append.mpr ⟨authorized.prelude.1, planned.prelude.1⟩
    have none := usageRecords_prelude steps
    refine ⟨?_, ?_⟩
    · have before := authorized.prelude_rows.append planned.rows
      simpa using before.append (loop.rows stored.after within)
    · have later := unresolved_of_later loop.later
      rw [attended_iff, firstStreamEnd_append (opensNone_of_prelude steps),
        ← loop.recorded_iff stored.after within (planned.nonempty _ rfl)]
      · exact recorded_append none
      · rw [resolvedIn_append fun e mem => (later e mem).1, resolvedIn_append planned.unresolved]
        exact allowed
      · rw [reservations_append, (authorized.planned_prelude planned).2,
          reservations_later loop.later]
        simp [approved]

include stored running in
theorem StreamRun.recorded_iff (run : StreamRun gateway request context t r) :
    Rows context t (successesDue r) ∧
      (Recorded context t ↔ Attended gateway request context t) := by
  cases run with
  | returned body => exact body.recorded_iff stored running
  | raised body handler =>
    obtain ⟨rows, recorded⟩ := body.recorded_iff stored.before (forall_mem_append.mp running).1
    have none : usageRecords _ = [] := handler.no_records
    refine ⟨rows.append (.nothing none), ?_⟩
    rw [attended_append handler.bookkeeping, ← recorded]
    simp [Recorded, none]

end

/-- Where the usage storage works: a finished `chat` has its record and one
success when it returned, `stream_chat` has them exactly when it is attended
to, and `test_connection` exactly when no fault of the budget follows an
unregistered provider. -/
theorem finished_call_is_recorded_iff (gateway : LLMGateway) (context : LLMRequestContext) :
    (∀ request t r, Process.Program.Runs (gateway.chat request context) t r → UsageStored t →
        Finished r → Recorded context t ∧ successes t = successesDue r) ∧
      (∀ request t r, Process.Program.Runs (gateway.streamChat request context) t r →
        UsageStored t → (∀ e ∈ t, stopsStream e = false) →
        (Recorded context t ∧ successes t = successesDue r ↔
          Attended gateway request context t)) ∧
      ∀ request t r, Process.Program.Runs (gateway.testConnection request context) t r →
        UsageStored t → Finished r →
        (Recorded context t ↔
          (gateway.lacksProvider request = true → ∀ e ∈ t, raisedBy e = none)) := by
  refine ⟨?_, ?_, ?_⟩
  · intro request t r run stored finished
    obtain ⟨rows, recorded⟩ := (chat_run run).recorded stored
    exact ⟨recorded finished, rows.count⟩
  · intro request t r run stored running
    obtain ⟨rows, recorded⟩ := (stream_run run).recorded_iff stored running
    exact (and_iff_left rows.count).trans recorded
  · intro request t r run stored finished
    exact (connection_run run).recorded_iff stored finished

instance (context : LLMRequestContext) (t : Trace) : Decidable (Recorded context t) :=
  inferInstanceAs (Decidable (∃ record ∈ usageRecords t, record.requestId = context.requestId))

instance (t : Trace) : Decidable (UsageStored t) :=
  inferInstanceAs (Decidable (∀ e ∈ t, isUsageFault e = false))

/-- The provider refuses the stream with an `HTTPException`. -/
def streamRefused : (e : Effect) → Answer e
  | .adapterStream _ _ _ => ([], .raised (.http 503 (.text "provider unavailable")))
  | e => quiet e

instance {α : Type} (r : Except Exc α) : Decidable (Finished r) :=
  match r with
  | .ok _ => isTrue trivial
  | .error x => inferInstanceAs (Decidable (x.isException = true))

theorem refused_stream_is_unrecorded :
    ∃ t r, Process.Program.Runs (defaultGateway.streamChat helloRequest tenantContext) t r ∧
      UsageStored t ∧ Finished r ∧ ¬ Recorded tenantContext t :=
  ⟨_, _, Process.Program.follow_runs streamRefused _, by decide +kernel⟩

def defaultProbe : ConnectionTestRequest :=
  { deploymentId := some (defaultChatDeployment none false).id }

theorem quiet_calls_are_recorded :
    (Recorded tenantContext ((defaultGateway.chat helloRequest tenantContext).follow quiet).1 ∧
        successes ((defaultGateway.chat helloRequest tenantContext).follow quiet).1 =
          successesDue ((defaultGateway.chat helloRequest tenantContext).follow quiet).2) ∧
      (Recorded tenantContext
          ((defaultGateway.streamChat helloRequest tenantContext).follow quiet).1 ∧
        successes ((defaultGateway.streamChat helloRequest tenantContext).follow quiet).1 =
          successesDue ((defaultGateway.streamChat helloRequest tenantContext).follow quiet).2) ∧
      Recorded tenantContext
        ((defaultGateway.testConnection defaultProbe tenantContext).follow quiet).1 := by
  obtain ⟨chat, stream, connection⟩ :=
    finished_call_is_recorded_iff defaultGateway tenantContext
  refine ⟨?_, ?_, ?_⟩
  · exact chat helloRequest _ _ (Process.Program.follow_runs quiet _) (by decide +kernel)
      (by decide +kernel)
  · exact (stream helloRequest _ _ (Process.Program.follow_runs quiet _)
      (by decide +kernel) (by decide +kernel)).mpr (.inr (.inr ⟨.finished, by decide +kernel⟩))
  · exact (connection defaultProbe _ _ (Process.Program.follow_runs quiet _)
      (by decide +kernel) (by decide +kernel)).mpr fun _ => by decide +kernel

end LLMGateway
end AgentHive
