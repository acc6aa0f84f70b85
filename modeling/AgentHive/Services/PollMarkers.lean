import AgentHive.Services.MediaPollQueue
import AgentHive.Services.ReservationKept
import Mathlib.Order.CompletePartialOrder

/-!
The marker of an enqueued poll under every run of requests, polls and workers.
-/

namespace AgentHive

open Process (Action Config Interleaved Keeping Learning Taken)
open MediaGeneration MediaQueue

def PollMarks (task : PollTask) (entries : Dict) : Prop :=
  entries.lookup "task_id" = some (.str task.id) ∧
    entries.lookup "external_job_id" = some (.ofOption task.externalJobId)

def JobFacts.marked (sent : Set PollTask) : JobFacts where
  key := "poll_queue"
  holds value := ∀ entries, value.bind markerEntries = some entries →
    ∃ task ∈ sent, PollMarks task entries
  foreign := by decide
  resolves _ _ := True

variable {sent sent' : Set PollTask} {origin : MediaGenerationJob} {userId : UUID}

theorem Belongs.lasts {job : MediaGenerationJob} (belongs : Belongs (.marked sent) origin job)
    (more : sent ⊆ sent') : Belongs (.marked sent') origin job where
  tenant := belongs.tenant
  user := belongs.user
  department := belongs.department
  kept := by
    intro entries found
    obtain ⟨task, there, marks⟩ := belongs.kept entries found
    exact ⟨task, more there, marks⟩

theorem Belongs.markedJob {lib : QueueLibrary} {principal : Principal}
    {requestId : Option String} {taskId : String} {now : DateTime}
    {job polled : MediaGenerationJob} (belongs : Belongs (.marked sent) origin job)
    (isSent : pollTask polled principal requestId taskId ∈ sent) :
    Belongs (.marked sent) origin
      (MediaQueue.markedJob (pollMarker lib principal requestId taskId now polled) job) where
  tenant := belongs.tenant
  user := belongs.user
  department := belongs.department
  kept := by
    intro entries found
    have written : (MediaQueue.markedJob (pollMarker lib principal requestId taskId now polled)
        job).metadata.get "poll_queue" =
          some (.table (pollMarker lib principal requestId taskId now polled)) :=
      OrderedDict.get_set_self _ _ _
    change ((MediaQueue.markedJob _ job).metadata.get "poll_queue").bind markerEntries = _ at found
    rw [written] at found
    cases found
    exact ⟨_, isSent, rfl, rfl⟩

def PollTold (origin : MediaGenerationJob) (sent : Set PollTask) : PollEvent → Prop
  | ⟨.media effect, answer⟩ =>
    ∀ sent', sent ⊆ sent' → MediaTold (.marked sent') origin ⟨effect, answer⟩
  | ⟨.sendPoll job principal requestId, .ok id⟩ => pollTask job principal requestId id ∈ sent
  | _ => True

def PollPromise (origin : MediaGenerationJob) (sent : Set PollTask) : PollEffect → Prop
  | .media effect => ∃ userId, MediaPromise (.marked sent) origin userId effect
  | _ => True

abbrev Marking (origin : MediaGenerationJob) (sent : Set PollTask) {α : Type} (m : PollStep α)
    (Q : α → Prop) : Prop :=
  Keeping (PollTold origin sent) (PollPromise origin sent) (HoldsJob (.marked sent) origin) m Q

theorem PollTold.lasts (e : PollEvent) (more : sent ≤ sent') (told : PollTold origin sent e) :
    PollTold origin sent' e := by
  obtain ⟨effect, answer⟩ := e
  cases effect with
  | media effect => exact fun later grown => told later (more.trans grown)
  | sendPoll job principal requestId =>
    cases answer with
    | ok id => exact more told
    | error failure => exact trivial
  | takePoll | pollDone task => exact trivial

namespace Marking

theorem onJob (userId : UUID) {α : Type} {m : MediaStep α} {Q : α → Prop}
    (charges : Charges (.marked sent) origin userId m Q) : Marking origin sent (onJob m) Q := by
  refine charges.within ?_
  intro e promised
  exact ⟨⟨userId, promised⟩, fun answer told => told sent le_rfl⟩

theorem map {α β : Type} {f : α → β} {m : PollStep α} {Q : α → Prop}
    (marking : Marking origin sent m Q) : Marking origin sent (f <$> m) fun _ => True := by
  rw [map_eq_pure_bind]
  exact Keeping.bind marking fun _ _ => Keeping.pure trivial

variable {lib : QueueLibrary} {principal : Principal}

theorem sendPoll (requestId : Option String) (job : MediaGenerationJob) :
    Marking origin sent (MediaQueue.sendPoll lib principal requestId job) fun _ => True := by
  refine Keeping.bind (Q := fun answer => ∀ id, answer = Except.ok id →
    pollTask job principal requestId id ∈ sent) (Keeping.perform trivial ?_) ?_
  · intro answer told id eq
    rw [eq] at told
    exact told
  · intro answer isSent
    cases answer with
    | error failure =>
      cases failure with
      | raised exc => exact Keeping.throw _
      | unavailable className =>
        refine Keeping.bind (onJob principal.userId Charges.rollback) ?_
        intro undone _
        refine Keeping.bind (onJob principal.userId
          (Charges.stored (Q := fun _ => True) fun _ _ => trivial)) ?_
        intro _ _
        exact onJob principal.userId (Keeping.throw _)
    | ok taskId =>
      refine Keeping.bind (Q := fun _ => True) (onJob principal.userId
        (Keeping.perform trivial fun _ _ => trivial)) ?_
      intro now _
      refine Keeping.bind (onJob principal.userId
        (Charges.edit fun row version => version.markedJob (isSent taskId rfl))) ?_
      intro _ _
      refine Keeping.bind (onJob principal.userId Charges.commit) ?_
      intro _ _
      exact Keeping.pure trivial

theorem pollableJob (jobId : UUID) :
    Charges (.marked sent) origin userId (MediaQueue.pollableJob principal jobId)
      fun _ => True := by
  refine Keeping.bind (Charges.getOwnJob jobId) ?_
  intro job _
  refine Keeping.bind (Charges.ensureRunnable job) ?_
  intro _ _
  refine Keeping.bind (Charges.refuse _ _ _) ?_
  intro _ _
  refine Keeping.bind (Charges.refuse _ _ _) ?_
  intro _ _
  exact Keeping.pure trivial

theorem enqueueMediaGenerationPollForWorker (jobId : UUID) (requestId : Option String) :
    Marking origin sent
      (MediaQueue.enqueueMediaGenerationPollForWorker lib principal jobId requestId)
      fun _ => True := by
  refine Keeping.bind (onJob principal.userId (pollableJob jobId)) ?_
  intro job _
  split
  · refine Keeping.bind (onJob principal.userId Charges.commit) ?_
    intro _ _
    exact Keeping.pure trivial
  · exact sendPoll requestId job

theorem pollMediaGenerationJobTask (task : PollTask) :
    Marking origin sent (MediaQueue.pollMediaGenerationJobTask lib task) fun _ => True := by
  refine Keeping.bind (onJob 0 (Charges.getJob task.jobId)) ?_
  intro found _
  split
  · exact Keeping.pure trivial
  · split
    · exact Keeping.pure trivial
    · refine Keeping.bind (onJob _ (Charges.pollMediaGenerationJob task.jobId task.requestId)) ?_
      intro _ _
      exact Keeping.pure trivial

theorem worker : Marking origin sent (MediaQueue.worker lib) fun _ => True := by
  refine Keeping.bind (Q := fun _ => True) (Keeping.perform trivial fun _ _ => trivial) ?_
  intro task _
  refine Keeping.bind (Q := fun _ => True) (Keeping.tryCatch
    (map (pollMediaGenerationJobTask task)) fun _ => Keeping.pure trivial) ?_
  intro result _
  refine Keeping.bind (Q := fun _ => True) (Keeping.perform trivial fun _ _ => trivial) ?_
  intro _ _
  exact Keeping.ofExcept fun _ _ => trivial

end Marking

def PollReads (rows : MediaGenerationJob → Prop) : PollEvent → Prop
  | ⟨.media effect, answer⟩ => RowsRead rows ⟨effect, answer⟩
  | _ => True

def Brings (job : MediaGenerationJob) : PollEvent → Prop
  | ⟨.media (.getJob _), .ok found⟩ => job ∈ found
  | ⟨.media (.findJobs _ _), .ok found⟩ => found = [job]
  | _ => False

theorem eq_of_brings {job : MediaGenerationJob} {q : PollQueue} {e : PollEffect}
    {r : PollAnswer e} (brings : Brings job ⟨e, r⟩) (answers : q.Answers e r) :
    job = q.storage.job := by
  cases e with
  | media effect =>
    cases effect with
    | getJob jobId =>
      cases r with
      | error f => cases brings
      | ok found =>
        have stored : found = if q.storage.job.id = jobId then some q.storage.job else none :=
          answers
        have mem : found = some job := brings
        rw [mem] at stored
        split at stored
        · exact Option.some.inj stored
        · cases stored
    | findJobs externalJobId providerKey =>
      cases r with
      | error f => cases brings
      | ok found => exact (answers : ∀ job, found = [job] → job = q.storage.job) job brings
    | _ => cases brings
  | _ => cases brings

section Reading

variable {rows : MediaGenerationJob → Prop} {principal : Principal}

theorem Reading.pollableJob (jobId : UUID) :
    Reading rows (MediaQueue.pollableJob principal jobId) fun job =>
      rows job ∧ job.status = .running := by
  refine Keeping.bind (getOwnJob jobId) ?_
  intro job row
  refine Keeping.bind (ensureRunnable job) ?_
  intro _ _
  refine Keeping.bind (refuse _ _ _) ?_
  intro _ running
  refine Keeping.bind (refuse _ _ _) ?_
  intro _ _
  exact Keeping.pure ⟨row, not_not.mp running⟩

theorem sendPoll_queued (lib : QueueLibrary) (requestId : Option String)
    (job : MediaGenerationJob) :
    Keeping (PollReads rows) (fun _ => True) (fun _ => True)
      (MediaQueue.sendPoll lib principal requestId job) fun response => response.queued = true := by
  refine Keeping.bind (Keeping.vacuous _) ?_
  intro answer _
  cases answer with
  | error failure =>
    cases failure with
    | raised exc => exact Keeping.throw _
    | unavailable className =>
      refine Keeping.bind (Keeping.vacuous _) ?_
      intro undone _
      refine Keeping.bind (Keeping.vacuous _) ?_
      intro _ _
      exact Keeping.throw _
  | ok taskId =>
    refine Keeping.bind (Keeping.vacuous _) ?_
    intro now _
    refine Keeping.bind (Keeping.vacuous _) ?_
    intro _ _
    refine Keeping.bind (Keeping.vacuous _) ?_
    intro _ _
    exact Keeping.pure rfl

theorem skipPoll_task (lib : QueueLibrary) (job : MediaGenerationJob) (entries : Dict) :
    Keeping (PollReads rows) (fun _ => True) (fun _ => True)
      (MediaQueue.skipPoll lib job entries)
      fun response => response.taskId = lib.str ((entries.lookup "task_id").getD .none) := by
  refine Keeping.bind (Keeping.vacuous _) ?_
  intro _ _
  exact Keeping.pure rfl

def SkippedFor (rows : MediaGenerationJob → Prop) (lib : QueueLibrary)
    (response : MediaGenerationJobEnqueueResponse) : Prop :=
  response.queued = false → ∃ job entries, rows job ∧ job.status = .running ∧
    activePoll job = some entries ∧
    response.taskId = lib.str ((entries.lookup "task_id").getD .none)

theorem enqueue_reads (lib : QueueLibrary) (principal : Principal) (jobId : UUID)
    (requestId : Option String) :
    ((PollRequest.enqueue principal jobId requestId).program lib).Meets (PollReads rows)
      (fun _ => True) fun result => ∀ response, result = .ok (.enqueued response) →
        SkippedFor rows lib response := by
  have read : Keeping (PollReads rows) (fun _ => True) (HasRead rows)
      (onJob (MediaQueue.pollableJob principal jobId)) fun job =>
        rows job ∧ job.status = .running := by
    refine (Reading.pollableJob jobId).within ?_
    intro e _
    exact ⟨trivial, fun answer told => told⟩
  have skips : ∀ job entries, rows job ∧ job.status = .running → activePoll job = some entries →
      Keeping (PollReads rows) (fun _ => True) (fun _ => True)
        (MediaQueue.skipPoll lib job entries) (SkippedFor rows lib) := by
    intro job entries found active
    refine (skipPoll_task lib job entries).mono ?_
    intro response same _
    exact ⟨job, entries, found.1, found.2, active, same⟩
  have sends : ∀ job, Keeping (PollReads rows) (fun _ => True) (fun _ => True)
      (MediaQueue.sendPoll lib principal requestId job) (SkippedFor rows lib) := by
    intro job
    refine (sendPoll_queued lib requestId job).mono ?_
    intro response queued skipped
    rw [queued] at skipped
    cases skipped
  rw [PollRequest.program, Action.meets_run, PollRequest.step, map_eq_pure_bind,
    Action.meets_bind, MediaQueue.enqueueMediaGenerationPollForWorker, Action.meets_bind]
  refine (read.meets none hasRead_none).mono ?_
  intro result left post
  cases result with
  | error exc =>
    intro response eq
    cases eq
  | ok job =>
    have found := post.2 job rfl
    refine Action.Meets.mono (Keeping.meets (I := fun _ => True) (Q := SkippedFor rows lib) ?_
      left trivial) ?_
    · cases active : activePoll job with
      | some entries => exact skips job entries found active
      | none => exact sends job
    intro result left post
    cases result with
    | error exc =>
      intro response eq
      cases eq
    | ok skipped =>
      intro response eq
      cases eq
      exact post.2 skipped rfl

end Reading

def PollRequest.Unmarked : PollRequest → Prop
  | media (.update _ _ payload _) => "poll_queue" ∉ payload.metadata.keys
  | _ => True

def ProviderUnmarked : PollEvent → Prop
  | ⟨.media (.submit _), .ok result⟩ | ⟨.media (.poll _), .ok result⟩ =>
    "poll_queue" ∉ result.metadata.keys
  | ⟨.media (.submit _), .error (.provider _ _ metadata)⟩
  | ⟨.media (.poll _), .error (.provider _ _ metadata)⟩ => "poll_queue" ∉ metadata.keys
  | _ => True

instance decidableProviderUnmarked : ∀ e, Decidable (ProviderUnmarked e)
  | ⟨.media (.submit _), .ok result⟩ | ⟨.media (.poll _), .ok result⟩ =>
    inferInstanceAs (Decidable ("poll_queue" ∉ result.metadata.keys))
  | ⟨.media (.submit _), .error (.provider _ _ metadata)⟩
  | ⟨.media (.poll _), .error (.provider _ _ metadata)⟩ =>
    inferInstanceAs (Decidable ("poll_queue" ∉ metadata.keys))
  | ⟨.media (.submit _), .error (.exception _)⟩ | ⟨.media (.submit _), .error .cancelled⟩
  | ⟨.media (.poll _), .error (.exception _)⟩ | ⟨.media (.poll _), .error .cancelled⟩
  | ⟨.media (.getJob _), _⟩ | ⟨.media (.findJobs _ _), _⟩ | ⟨.media (.refreshJob _), _⟩
  | ⟨.media (.principalDepartmentIds _), _⟩ | ⟨.media (.ensureModuleRunnable _), _⟩
  | ⟨.media (.ensureProviderConfigured _), _⟩ | ⟨.media (.enforceModelPolicy _), _⟩
  | ⟨.media (.resolveAdapter _), _⟩ | ⟨.media (.archiveOutputs _ _), _⟩
  | ⟨.media (.reserveUsage _ _), _⟩ | ⟨.media (.budget _), _⟩ | ⟨.media (.commit _), _⟩
  | ⟨.sendPoll _ _ _, _⟩ | ⟨.takePoll, _⟩ | ⟨.pollDone _, _⟩ => .isTrue trivial

namespace PollQueue

def known (q : PollQueue) : Set PollTask := {task | task ∈ q.sent}

def Issued (q : PollQueue) : Prop :=
  (JobFacts.marked q.known).holds (q.storage.job.metadata.get "poll_queue")

def Settled (q : PollQueue) : Prop :=
  q.storage.job.status = .running → ∀ task ∈ q.consumed,
    task.externalJobId ≠ q.storage.job.externalJobId

instance decidableSettled (q : PollQueue) : Decidable q.Settled :=
  inferInstanceAs (Decidable (_ → _))

end PollQueue

theorem mediaGiven_of_unmarked {effect : MediaEffect} {answer : MediaAnswer effect}
    (provided : ProviderUnmarked ⟨.media effect, answer⟩) :
    MediaGiven (.marked sent) ⟨effect, answer⟩ := by
  cases effect with
  | submit job | poll job =>
    cases answer with
    | ok result => exact spared_of_absent provided
    | error failure =>
      cases failure with
      | provider className message metadata => exact spared_of_absent provided
      | exception className | cancelled => exact trivial
  | budget effect =>
    cases effect with
    | resolveCostCenter context => cases answer <;> exact trivial
    | _ => exact trivial
  | _ => exact trivial

theorem PollRequest.program_marks (lib : QueueLibrary) {request : PollRequest}
    (unmarked : request.Unmarked) :
    (request.program lib).Meets (PollTold origin sent) (PollPromise origin sent)
      fun _ => True := by
  have marking : Marking origin sent (request.step lib) fun _ => True := by
    cases request with
    | media request =>
      refine Marking.map (Marking.onJob _ (MediaRequest.step_charges lib.toMediaLibrary ?_ ?_))
      · cases request with
        | update principal jobId payload requestId => exact spared_of_absent unmarked
        | _ => exact trivial
      · intro _ raw same
        exact absurd same (by decide : "poll_queue" ≠ "budget_reservation")
    | enqueue principal jobId requestId =>
      exact Marking.map (Marking.enqueueMediaGenerationPollForWorker jobId requestId)
    | worker => exact Marking.map Marking.worker
  exact (marking.run MediaRequest.holdsJob_none).mono fun _ _ => trivial

section Runs

variable {ι : Type} {requests : ι → PollRequest} {q : PollQueue}

theorem markers_learnt (lib : QueueLibrary) (origin : MediaGenerationJob)
    (unmarked : ∀ i, (requests i).Unmarked) :
    Learning (pollEnvironment.restrict fun _ => ProviderUnmarked)
      (fun i => (requests i).program lib) PollQueue.known (PollTold origin) (PollPromise origin)
      fun q => Belongs (.marked q.known) origin q.storage.job where
  lasting e more told := told.lasts e more
  promised sent i := PollRequest.program_marks lib (unmarked i)
  keeps := by
    intro q e r q' belongs promised answered
    obtain ⟨provided, answers, rfl⟩ := answered
    cases e with
    | media effect =>
      obtain ⟨userId, promised⟩ := promised
      refine ⟨le_rfl, ?_, belongs.next promised⟩
      intro sent' more
      exact mediaTold_of_answers (belongs.lasts more) answers (mediaGiven_of_unmarked provided)
    | sendPoll job principal requestId =>
      cases r with
      | error failure => exact ⟨le_rfl, trivial, belongs⟩
      | ok id =>
        have more : q.known ⊆ (q.next ⟨.sendPoll job principal requestId, .ok id⟩).known :=
          fun task there => List.mem_cons_of_mem _ there
        exact ⟨more, List.mem_cons_self, belongs.lasts more⟩
    | takePoll => exact ⟨le_rfl, trivial, belongs⟩
    | pollDone task => exact ⟨le_rfl, trivial, belongs⟩
  drifts := by
    intro q q' belongs moved
    rw [moved]
    exact ⟨le_rfl, belongs⟩

variable [DecidableEq ι] {c : Config ι PollEffect PollAnswer PollRequest.Result PollQueue}
  {steps : List (Taken ι PollEffect PollAnswer PollRequest.Result PollQueue)}

theorem ofOption_injective {a b : Option String} (same : PyValue.ofOption a = .ofOption b) :
    a = b := by
  cases a <;> cases b <;> first | rfl | cases same
  rfl

theorem active_poll_sent {job : MediaGenerationJob} {entries : Dict}
    (belongs : Belongs (.marked sent) origin job) (active : activePoll job = some entries) :
    ∃ task ∈ sent, entries.lookup "task_id" = some (.str task.id) ∧
      task.externalJobId = job.externalJobId := by
  obtain ⟨isActive, sameJob⟩ := Option.filter_eq_some_iff.mp active
  obtain ⟨found, -⟩ := Option.filter_eq_some_iff.mp isActive
  obtain ⟨task, there, named, external⟩ := belongs.kept entries found
  rw [external, beq_iff_eq] at sameJob
  exact ⟨task, there, named, ofOption_injective sameJob⟩

/-- A request that is skipped has read the job while a poll for it was sent and not yet
consumed. -/
theorem skipped_poll_is_pending (lib : QueueLibrary) (issued : q.Issued)
    (unmarked : ∀ i, (requests i).Unmarked)
    (run : Interleaved pollEnvironment (.start (fun i => (requests i).program lib) q) steps c)
    (provided : ∀ step ∈ steps, ProviderUnmarked step.event)
    (settled : ∀ step ∈ steps, step.before.shared.Settled) {i : ι} {principal : Principal}
    {jobId : UUID} {requestId : Option String} {response : MediaGenerationJobEnqueueResponse}
    (request : requests i = .enqueue principal jobId requestId)
    (returned : c.threads i = .ret (.ok (.enqueued response))) (skipped : response.queued = false) :
    ∃ step ∈ steps, step.thread = i ∧ step.before.shared.storage.job.status = .running ∧
      ∃ task ∈ step.before.shared.sent, task ∉ step.before.shared.consumed ∧
        response.taskId = lib.str (.str task.id) := by
  have run' : Interleaved (pollEnvironment.restrict fun _ => ProviderUnmarked)
      (.start (fun i => (requests i).program lib) q) steps c := run.restrict provided
  have learnt := markers_learnt lib q.storage.job unmarked
  have start : Belongs (.marked q.known) q.storage.job q.storage.job := ⟨rfl, rfl, rfl, issued⟩
  -- the rows that the request has read, by its own history
  let rows : MediaGenerationJob → Prop := fun job => ∃ e ∈ c.history i, Brings job e
  have reads : ∀ e ∈ c.history i, PollReads rows e := by
    intro e mem
    obtain ⟨effect, answer⟩ := e
    cases effect with
    | media effect =>
      cases effect with
      | getJob jobId =>
        cases answer with
        | error f => exact trivial
        | ok found => exact fun job isFound => ⟨_, mem, isFound⟩
      | findJobs externalJobId providerKey =>
        cases answer with
        | error f => exact trivial
        | ok found => exact fun job isFound => ⟨_, mem, isFound⟩
      | _ => exact trivial
    | _ => exact trivial
  have post := (enqueue_reads lib principal jobId requestId).along
    (request ▸ run.reaches i) reads
  rw [returned] at post
  obtain ⟨job, entries, ⟨e, read, brings⟩, running, active, named⟩ := post response rfl skipped
  obtain ⟨step, taken, own, isRead⟩ := run.taken_of_mem read
  obtain ⟨earlier, after, before, answered⟩ := run'.reached_of_mem taken
  rw [← isRead] at brings
  cases eq_of_brings brings answered.2.1
  obtain ⟨task, isSent, name, external⟩ := active_poll_sent (learnt.along start before).1 active
  refine ⟨step, taken, own, running, task, isSent, ?_, ?_⟩
  · exact fun isConsumed => settled step taken running task isConsumed external
  · rw [named, name]
    rfl

end Runs

namespace MediaStudio

def queueLibrary : QueueLibrary :=
  { plainLibrary with
    isoformat := fun _ => ""
    str := fun value => match value with
      | .str text => text
      | _ => "" }

def runningQueue : PollQueue :=
  { storage :=
      { job :=
          { (queuedJob [1]).job with
            userId := some 11
            status := .running
            externalJobId := some "provider-task-1" } } }

variable (q : PollQueue)

def waiting : Option PollTask := q.sent.find? fun task => task ∉ q.taken

def runningAnswer (s : MediaStorage) : (effect : MediaEffect) → MediaAnswer effect
  | .poll _ => .ok { status := .running }
  | effect => answer noneLost s effect

theorem runningAnswer_fits (s : MediaStorage) (effect : MediaEffect) :
    s.Answers effect (runningAnswer s effect) := by
  cases effect with
  | poll job => exact trivial
  | _ => exact answer_fits noneLost s _

def pollAnswer : (effect : PollEffect) → PollAnswer effect
  | .media effect => runningAnswer q.storage effect
  | .sendPoll _ _ _ =>
    if "poll-1" ∈ q.sent.map (·.id) then .error (.unavailable "OperationalError")
    else .ok "poll-1"
  | .takePoll => (waiting q).getD
      { id := "", jobId := 0, tenantId := 0, actorId := none, requestId := none,
        externalJobId := none }
  | .pollDone _ => ()

def isReady : PollEffect → Bool
  | .takePoll => (waiting q).isSome
  | _ => true

theorem pollAnswer_fits (effect : PollEffect) (ready : isReady q effect = true) :
    q.Answers effect (pollAnswer q effect) := by
  cases effect with
  | media effect => exact runningAnswer_fits q.storage effect
  | sendPoll job principal requestId =>
    by_cases there : "poll-1" ∈ q.sent.map (·.id)
    · simp [pollAnswer, there, PollQueue.Answers]
    · simp [pollAnswer, there, PollQueue.Answers]
  | takePoll =>
    obtain ⟨task, found⟩ := Option.isSome_iff_exists.mp ready
    have isFree := List.find?_some (p := fun task => decide (task ∉ q.taken)) found
    have free := of_decide_eq_true isFree
    change (waiting q).getD _ ∈ q.sent ∧ (waiting q).getD _ ∉ q.taken
    rw [found]
    exact ⟨List.mem_of_find?_eq_some found, free⟩
  | pollDone task => exact trivial

def pollOracle (effect : PollEffect) : PollAnswer effect × PollQueue :=
  (pollAnswer q effect, q.next ⟨effect, pollAnswer q effect⟩)

variable {n : Nat}

abbrev PollConfig (n : Nat) := Config (Fin n) PollEffect PollAnswer PollRequest.Result PollQueue

abbrev PollTaken (n : Nat) := Taken (Fin n) PollEffect PollAnswer PollRequest.Result PollQueue

def pollStart (requests : Fin n → PollRequest) : PollConfig n :=
  .start (fun i => (requests i).program queueLibrary) runningQueue

def pollTurns (requests : Fin n → PollRequest) (turns : List (Fin n)) :
    List (PollTaken n) × PollConfig n :=
  Process.takeTurns pollOracle turns (pollStart requests)

theorem pollTurns_run (requests : Fin n → PollRequest) (turns : List (Fin n))
    (ready : ∀ step ∈ (pollTurns requests turns).1,
      isReady step.before.shared step.event.1 = true) :
    Interleaved pollEnvironment (pollStart requests) (pollTurns requests turns).1
      (pollTurns requests turns).2 := by
  refine Process.takeTurns_run_where .start turns ?_
  intro step mem
  exact ⟨pollAnswer_fits _ _ (ready step mem), rfl⟩

def enqueuedTwice : Fin 2 → PollRequest := fun _ => .enqueue owner 7 none

def twoRequests : List (PollTaken 2) × PollConfig 2 :=
  pollTurns enqueuedTwice (Process.turnsOf (List.replicate 7 0 ++ List.replicate 5 1))

theorem second_poll_is_skipped :
    ∃ step ∈ twoRequests.1, step.thread = 1 ∧
      step.before.shared.storage.job.status = .running ∧
      ∃ task ∈ step.before.shared.sent, task ∉ step.before.shared.consumed ∧
        "poll-1" = queueLibrary.str (.str task.id) := by
  have unmarked : runningQueue.storage.job.metadata.get "poll_queue" = none := by decide +kernel
  have issued : runningQueue.Issued := by
    intro entries found
    change (runningQueue.storage.job.metadata.get "poll_queue").bind _ = _ at found
    rw [unmarked] at found
    cases found
  have returned : (twoRequests.2.threads 1).returned =
      some (.ok (.enqueued ⟨7, "poll-1", false⟩)) := by decide +kernel
  have plain : ∀ i, (enqueuedTwice i).Unmarked := fun _ => trivial
  exact skipped_poll_is_pending queueLibrary issued plain
    (pollTurns_run enqueuedTwice _ (by decide +kernel)) (by decide +kernel) (by decide +kernel) rfl
    (Process.Program.eq_ret_of_returned returned) rfl

def enqueuedAgain : Fin 3 → PollRequest
  | 0 | 2 => .enqueue owner 7 none
  | 1 => .worker

def polledOnce : List (PollTaken 3) × PollConfig 3 :=
  pollTurns enqueuedAgain
    (Process.turnsOf (List.replicate 7 0 ++ List.replicate 11 1 ++ List.replicate 5 2))

theorem running_job_is_starved :
    ¬ ∀ (requests : Fin 3 → PollRequest) (steps : List (PollTaken 3)) (c : PollConfig 3)
        (response : MediaGenerationJobEnqueueResponse),
      Interleaved pollEnvironment (pollStart requests) steps c →
      requests 2 = .enqueue owner 7 none →
      c.threads 2 = .ret (.ok (.enqueued response)) → response.queued = false →
      ∃ step ∈ steps, step.thread = 2 ∧
        ∃ task ∈ step.before.shared.sent, task ∉ step.before.shared.consumed := by
  intro pending
  have returned : (polledOnce.2.threads 2).returned =
      some (.ok (.enqueued ⟨7, "poll-1", false⟩)) := by decide +kernel
  obtain ⟨step, taken, own, task, isSent, left⟩ := pending enqueuedAgain _ _ ⟨7, "poll-1", false⟩
    (pollTurns_run enqueuedAgain _ (by decide +kernel)) rfl
    (Process.Program.eq_ret_of_returned returned) rfl
  have consumed : ∀ step ∈ polledOnce.1, step.thread = 2 →
      ∀ task ∈ step.before.shared.sent, task ∈ step.before.shared.consumed := by decide +kernel
  exact left (consumed step taken own task isSent)

end MediaStudio
end AgentHive
