import AgentHive.Process.Knowledge
import AgentHive.Services.MediaReservations

/-!
The queue of polls for media jobs: the request that enqueues a poll, the worker that takes
it, and the marker in the metadata of the job by which a second request sees the first.
-/

namespace AgentHive

open Process (Action Config Environment Interleaved Program Taken)
open MediaSession MediaGeneration

structure QueueLibrary extends MediaLibrary where
  isoformat : DateTime → String
  str : PyValue → String

structure PollTask where
  id : String
  jobId : UUID
  tenantId : UUID
  actorId : Option UUID
  requestId : Option String
  externalJobId : Option String
deriving DecidableEq

inductive QueueFailure
  | unavailable (className : String)
  | raised (exc : Exc)
deriving DecidableEq

inductive PollEffect
  | media (effect : MediaEffect)
  | sendPoll (job : MediaGenerationJob) (principal : Principal) (requestId : Option String)
  | takePoll
  | pollDone (task : PollTask)

abbrev PollAnswer : PollEffect → Type
  | .media effect => MediaAnswer effect
  | .sendPoll _ _ _ => Except QueueFailure String
  | .takePoll => PollTask
  | .pollDone _ => Unit

abbrev PollEvent := Process.Event PollEffect PollAnswer

abbrev PollStep (α : Type) : Type := Action PollEffect PollAnswer (Option LoadedJob) Exc α

namespace MediaQueue

def askMedia (effect : MediaEffect) : Program PollEffect PollAnswer (MediaAnswer effect) :=
  .call (.media effect) .ret

def onJob {α : Type} (m : MediaStep α) : PollStep α := m.within askMedia

def pollTask (job : MediaGenerationJob) (principal : Principal) (requestId : Option String)
    (id : String) : PollTask :=
  { id := id
    jobId := job.id
    tenantId := principal.tenantId
    actorId := some principal.userId
    requestId := requestId
    externalJobId := job.externalJobId }

/-- The entries of a value that may be a marker. A reservation has no `task_id`. -/
def markerEntries : MediaValue → Option Dict
  | .table entries | .webhook entries _ => some entries
  | .plain _ | .reservation _ => none

def activeQueueMetadata (job : MediaGenerationJob) (key : String) : Option Dict :=
  ((job.metadata.get key).bind markerEntries).filter fun entries =>
    (entries.lookup "task_id").any PyValue.truthy &&
      entries.lookup "status_at_enqueue" == some (.str job.status.value)

def activePoll (job : MediaGenerationJob) : Option Dict :=
  (activeQueueMetadata job "poll_queue").filter fun entries =>
    (entries.lookup "external_job_id").getD .none == .ofOption job.externalJobId

variable (lib : QueueLibrary)

def pollMarker (principal : Principal) (requestId : Option String) (taskId : String)
    (now : DateTime) (job : MediaGenerationJob) : Dict :=
  [("task_id", .str taskId), ("enqueued_at", .str (lib.isoformat now)),
    ("actor_id", .uuid principal.userId), ("request_id", .ofOption requestId),
    ("status_at_enqueue", .str job.status.value),
    ("external_job_id", .ofOption job.externalJobId)]

def markedJob (marker : Dict) (job : MediaGenerationJob) : MediaGenerationJob :=
  { job with metadata := job.metadata.set "poll_queue" (.table marker) }

structure MediaGenerationJobEnqueueResponse where
  jobId : UUID
  taskId : String
  queued : Bool := true
deriving DecidableEq

def pollableJob (principal : Principal) (jobId : UUID) : MediaStep MediaGenerationJob := do
  let job ← getOwnJob principal jobId
  ensureRunnable job
  refuse (job.status ≠ .running) 409
    ("Cannot enqueue media generation poll in " ++ job.status.value ++ " status.")
  refuse (truthy job.externalJobId = false) 409
    "Cannot enqueue media generation poll before an external job id is available."
  pure job

def skipPoll (job : MediaGenerationJob) (entries : Dict) :
    PollStep MediaGenerationJobEnqueueResponse := do
  onJob commit
  pure ⟨job.id, lib.str ((entries.lookup "task_id").getD .none), false⟩

def sendPoll (principal : Principal) (requestId : Option String) (job : MediaGenerationJob) :
    PollStep MediaGenerationJobEnqueueResponse := do
  let answer : Except QueueFailure String ←
    Action.perform (PollEffect.sendPoll job principal requestId)
  match answer with
  | .error (.unavailable className) => do
    let undone ← onJob (budget .rollback)
    onJob (stored undone)
    onJob (fail 503 ("Media generation poll queue is unavailable: " ++ className ++ "."))
  | .error (.raised exc) => Action.throw exc
  | .ok taskId => do
    let now : DateTime ← onJob (Action.perform (MediaEffect.budget .utcNow))
    onJob (edit (markedJob (pollMarker lib principal requestId taskId now job)))
    onJob commit
    pure ⟨job.id, taskId, true⟩

def enqueueMediaGenerationPollForWorker (principal : Principal) (jobId : UUID)
    (requestId : Option String) : PollStep MediaGenerationJobEnqueueResponse := do
  let job ← onJob (pollableJob principal jobId)
  match activePoll job with
  | some entries => skipPoll lib job entries
  | none => sendPoll lib principal requestId job

/-- `_poll_media_generation_job_task`, with the status it returns. -/
def pollMediaGenerationJobTask (task : PollTask) : PollStep String := do
  let found ← onJob (MediaSession.getJob task.jobId)
  match found.filter fun job => job.tenantId == task.tenantId with
  | none => pure "not_found"
  | some job =>
    match task.actorId.or job.userId with
    | none => pure "missing_actor"
    | some actorId => do
      let job ← onJob (pollMediaGenerationJob lib.toMediaLibrary
        { userId := actorId, tenantId := task.tenantId, permissions := [.agentsWrite] }
        task.jobId task.requestId)
      pure job.status.value

def worker : PollStep String := do
  let task : PollTask ← Action.perform PollEffect.takePoll
  let result ← Action.tryCatch (Except.ok <$> pollMediaGenerationJobTask lib task) fun exc =>
    pure (Except.error exc)
  let _ : Unit ← Action.perform (PollEffect.pollDone task)
  Action.ofExcept result

end MediaQueue

inductive PollRequest
  | media (request : MediaRequest)
  | enqueue (principal : Principal) (jobId : UUID) (requestId : Option String)
  | worker

inductive PollOutcome
  | job (job : MediaGenerationJob)
  | enqueued (response : MediaQueue.MediaGenerationJobEnqueueResponse)
  | polled (status : String)
deriving DecidableEq

namespace PollRequest

abbrev Result : Type := Except Exc PollOutcome

def step (lib : QueueLibrary) : PollRequest → PollStep PollOutcome
  | media request => PollOutcome.job <$> MediaQueue.onJob (request.step lib.toMediaLibrary)
  | enqueue principal jobId requestId =>
    PollOutcome.enqueued <$>
      MediaQueue.enqueueMediaGenerationPollForWorker lib principal jobId requestId
  | worker => PollOutcome.polled <$> MediaQueue.worker lib

def program (lib : QueueLibrary) (request : PollRequest) : Program PollEffect PollAnswer Result :=
  (request.step lib).run none

end PollRequest

structure PollQueue where
  storage : MediaStorage
  sent : List PollTask := []
  taken : List PollTask := []
  consumed : List PollTask := []

namespace PollQueue

def next (q : PollQueue) : PollEvent → PollQueue
  | ⟨.media effect, answer⟩ => { q with storage := q.storage.next ⟨effect, answer⟩ }
  | ⟨.sendPoll job principal requestId, .ok id⟩ =>
    { q with sent := MediaQueue.pollTask job principal requestId id :: q.sent }
  | ⟨.sendPoll _ _ _, .error _⟩ => q
  | ⟨.takePoll, task⟩ => { q with taken := task :: q.taken }
  | ⟨.pollDone task, ()⟩ => { q with consumed := task :: q.consumed }

/-- A task has a new id, and a worker takes one that nobody has taken. -/
def Answers (q : PollQueue) : (effect : PollEffect) → PollAnswer effect → Prop
  | .media effect, answer => q.storage.Answers effect answer
  | .sendPoll _ _ _, .ok id => id ∉ q.sent.map (·.id)
  | .takePoll, task => task ∈ q.sent ∧ task ∉ q.taken
  | _, _ => True

end PollQueue

def pollEnvironment : Environment PollEffect PollAnswer PollQueue where
  answers q effect answer q' := q.Answers effect answer ∧ q' = q.next ⟨effect, answer⟩
  drifts q q' := q' = q

end AgentHive
