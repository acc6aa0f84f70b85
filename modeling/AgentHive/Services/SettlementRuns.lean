import AgentHive.Services.MediaReservations
import AgentHive.Services.MediaSettlement

/-!
The operations that move a media job to a terminal status, each run alone with database
steps that may fail.

Up to the closing an operation only reads, or moves a queued job to running. From there on
the closing is all or nothing.
-/

namespace AgentHive

open Process (Action Keeping)
open MediaBudget MediaGeneration MediaSession

variable {lost : Prop} {start s : MediaStorage} {ended : MediaGenerationJob}
  {v : Option LoadedJob}

structure Quiet (start : MediaStorage) (v : Option LoadedJob) (s : MediaStorage) : Prop where
  read : HasRead (· = s.job) v
  nothing : NothingOf start s

structure LeftAs (s : MediaStorage) {α : Type} (P : α → Prop) (r : Except Exc α)
    (v : Option LoadedJob) (s' : MediaStorage) : Prop where
  same : s' = s
  read : HasRead (· = s.job) v
  returns : ∀ a, r = .ok a → P a

variable {α : Type} {m : MediaStep α} {P : α → Prop}

theorem Reading.ends (reading : Reading (· = s.job) m P) (read : HasRead (· = s.job) v) :
    JobEnds lost m v s (LeftAs s P) := by
  have alone : JobEnds lost m v s fun r v' s' => s' = s ∧ HasRead (· = s.job) v' ∧
      ∀ a, r = .ok a → P a := by
    refine reading.alone (J := (· = s)) ?_ ?_ read rfl
    · intro s₁ e r s₂ same answered
      obtain ⟨-, answers, -⟩ := answered
      rw [same] at answers
      cases e with
      | getJob jobId =>
        cases r with
        | error f => exact trivial
        | ok found =>
          intro job mem
          rw [(answers : found = if s.job.id = jobId then some s.job else none)] at mem
          split at mem
          · exact (Option.some.inj mem).symm
          · cases mem
      | findJobs externalJobId providerKey =>
        cases r with
        | error f => exact trivial
        | ok found => exact answers
      | _ => exact trivial
    · intro s₁ e r s₂ silent answered same
      obtain ⟨-, -, rfl⟩ := answered
      rw [same]
      cases e with
      | commit writes => cases silent
      | reserveUsage usage context => cases silent
      | _ => rfl
  exact alone.mono fun r v' s' post => ⟨post.1, post.2.1, post.2.2⟩

theorem Quiet.leaves {β : Type} {f : α → MediaStep β}
    {Q : Except Exc β → Option LoadedJob → MediaStorage → Prop} (quiet : Quiet start v s)
    (leaves : JobEnds lost m v s (LeftAs s P))
    (rest : ∀ a v', Quiet start v' s → P a → JobEnds lost (f a) v' s Q)
    (raised : ∀ x v', Quiet start v' s → Q (.error x) v' s) : JobEnds lost (m >>= f) v s Q := by
  refine Action.From.seq leaves ?_ ?_
  · intro a v' s' left
    cases left.same
    exact rest a v' ⟨left.read, quiet.nothing⟩ (left.returns a rfl)
  · intro x v' s' left
    cases left.same
    exact raised x v' ⟨left.read, quiet.nothing⟩

theorem Quiet.reads {β : Type} {f : α → MediaStep β}
    {Q : Except Exc β → Option LoadedJob → MediaStorage → Prop} (quiet : Quiet start v s)
    (reading : Reading (· = s.job) m P)
    (rest : ∀ a v', Quiet start v' s → P a → JobEnds lost (f a) v' s Q)
    (raised : ∀ x v', Quiet start v' s → Q (.error x) v' s) : JobEnds lost (m >>= f) v s Q :=
  quiet.leaves (reading.ends quiet.read) rest raised

def Concluded {α : Type} (start : MediaStorage) (r : Except Exc α) (s : MediaStorage) : Prop :=
  AllOrNone start s ∧ ∀ x, r = .error x → isArchiveError x = false

theorem Harmless.concluded {x : Exc} (harmless : Harmless start x s) :
    Concluded start (.error x : Except Exc α) s := by
  refine ⟨.inl harmless.2, ?_⟩
  intro y same
  cases same
  exact harmless.1

theorem next_nothing (s : MediaStorage) : s.next ⟨.commit ⟨none, none, none⟩, .ok ()⟩ = s := by
  simp [MediaStorage.next]

def Reloaded (s : MediaStorage) {α : Type} (r : Except Exc α) (v : Option LoadedJob) : Prop :=
  match r with
  | .ok _ => v = some ⟨s.job, s.job⟩
  | .error x => isArchiveError x = false

theorem refresh_ends (job : MediaGenerationJob) :
    JobEnds lost (refresh job >>= fun _ => MediaSession.attached) v s fun r v' s' =>
      s' = s ∧ Reloaded s r v' := by
  simp only [JobEnds, refresh, Action.from_bind, Action.from_perform]
  intro answer s' answered
  obtain ⟨admissible, answers, rfl⟩ := answered
  cases answer with
  | error f => exact ⟨rfl, admissible.ordinary f rfl⟩
  | ok row =>
    cases (answers : row = _)
    exact ⟨rfl, rfl⟩

abbrev written (v : Option LoadedJob) (s : MediaStorage) : MediaStorage :=
  s.next ⟨.commit ⟨dirty v, none, none⟩, .ok ()⟩

def StoredOr (v : Option LoadedJob) (s : MediaStorage) (r : Except Exc Unit)
    (left : Option LoadedJob) (s' : MediaStorage) : Prop :=
  match r with
  | .ok _ => s' = written v s
  | .error x => isArchiveError x = false ∧ left = v ∧ s' = s

theorem commit_ends : JobEnds lost MediaSession.commit v s (StoredOr v s) := by
  refine Action.From.seq (P := fun r left s' => ∃ answer, r = .ok answer ∧
    StoredOr v s (answer.mapError Fault.toExc) left s') (flush_ends ?_ ?_) ?_ ?_
  · exact fun _ => ⟨_, rfl, rfl⟩
  · exact fun f admissible => ⟨_, rfl, admissible.ordinary f rfl, rfl, rfl⟩
  · intro answer left s' post
    obtain ⟨_, same, stored⟩ := post
    cases same
    cases answer with
    | ok done => exact stored
    | error f => exact stored
  · intro x left s' post
    obtain ⟨_, same, -⟩ := post
    cases same

theorem finish_ends {j : MediaGenerationJob} (session : v = some ⟨s.job, j⟩)
    {Q : Except Exc MediaGenerationJob → Option LoadedJob → MediaStorage → Prop}
    (ok : ∀ r v', Reloaded (written v s) r v' → Q r v' (written v s))
    (failed : ∀ x, isArchiveError x = false → Q (.error x) v s) :
    JobEnds lost MediaSession.finish v s Q := by
  have attached : JobReturns lost MediaSession.attached v s fun job v' s' => v' = v ∧ s' = s := by
    rw [session]
    exact ⟨j, rfl, rfl, rfl⟩
  refine attached.bind ?_
  intro job v' s' post
  obtain ⟨rfl, rfl⟩ := post
  refine Action.From.seq commit_ends ?_ ?_
  · intro _ left s'' post
    cases (post : s'' = _)
    refine (refresh_ends job).mono ?_
    intro r v'' s'' post
    obtain ⟨rfl, loads⟩ := post
    exact ok r v'' loads
  · intro x left s'' post
    obtain ⟨other, rfl, rfl⟩ := post
    exact failed x other

theorem JobSettled.finish (settled : JobSettled start ended v s) :
    JobEnds lost MediaSession.finish v s fun r _ s' => Concluded start r s' := by
  cases settled with
  | undone session nothing =>
    rw [session]
    refine ⟨.inl nothing, ?_⟩
    intro x same
    cases same
    rfl
  | all stored =>
    refine finish_ends stored.session ?_ ?_
    · intro r v' loads
      rw [written, stored.isClean, next_nothing]
      refine ⟨.inr (stored.allOf rfl rfl), ?_⟩
      intro x same
      rw [same] at loads
      exact loads
    · intro x other
      refine ⟨.inr (stored.allOf rfl rfl), ?_⟩
      intro y same
      cases same
      exact other
  | status isEnded empty unused =>
    refine finish_ends isEnded.session ?_ ?_
    · intro r v' loads
      have stored := isEnded.saves none none
      refine ⟨.inr (stored.allOf empty.symm ?_), ?_⟩
      · rw [unused]
        rfl
      · intro x same
        rw [same] at loads
        exact loads
    · intro x other
      exact Harmless.concluded ⟨other, isEnded.nothing⟩

theorem MediaGenerationJob.column_self [DecidableEq α] (f : MediaGenerationJob → α)
    (row job : MediaGenerationJob) : column f row ⟨row, job⟩ = f job := by
  simp only [column]
  split
  · rename_i same
    exact same.symm
  · rfl

theorem overwrite_updatedJob (payload : MediaGenerationJobStatusUpdate)
    (outputs : Option (List Dict)) (job : MediaGenerationJob) :
    job.overwrite ⟨job, updatedJob payload outputs job⟩ = updatedJob payload outputs job := by
  simp only [MediaGenerationJob.overwrite, MediaGenerationJob.column_self, updatedJob]

theorem overwrite_canceledJob (principal : Principal) (requestId : Option String)
    (job : MediaGenerationJob) :
    job.overwrite ⟨job, canceledJob principal requestId job⟩ =
      canceledJob principal requestId job := by
  simp only [MediaGenerationJob.overwrite, MediaGenerationJob.column_self, canceledJob]

theorem overwrite_calledBackJob (payload : MediaGenerationProviderCallback)
    (archived : Option (List Dict × Dict)) (job : MediaGenerationJob) :
    job.overwrite ⟨job, calledBackJob payload archived job⟩ =
      calledBackJob payload archived job := by
  simp only [MediaGenerationJob.overwrite, MediaGenerationJob.column_self, calledBackJob]

theorem Quiet.edits (quiet : Quiet start v s) (f : MediaGenerationJob → MediaGenerationJob)
    {rest : MediaStep α} {Q : Except Exc α → Option LoadedJob → MediaStorage → Prop}
    (attached : JobEnds lost rest (some ⟨s.job, f s.job⟩) s Q)
    (detached : JobEnds lost rest none s Q) : JobEnds lost (edit f >>= fun _ => rest) v s Q := by
  rw [edit, JobEnds, Action.from_bind, Action.from_modify]
  cases has : v with
  | none => exact detached
  | some loaded =>
    have row := eq_of_hasRead quiet.read has
    rw [has] at row
    cases row
    exact attached

variable {f : MediaGenerationJob → MediaGenerationJob}

theorem Quiet.closes (quiet : Quiet start v s) {close : MediaStep Unit}
    (terminal : (f s.job).status.isTerminal = true)
    (columns : s.job.overwrite ⟨s.job, f s.job⟩ = f s.job)
    (closing : ∀ v, Ended start (f s.job) v s → JobEnds lost close v s (JobSettledOr start (f s.job)))
    (detached : JobEnds lost close none s (JobSettledOr start (f s.job))) :
    JobEnds lost (edit f >>= fun _ => close >>= fun _ => MediaSession.finish) v s
      fun r _ s' => Concluded start r s' := by
  have concludes : ∀ {v}, JobEnds lost close v s (JobSettledOr start (f s.job)) →
      JobEnds lost
      (close >>= fun _ => MediaSession.finish) v s fun r _ s' => Concluded start r s' := by
    intro v closed
    refine Action.From.seq closed ?_ ?_
    · intro _ v' s' settled
      exact JobSettled.finish settled
    · intro x v' s' harmless
      exact Harmless.concluded harmless
  refine quiet.edits f (concludes ?_) (concludes detached)
  exact closing _ ⟨rfl, quiet.nothing, terminal, columns⟩

theorem Quiet.keeps (quiet : Quiet start v s) (isOpen : (f s.job).status.isTerminal = false)
    (columns : s.job.overwrite ⟨s.job, f s.job⟩ = f s.job) :
    JobEnds lost (edit f >>= fun _ => MediaSession.finish) v s fun r v' s' =>
      Concluded start r s' ∧ ∀ job, r = .ok job → Quiet start v' s' := by
  refine quiet.edits f (finish_ends rfl ?_ ?_) ?_
  · intro r v' loads
    have job : (s.next ⟨.commit ⟨dirty (some ⟨s.job, f s.job⟩), none, none⟩, .ok ()⟩).job =
        f s.job := by
      by_cases same : f s.job = s.job
      · simp [MediaStorage.next, dirty, Option.filter, same]
      · simpa [MediaStorage.next, dirty, Option.filter, same] using columns
    have nothing : NothingOf start
        (s.next ⟨.commit ⟨dirty (some ⟨s.job, f s.job⟩), none, none⟩, .ok ()⟩) := by
      refine ⟨?_, ?_, ?_⟩
      · rw [job]
        exact isOpen
      · rw [terminalRows_next]
        simpa using quiet.nothing.rows
      · simpa [MediaStorage.next] using quiet.nothing.usage
    cases r with
    | ok row =>
      cases (loads : v' = _)
      refine ⟨⟨.inl nothing, fun x other => by cases other⟩, ?_⟩
      exact fun _ _ => ⟨hasRead_loaded rfl, nothing⟩
    | error x => exact ⟨Harmless.concluded ⟨loads, nothing⟩, fun job other => by cases other⟩
  · intro x other
    exact ⟨Harmless.concluded ⟨other, quiet.nothing⟩, fun job other => by cases other⟩
  · exact ⟨Harmless.concluded ⟨rfl, quiet.nothing⟩, fun job other => by cases other⟩

theorem detached_settle (nothing : NothingOf start s) (lib : MediaLibrary) (principal : Principal)
    (requestId : Option String) :
    JobEnds lost (settleMediaGenerationBudget lib principal requestId) none s
      (JobSettledOr start ended) :=
  (⟨rfl, nothing⟩ : Harmless start _ s)

theorem detached_release (nothing : NothingOf start s) (lib : MediaLibrary) (principal : Principal)
    (requestId : Option String) (reason : String) :
    JobEnds lost (releaseMediaGenerationBudget lib principal requestId reason) none s
      (JobSettledOr start ended) :=
  (⟨rfl, nothing⟩ : Harmless start _ s)

theorem detached_close (nothing : NothingOf start s) (lib : MediaLibrary) (principal : Principal)
    (requestId : Option String) (next : MediaGenerationJobStatus) :
    JobEnds lost (closeMediaGenerationBudget lib principal requestId next) none s
      (JobSettledOr start ended) := by
  unfold closeMediaGenerationBudget
  split
  · exact detached_settle nothing lib principal requestId
  · exact detached_release nothing lib principal requestId _

theorem Ended.close (isEnded : Ended start ended v s) (lib : MediaLibrary) (principal : Principal)
    (requestId : Option String) :
    JobEnds lost (closeMediaGenerationBudget lib principal requestId ended.status) v s
      (JobSettledOr start ended) := by
  unfold closeMediaGenerationBudget
  split
  · rename_i success
    exact isEnded.settle success lib principal requestId
  · rename_i failure
    exact isEnded.release failure lib principal requestId _

structure Rests (start : MediaStorage) {α : Type} (r : Except Exc α) (v : Option LoadedJob)
    (s : MediaStorage) : Prop where
  whole : AllOrNone start s
  archive : ∀ x, r = .error x → isArchiveError x = true → Quiet start v s

theorem Concluded.rests {r : Except Exc α} (concluded : Concluded start r s) :
    Rests start r v s where
  whole := concluded.1
  archive x raised isArchive := by
    rw [concluded.2 x raised] at isArchive
    cases isArchive

theorem Quiet.rests (quiet : Quiet start v s) {r : Except Exc α} :
    Rests start r v s where
  whole := .inl quiet.nothing
  archive _ _ _ := quiet

structure Advances (start : MediaStorage) (status : MediaGenerationJobStatus)
    (r : Except Exc MediaGenerationJob) (v : Option LoadedJob) (s : MediaStorage) : Prop where
  rests : Rests start r v s
  goesOn : status.isTerminal = false → ∀ job, r = .ok job → Quiet start v s

section Requests

variable (lib : MediaLibrary) (principal : Principal) (jobId : UUID) (requestId : Option String)

variable (quiet : Quiet start v s)

include quiet

theorem Quiet.raises {status : MediaGenerationJobStatus} (x : Exc) :
    Advances start status (.error x) v s where
  rests := quiet.rests
  goesOn _ job other := by cases other

theorem Quiet.update (payload : MediaGenerationJobStatusUpdate) :
    JobEnds lost (updateMediaGenerationJobStatus lib principal jobId payload requestId) v s
      (Advances start payload.status) := by
  refine quiet.reads (Reading.getOwnJob jobId) ?_ fun x v' quiet => quiet.raises x
  intro job v quiet own
  cases (own : job = s.job)
  refine quiet.reads (Reading.refuse _ _ _) ?_ fun x v' quiet => quiet.raises x
  intro _ v quiet _
  refine quiet.reads (Reading.validatedOutputs lib s.job payload.outputs) ?_
    fun x v' quiet => quiet.raises x
  intro outputs v quiet _
  by_cases terminal : payload.status.isTerminal = true
  · rw [if_pos ⟨quiet.nothing.isOpen, terminal⟩]
    refine (quiet.closes (f := updatedJob payload outputs) terminal
      (overwrite_updatedJob payload outputs s.job) ?_
      (detached_close quiet.nothing lib principal requestId _)).mono ?_
    · exact fun v isEnded => isEnded.close lib principal requestId
    · intro r v' s' concluded
      refine ⟨Concluded.rests concluded, ?_⟩
      intro isOpen
      rw [terminal] at isOpen
      cases isOpen
  · have isOpen : payload.status.isTerminal = false := by simpa using terminal
    rw [if_neg fun both => terminal both.2]
    refine (quiet.keeps (f := updatedJob payload outputs) isOpen
      (overwrite_updatedJob payload outputs s.job)).mono ?_
    intro r v' s' post
    exact ⟨Concluded.rests post.1, fun _ => post.2⟩

theorem Quiet.submitUpdate (payload : MediaGenerationJobStatusUpdate) :
    JobEnds lost (MediaGeneration.submitUpdate lib principal jobId payload requestId) v s
      (Advances start payload.status) := by
  refine quiet.reads (P := (· = payload)) (.ofExcept ?_) ?_ fun x v' quiet => quiet.raises x
  · intro validated valid
    unfold MediaGenerationJobStatusUpdate.validate at valid
    split at valid <;> cases valid
    rfl
  · intro validated v quiet same
    cases same
    exact quiet.update lib principal jobId requestId payload

theorem Quiet.cancel :
    JobEnds lost (cancelMediaGenerationJob lib principal jobId requestId) v s (Rests start) := by
  refine quiet.reads (Reading.getOwnJob jobId) ?_ fun x v' quiet => quiet.rests
  intro job v quiet own
  cases (own : job = s.job)
  refine quiet.reads (Reading.refuse _ _ _) ?_ fun x v' quiet => quiet.rests
  intro _ v quiet _
  refine (quiet.closes (f := canceledJob principal requestId) rfl
    (overwrite_canceledJob principal requestId s.job) ?_
    (detached_release quiet.nothing lib principal requestId _)).mono ?_
  · intro v isEnded
    exact isEnded.release (fun success => by cases success) lib principal requestId _
  · exact fun r v' s' concluded => Concluded.rests concluded

theorem Quiet.applyProviderResult (result : MediaProviderSubmitResult) :
    JobEnds lost (MediaGeneration.applyProviderResult lib principal jobId result requestId) v s
      (Rests start) := by
  refine quiet.reads (Reading.requireJob jobId _) ?_ fun x v' quiet => quiet.rests
  intro job v quiet _
  refine quiet.reads (Reading.archiveOutputs job result.outputs) ?_ fun x v' quiet => quiet.rests
  intro archived v quiet _
  exact (quiet.submitUpdate lib principal jobId requestId _).mono fun r v' s' post => post.rests

theorem Quiet.archiveProviderResult (executor : String)
    (result : MediaProviderSubmitResult) :
    JobEnds lost
      (MediaGeneration.archiveProviderResult lib executor principal jobId result requestId)
      v s fun _ _ s' => AllOrNone start s' := by
  refine Action.From.handled (quiet.applyProviderResult lib principal jobId requestId result) ?_ ?_
  · exact fun job v' s' post => post.whole
  · intro x v' s' post
    by_cases isArchive : isArchiveError x = true
    · rw [if_pos isArchive]
      have quiet := post.archive x rfl isArchive
      refine (quiet.submitUpdate lib principal jobId requestId _).mono ?_
      exact fun r v' s' post => post.rests.whole
    · rw [if_neg isArchive]
      exact post.whole

theorem Quiet.providerFailed (executor : String)
    (status : MediaGenerationJobStatus) (text : String) (marks : List (String × MediaValue))
    (failure : ProviderFailure) :
    JobEnds lost (MediaGeneration.providerFailed lib executor status text marks principal jobId
      requestId failure) v s fun _ _ s' => AllOrNone start s' := by
  have updates : ∀ payload : MediaGenerationJobStatusUpdate,
      JobEnds lost (MediaGeneration.submitUpdate lib principal jobId payload requestId) v s
        fun _ _ s' => AllOrNone start s' := fun payload =>
    (quiet.submitUpdate lib principal jobId requestId payload).mono
      fun r v' s' post => post.rests.whole
  cases failure with
  | provider className message metadata => exact updates _
  | exception className => exact updates _
  | cancelled => exact .inl quiet.nothing

theorem Quiet.startJob {β : Type} (job : MediaGenerationJob)
    {f : MediaGenerationJob → MediaStep β}
    (rest : ∀ job v' s', Quiet start v' s' →
      JobEnds lost (f job) v' s' fun _ _ s' => AllOrNone start s') :
    JobEnds lost (MediaGeneration.startJob lib principal jobId requestId job >>= f) v s
      fun _ _ s' => AllOrNone start s' := by
  refine Action.From.seq (P := fun r v' s' => AllOrNone start s' ∧
    ∀ job, r = .ok job → Quiet start v' s') ?_ ?_ ?_
  · unfold MediaGeneration.startJob
    split
    · refine Action.From.seq (quiet.submitUpdate lib principal jobId requestId _) ?_ ?_
      · intro updated v' s' post
        have quiet := post.goesOn rfl updated rfl
        have again : JobEnds lost (requireJob jobId
            "Media generation job disappeared after status transition.") v' s' _ :=
          (Reading.requireJob jobId _).ends quiet.read
        refine again.mono ?_
        intro r v s left
        cases left.same
        exact ⟨.inl quiet.nothing, fun _ _ => ⟨left.read, quiet.nothing⟩⟩
      · intro x v' s' post
        exact ⟨post.rests.whole, fun job other => by cases other⟩
    · exact ⟨.inl quiet.nothing, fun _ _ => quiet⟩
  · exact fun job v' s' post => rest job v' s' (post.2 job rfl)
  · exact fun x v' s' post => post.1

theorem Quiet.readsWhole {β : Type} {m : MediaStep α} {P : α → Prop} {f : α → MediaStep β} (reading : Reading (· = s.job) m P)
    (rest : ∀ a v', Quiet start v' s → P a →
      JobEnds lost (f a) v' s fun _ _ s' => AllOrNone start s') :
    JobEnds lost (m >>= f) v s fun _ _ s' => AllOrNone start s' :=
  quiet.reads reading rest fun _ _ quiet => .inl quiet.nothing

theorem Quiet.execute :
    JobEnds lost (executeMediaGenerationJob lib principal jobId requestId) v s
      fun _ _ s' => AllOrNone start s' := by
  refine quiet.readsWhole (Reading.getOwnJob jobId) ?_
  intro job v quiet _
  refine quiet.readsWhole (Reading.ensureRunnable job) ?_
  intro _ v quiet _
  refine quiet.readsWhole (Reading.refuse _ _ _) ?_
  intro _ v quiet _
  refine quiet.startJob lib principal jobId requestId job ?_
  intro job v s quiet
  refine quiet.readsWhole (Reading.ask trivial) ?_
  intro adapter v quiet _
  refine quiet.readsWhole (P := fun _ => True) (.ofExcept fun _ _ => trivial) ?_
  intro _ v quiet _
  refine quiet.readsWhole (Reading.ask trivial) ?_
  intro answer v quiet _
  cases answer with
  | error failure => exact quiet.providerFailed lib principal jobId requestId _ _ _ _ failure
  | ok result => exact quiet.archiveProviderResult lib principal jobId requestId _ result

theorem Quiet.poll :
    JobEnds lost (pollMediaGenerationJob lib principal jobId requestId) v s
      fun _ _ s' => AllOrNone start s' := by
  refine quiet.readsWhole (Reading.getOwnJob jobId) ?_
  intro job v quiet _
  refine quiet.readsWhole (Reading.ensureRunnable job) ?_
  intro _ v quiet _
  refine quiet.readsWhole (Reading.refuse _ _ _) ?_
  intro _ v quiet _
  refine quiet.readsWhole (Reading.refuse _ _ _) ?_
  intro _ v quiet _
  refine quiet.readsWhole (Reading.ask trivial) ?_
  intro adapter v quiet _
  refine quiet.readsWhole (P := fun _ => True) (.ofExcept fun _ _ => trivial) ?_
  intro _ v quiet _
  refine quiet.readsWhole (Reading.ask trivial) ?_
  intro answer v quiet _
  cases answer with
  | error failure => exact quiet.providerFailed lib principal jobId requestId _ _ _ _ failure
  | ok result => exact quiet.archiveProviderResult lib principal jobId requestId _ _

end Requests

theorem commit_leaves (read : HasRead (· = s.job) v) :
    JobEnds lost MediaSession.commit v s (LeftAs s fun _ => True) := by
  have clean : dirty v = none := by
    cases has : v with
    | none => rfl
    | some loaded =>
      have row := eq_of_hasRead read has
      rw [has] at row
      cases row
      simp [dirty]
  refine Action.From.seq (P := LeftAs s fun _ => True) (flush_ends ?_ ?_) ?_ ?_
  · intro _
    rw [clean, next_nothing]
    refine ⟨rfl, ?_, fun _ _ => trivial⟩
    cases has : v with
    | none => exact hasRead_none
    | some loaded =>
      have row := eq_of_hasRead read has
      rw [has] at row
      cases row
      exact hasRead_loaded rfl
  · exact fun f _ => ⟨rfl, read, fun _ _ => trivial⟩
  · intro answer v' s' left
    cases answer with
    | ok done => exact ⟨left.same, left.read, fun _ _ => trivial⟩
    | error f => exact ⟨left.same, left.read, fun _ _ => trivial⟩
  · exact fun x v' s' left => ⟨left.same, left.read, fun _ _ => trivial⟩

theorem raise_leaves (read : HasRead (· = s.job) v)
    (raises : ∀ v, HasRead (· = s.job) v → JobEnds lost m v s (LeftAs s P)) :
    JobEnds lost (MediaSession.attached >>= fun _ => MediaSession.commit >>= fun _ => m) v s
      (LeftAs s P) := by
  refine Action.From.seq (Reading.attached.ends read) ?_ ?_
  · intro job v' s' left
    cases left.same
    refine Action.From.seq (commit_leaves left.read) ?_ ?_
    · intro _ v' s' left
      cases left.same
      exact raises v' left.read
    · intro x v' s' left
      exact ⟨left.same, left.read, fun a other => by cases other⟩
  · intro x v' s' left
    exact ⟨left.same, left.read, fun a other => by cases other⟩

theorem throw_leaves (x : Exc) (read : HasRead (· = s.job) v) :
    JobEnds lost (Action.throw x : MediaStep α) v s (LeftAs s P) :=
  ⟨rfl, read, fun a other => by cases other⟩

theorem callbackFailed_leaves (code : Nat) (detail : String) (read : HasRead (· = s.job) v) :
    JobEnds lost (callbackFailed code detail : MediaStep α) v s (LeftAs s P) :=
  raise_leaves read fun _ read => throw_leaves _ read

theorem ensureCallbackTransition_leaves (job : MediaGenerationJob)
    (payload : MediaGenerationProviderCallback) (read : HasRead (· = s.job) v) :
    JobEnds lost (ensureCallbackTransition job payload) v s (LeftAs s fun _ => True) := by
  refine Action.From.handled ((Reading.refuse _ _ _).ends read) ?_ ?_
  · exact fun _ v' s' left => ⟨left.same, left.read, fun _ _ => trivial⟩
  · intro x v' s' left
    cases left.same
    exact raise_leaves left.read fun _ read => throw_leaves x read

theorem archiveCallbackOutputs_leaves (job : MediaGenerationJob) (outputs : Option (List Dict))
    (read : HasRead (· = s.job) v) :
    JobEnds lost (archiveCallbackOutputs job outputs) v s (LeftAs s fun _ => True) := by
  cases outputs with
  | none => exact ⟨rfl, read, fun _ _ => trivial⟩
  | some outputs =>
    have archives : Reading (· = s.job) (some <$> archiveOutputs job outputs) fun _ => True := by
      rw [map_eq_pure_bind]
      exact .bind (Reading.archiveOutputs job outputs) fun _ _ => .pure trivial
    refine Action.From.handled (archives.ends read) ?_ ?_
    · exact fun _ v' s' left => left
    · intro x v' s' left
      cases left.same
      by_cases isArchive : isArchiveError x = true
      · rw [if_pos isArchive]
        exact callbackFailed_leaves _ _ left.read
      · rw [if_neg isArchive]
        exact throw_leaves x left.read

theorem Quiet.callback (quiet : Quiet start v s) (lib : MediaLibrary)
    (payload : MediaGenerationProviderCallback) (requestId : Option String) :
    JobEnds lost (handleMediaGenerationProviderCallback lib payload requestId) v s
      fun _ _ s' => AllOrNone start s' := by
  refine quiet.readsWhole (Reading.resolveCallbackJob payload) ?_
  intro job v quiet own
  cases (own : job = s.job)
  rw [if_neg (by rw [quiet.nothing.isOpen]; exact Bool.false_ne_true)]
  refine quiet.leaves (ensureCallbackTransition_leaves s.job payload quiet.read) ?_
    fun x v' quiet => .inl quiet.nothing
  intro _ v quiet _
  refine quiet.leaves (archiveCallbackOutputs_leaves s.job payload.outputs quiet.read) ?_
    fun x v' quiet => .inl quiet.nothing
  intro archived v quiet _
  by_cases terminal : payload.status.isTerminal = true
  · rw [if_pos terminal]
    refine (quiet.closes (f := calledBackJob payload archived) terminal
      (overwrite_calledBackJob payload archived s.job) ?_
      (detached_close quiet.nothing lib _ requestId _)).mono ?_
    · exact fun v isEnded => isEnded.close lib _ requestId
    · exact fun r v' s' concluded => concluded.1
  · have isOpen : payload.status.isTerminal = false := by simpa using terminal
    rw [if_neg terminal]
    refine (quiet.keeps (f := calledBackJob payload archived) isOpen
      (overwrite_calledBackJob payload archived s.job)).mono ?_
    exact fun r v' s' post => post.1.1

/-- The settlement of a job is stored with its terminal status, or neither is: no step of the
settlement fails, or none of its rows is stored. -/
theorem settlement_is_all_or_none (lib : MediaLibrary) (request : MediaRequest)
    {start s' : MediaStorage} {result : MediaRequest.Result} {lost : Prop}
    (isOpen : start.job.status.isTerminal = false) (unretried : request.isRetry = false)
    (run : (request.program lib).Alone (settling lost) start result s') : AllOrNone start s' := by
  have quiet : Quiet start none start := ⟨hasRead_none, isOpen, rfl, rfl⟩
  have ends : JobEnds lost (request.step lib) none start fun _ _ s => AllOrNone start s := by
    cases request with
    | update principal jobId payload requestId =>
      exact (quiet.update lib principal jobId requestId payload).mono
        fun r v s post => post.rests.whole
    | cancel principal jobId requestId =>
      exact (quiet.cancel lib principal jobId requestId).mono fun r v s post => post.whole
    | retry principal jobId requestId => cases unretried
    | execute principal jobId requestId => exact quiet.execute lib principal jobId requestId
    | poll principal jobId requestId => exact quiet.poll lib principal jobId requestId
    | callback payload requestId => exact quiet.callback lib payload requestId
  exact Process.Program.from_iff_alone.mp ((Action.from_run _ _ _ _).mpr ends) result s' run

namespace MediaStudio

def canceled (rowLost : MediaStorage → PendingWrites → Bool) : MediaRequest.Result × MediaStorage :=
  ((MediaRequest.cancel owner 7 none).program plainLibrary).finish (oracle rowLost)
    (queuedJob [1, 2])

theorem oracle_fits (rowLost : MediaStorage → PendingWrites → Bool) (s : MediaStorage)
    (e : MediaEffect) : mediaEnvironment.answers s e (oracle rowLost s e).1
    (oracle rowLost s e).2 :=
  ⟨answer_fits rowLost s e, rfl⟩

theorem noneLost_settles (s : MediaStorage) (e : MediaEffect) :
    JobSettles False ⟨e, answer noneLost s e⟩ := by
  have nothing : faultOf ⟨e, answer noneLost s e⟩ = none := by
    cases e with
    | budget e => cases e <;> rfl
    | _ => rfl
  refine ⟨?_, fun _ _ => nothing, False.elim⟩
  intro f fault
  rw [nothing] at fault
  cases fault

theorem canceled_job_is_settled :
    AllOrNone (queuedJob [1, 2]) (canceled noneLost).2 ∧
      (canceled noneLost).2.job.status = .canceled := by
  have fits : ∀ s e, (settling False).answers s e (oracle noneLost s e).1 (oracle noneLost s e).2 :=
    fun s e => ⟨noneLost_settles s e, oracle_fits noneLost s e⟩
  exact ⟨settlement_is_all_or_none plainLibrary (.cancel owner 7 none) rfl rfl
    (Process.Program.finish_alone fits _ _), by decide +kernel⟩

def secondRowLost : MediaStorage → PendingWrites → Bool := fun s writes =>
  writes.ledger.isSome && !s.ledger.isEmpty

theorem second_row_is_lost :
    (queuedJob [1, 2]).job.status.isTerminal = false ∧
      ((MediaRequest.cancel owner 7 none).program plainLibrary).Alone mediaEnvironment
        (queuedJob [1, 2]) (canceled secondRowLost).1 (canceled secondRowLost).2 ∧
      ¬ AllOrNone (queuedJob [1, 2]) (canceled secondRowLost).2 := by
  refine ⟨rfl, Process.Program.finish_alone (oracle_fits secondRowLost) _ _, ?_⟩
  have ended : (canceled secondRowLost).2.job.status.isTerminal = true := by decide +kernel
  have rows : (canceled secondRowLost).2.terminalRows ≠ (queuedJob [1, 2]).terminalRows ++
      (canceled secondRowLost).2.job.terminalRows := by decide +kernel
  intro whole
  cases whole with
  | inl nothing =>
    rw [nothing.isOpen] at ended
    cases ended
  | inr all => exact rows all.rows

end MediaStudio
end AgentHive
