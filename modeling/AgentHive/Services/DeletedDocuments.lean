import AgentHive.Process.Protocol
import AgentHive.Services.RetrievedRows

/-!
Documents that have been deleted while other requests are under way.
-/

namespace AgentHive

open Process (Keeping Interleaved Maintained)
open KnowledgeTables (document_kept get_chunk_apply get_document_apply oracle oracle_answers
  write_keeps write_reaches)

def KnowledgeOperation.ServesDocuments : KnowledgeOperation → Prop
  | .complete _ _ | .reingest _ | .deleteDocument _ | .deleteBase | .retrieve _ => True
  | _ => False

open KnowledgeSession KnowledgeService

def FindsLive (tables : KnowledgeTables) (documentId : UUID) : Prop :=
  ∃ row, tables.documents.get documentId = some row ∧ row.Live

def RemovesChunks (tables : KnowledgeTables) (writes : List KnowledgeWrite) : Prop :=
  ∀ id chunk, tables.chunks.get id = some chunk → Marks writes chunk.documentId →
    ∃ ids, .deleteChunks ids ∈ writes ∧ id ∈ ids

abbrev KnowledgeStep (ι : Type) : Type :=
  Process.Taken ι KnowledgeEffect KnowledgeAnswer (Except Exc KnowledgeResponse) KnowledgeTables

abbrev KnowledgeConfig (ι : Type) : Type :=
  Process.Config ι KnowledgeEffect KnowledgeAnswer (Except Exc KnowledgeResponse) KnowledgeTables

/-- What an ingestion commits finds its document live, and what a deletion commits finds no
chunk of its documents that has come since the deletion looked for them. -/
def KeptApart {ι : Type} (calls : ι → KnowledgeCall) (step : KnowledgeStep ι) : Prop :=
  match step.event with
  | ⟨.commit writes, .ok _⟩ =>
    match (calls step.thread).operation with
    | .complete documentId _ | .reingest documentId =>
      writes ≠ [] → FindsLive step.before.shared documentId
    | .deleteDocument _ | .deleteBase => RemovesChunks step.before.shared writes
    | _ => True
  | _ => True

section Document

variable {tables after : KnowledgeTables} {w : KnowledgeWrite} {writes : List KnowledgeWrite}
  {tenantId knowledgeBaseId documentId : UUID}

def LiveIn (tenantId knowledgeBaseId documentId : UUID) (tables : KnowledgeTables) : Prop :=
  ∃ row, tables.documents.get documentId = some row ∧ row.tenantId = tenantId ∧
    row.knowledgeBaseId = knowledgeBaseId ∧ row.Live

structure Gone (documentId : UUID) (tables : KnowledgeTables) : Prop where
  deleted : ∃ row, tables.documents.get documentId = some row ∧ row.status = .deleted ∧
    row.deletedAt ≠ none
  bare : ∀ id chunk, tables.chunks.get id = some chunk → chunk.documentId ≠ documentId

inductive DeletionWrite (documentId : UUID) : KnowledgeWrite → Prop
  | document {id : UUID} {loaded : KnowledgeDocument} {now : Instant}
      (there : loaded.deletedAt = none) (live : id = documentId → loaded.status ≠ .deleted) :
      DeletionWrite documentId (.updateDocument id loaded (deletedDocument loaded now))
  | base (id : UUID) (loaded row : KnowledgeBase) :
      DeletionWrite documentId (.updateBase id loaded row)
  | chunks (ids : List UUID) : DeletionWrite documentId (.deleteChunks ids)

theorem LiveIn.ingest {size : Option Nat} {ingested : UUID} (own : IngestWrite size ingested w)
    (applied : tables.apply w = some after) (live : LiveIn tenantId knowledgeBaseId documentId tables) :
    LiveIn tenantId knowledgeBaseId documentId after := by
  refine document_kept applied (fun loaded new row eq known => ?_) live
  obtain ⟨ofTenant, ofBase, there, status⟩ := known
  cases eq
  cases own with
  | document update =>
    refine ⟨ofTenant, ofBase, ?_, ?_⟩
    · simp only [KnowledgeDocument.update, update.deletedAt, column_unchanged]
      exact there
    · simp only [KnowledgeDocument.update, column]
      split
      · exact status
      · exact update.notDeleted

theorem Gone.ingest {size : Option Nat} {ingested : UUID} (other : ingested ≠ documentId)
    (own : IngestWrite size ingested w) (applied : tables.apply w = some after)
    (gone : Gone documentId tables) : Gone documentId after := by
  obtain ⟨deleted, bare⟩ := gone
  refine ⟨document_kept applied (fun loaded new row eq _ => ?_) deleted, fun id chunk found => ?_⟩
  · cases eq
    cases own with
    | document => exact absurd rfl other
  · rw [get_chunk_apply applied] at found
    cases own with
    | document => exact bare id chunk found
    | chunk own =>
      dsimp only at found
      split at found
      · cases found
        rw [own]
        exact other
      · exact bare id chunk found
    | ftsText | embedding =>
      obtain ⟨before, earlier, rfl⟩ := Option.map_eq_some_iff.mp found
      have unlike := bare id before earlier
      split
      · exact unlike
      · exact unlike
    | chunks ids =>
      dsimp only at found
      split at found
      · cases found
      · exact bare id chunk found

theorem chunk_of_deletion (own : DeletionWrite documentId w) (applied : tables.apply w = some after)
    {id : UUID} {chunk : KnowledgeChunk} (found : after.chunks.get id = some chunk) :
    tables.chunks.get id = some chunk := by
  rw [get_chunk_apply applied] at found
  cases own with
  | chunks ids =>
    dsimp only at found
    split at found
    · cases found
    · exact found
  | _ => exact found

def Deleted (documentId : UUID) (tables : KnowledgeTables) : Prop :=
  ∃ row, tables.documents.get documentId = some row ∧ row.status = .deleted ∧ row.deletedAt ≠ none

variable {loaded : KnowledgeDocument}

theorem deletedAt_of_marked {row : KnowledgeDocument} {now : Instant}
    (there : loaded.deletedAt = none) :
    (row.update loaded (deletedDocument loaded now)).deletedAt ≠ none := by
  have changed : some now ≠ loaded.deletedAt := by
    rw [there]
    intro eq
    cases eq
  rw [show (row.update loaded (deletedDocument loaded now)).deletedAt = some now from
    column_changed changed]
  intro eq
  cases eq

theorem Deleted.deletion (own : DeletionWrite documentId w) (applied : tables.apply w = some after)
    (deleted : Deleted documentId tables) : Deleted documentId after := by
  refine document_kept applied (fun loaded new row eq known => ?_) deleted
  cases eq
  cases own with
  | @document _ _ now there live =>
    refine ⟨?_, deletedAt_of_marked there⟩
    rw [show (row.update loaded (deletedDocument loaded now)).status =
      column row.status loaded.status .deleted from rfl, known.1]
    exact ite_self _

theorem Gone.deletion (own : DeletionWrite documentId w) (applied : tables.apply w = some after)
    (gone : Gone documentId tables) : Gone documentId after where
  deleted := Deleted.deletion own applied gone.deleted
  bare id chunk found := gone.bare id chunk (chunk_of_deletion own applied found)

theorem LiveIn.deletion (applied : tables.apply w = some after)
    (unmarked : ∀ loaded row, w ≠ .updateDocument documentId loaded row)
    (live : LiveIn tenantId knowledgeBaseId documentId tables) :
    LiveIn tenantId knowledgeBaseId documentId after :=
  document_kept applied (fun loaded new _ eq _ => absurd eq (unmarked loaded new)) live

theorem deleted_of_marked {now : Instant} (there : loaded.deletedAt = none)
    (live : loaded.status ≠ .deleted)
    (applied : tables.apply (.updateDocument documentId loaded (deletedDocument loaded now)) =
      some after) (stored : ∃ row, tables.documents.get documentId = some row) :
    Deleted documentId after := by
  obtain ⟨row, stored⟩ := stored
  have found := get_document_apply applied documentId
  simp only [stored, Option.map_some, if_true] at found
  exact ⟨_, found, column_changed live.symm, deletedAt_of_marked there⟩

theorem gone_of_deletion (own : ∀ w ∈ writes, DeletionWrite documentId w)
    (written : tables.write writes = some after) (marked : Marks writes documentId)
    (removes : RemovesChunks tables writes)
    (stored : ∃ row, tables.documents.get documentId = some row) : Gone documentId after := by
  obtain ⟨loaded, now, mem⟩ := marked
  constructor
  · refine write_reaches
      (I := fun tables => ∃ row, tables.documents.get documentId = some row)
      (K := Deleted documentId) mem ?_ ?_ ?_ written stored
    · intro v inside tables after applied there
      exact KnowledgeTables.document_of_apply applied there
    · intro tables after applied there
      cases own _ mem with
      | document undeleted live => exact deleted_of_marked undeleted (live rfl) applied there
    · intro v inside tables after applied there
      exact there.deletion (own v inside) applied
  · intro id chunk found same
    have before : tables.chunks.get id = some chunk := by
      refine write_keeps (P := fun later => ∀ chunk,
        later.chunks.get id = some chunk → tables.chunks.get id = some chunk) ?_ written
        (fun _ found => found) chunk found
      intro earlier later v inside applied kept chunk found
      exact kept chunk (chunk_of_deletion (own v inside) applied found)
    obtain ⟨ids, removed, named⟩ := removes id chunk before ⟨loaded, now, by rwa [same]⟩
    have absent : after.chunks.get id = none := by
      refine write_reaches (I := fun _ => True)
        (K := fun tables => tables.chunks.get id = none) removed (fun _ _ _ _ _ _ => trivial) ?_ ?_
        written trivial
      · intro tables after applied _
        rw [get_chunk_apply applied]
        exact if_pos named
      · intro v inside tables after applied absent
        cases left : after.chunks.get id with
        | none => rfl
        | some chunk =>
          rw [chunk_of_deletion (own v inside) applied left] at absent
          cases absent
    rw [found] at absent
    cases absent

end Document

section Requests

variable {database : KnowledgeDatabase} {tables after : KnowledgeTables}
  {tenantId knowledgeBaseId documentId : UUID}

def LiveOrGone (tenantId knowledgeBaseId documentId : UUID) (tables : KnowledgeTables) : Prop :=
  LiveIn tenantId knowledgeBaseId documentId tables ∨ Gone documentId tables

def ReadsUndeleted (documentId : UUID) : KnowledgeEvent → Prop
  | ⟨.ask (.getDocument id), .ok (some row)⟩ =>
    id = documentId → row.deletedAt = none → row.status ≠ .deleted
  | ⟨.ask (.documentsOf _ _), .ok rows⟩ => ∀ e ∈ rows, e.2.Live
  | _ => True

theorem readsUndeleted {event : KnowledgeEvent}
    (held : LiveOrGone tenantId knowledgeBaseId documentId tables)
    (answered : tables.Answers database event.1 event.2 after) : ReadsUndeleted documentId event := by
  unfold ReadsUndeleted
  split
  · intro same there
    have honest := answered.2 _ rfl
    simp only [KnowledgeTables.read, same] at honest
    rcases held with live | gone
    · obtain ⟨row, stored, _, _, undeleted⟩ := live
      rw [stored] at honest
      cases honest
      exact undeleted.2
    · obtain ⟨row, stored, _, deletedAt⟩ := gone.deleted
      rw [stored] at honest
      cases honest
      exact absurd there deletedAt
  · intro e mem
    rw [answered.2 _ rfl] at mem
    have kept := List.of_mem_filter mem
    simp only [Bool.and_eq_true, decide_eq_true_eq] at kept
    exact kept.2
  · trivial

def KnowledgeCall.Commits (call : KnowledgeCall) (documentId : UUID) (w : KnowledgeWrite) : Prop :=
  match call.operation with
  | .complete id payload => IngestWrite payload.sizeBytes id w
  | .reingest id => IngestWrite none id w
  | .deleteDocument _ | .deleteBase => DeletionWrite documentId w
  | _ => False

theorem endpoint_commits {installation : KnowledgeInstallation} (call : KnowledgeCall)
    (serves : call.operation.ServesDocuments) :
    Told (ReadsUndeleted documentId) (call.Commits documentId) (call.endpoint installation)
      fun _ => True := by
  obtain ⟨principal, knowledgeBaseId, operation⟩ := call
  cases operation with
  | complete id payload =>
    refine .bind (Q := fun _ => True) ?_ fun _ _ => .pure trivial
    exact completeDocumentUpload_writes _ fun _ _ _ w own => own
  | reingest id =>
    refine .bind (Q := fun _ => True) ?_ fun _ _ => .pure trivial
    exact reingestKnowledgeDocument_writes _ fun _ _ _ w own => own
  | deleteDocument id =>
    refine .bind (deleteKnowledgeDocument_writes _ (fun _ _ _ _ => .base _ _ _)
      (fun ids => .chunks ids) ?_) fun _ _ => .pure trivial
    exact fun row told _ there now => .document there fun same => told same there
  | deleteBase =>
    refine .bind (deleteKnowledgeBase_writes _ (fun _ _ _ _ => .base _ _ _)
      (fun ids => .chunks ids) ?_) fun _ _ => .pure trivial
    exact fun rows told e mem now => .document (told e mem).1 fun _ => (told e mem).2
  | retrieve request =>
    refine .bind (Q := fun _ => True) ?_ fun _ _ => .pure trivial
    exact told_of_writes (runRetrievalTest_writes _ _)
  | _ => exact serves.elim

end Requests

section Steps

variable {ι : Type} {calls : ι → KnowledgeCall} {database : KnowledgeDatabase}
  {before after : KnowledgeTables} {tenantId knowledgeBaseId documentId : UUID}
  {event : KnowledgeEvent}

inductive Does (documentId : UUID) (before after : KnowledgeTables) : KnowledgeEvent → Prop
  | leaves {event : KnowledgeEvent} (same : after = before)
      (idle : ∀ writes, event = ⟨.commit writes, .ok ()⟩ → writes = []) :
      Does documentId before after event
  | ingests {size : Option Nat} {id : UUID} {writes : List KnowledgeWrite}
      (own : ∀ w ∈ writes, IngestWrite size id w) (live : FindsLive before id)
      (written : before.write writes = some after) :
      Does documentId before after ⟨.commit writes, .ok ()⟩
  | deletes {writes : List KnowledgeWrite} (own : ∀ w ∈ writes, DeletionWrite documentId w)
      (removes : RemovesChunks before writes) (written : before.write writes = some after) :
      Does documentId before after ⟨.commit writes, .ok ()⟩

theorem does_ingest {size : Option Nat} {id : UUID} {writes : List KnowledgeWrite}
    (own : ∀ w ∈ writes, IngestWrite size id w) (live : writes ≠ [] → FindsLive before id)
    (written : before.write writes = some after) :
    Does documentId before after ⟨.commit writes, .ok ()⟩ := by
  by_cases empty : writes = []
  · subst empty
    refine .leaves (Option.some.inj written).symm fun writes eq => ?_
    cases eq
    rfl
  · exact .ingests own (live empty) written

theorem does_step {step : KnowledgeStep ι} (apart : KeptApart calls step)
    (promised : CommitsOnly ((calls step.thread).Commits documentId) step.event.1)
    (answered : step.before.shared.Answers database step.event.1 step.event.2 after) :
    Does documentId step.before.shared after step.event := by
  obtain ⟨config, thread, e, r⟩ := step
  cases e with
  | commit writes =>
    rcases answered with done | refused
    · obtain ⟨ok, written⟩ := done
      simp only at ok
      subst ok
      simp only [KeptApart] at apart
      simp only [CommitsOnly, KnowledgeCall.Commits] at promised
      cases operation : (calls thread).operation with
      | complete id payload | reingest id =>
        simp only [operation] at apart promised
        exact does_ingest promised apart written
      | deleteDocument | deleteBase =>
        simp only [operation] at apart promised
        exact .deletes promised apart written
      | _ =>
        simp only [operation] at promised
        have empty : writes = [] := List.eq_nil_iff_forall_not_mem.mpr promised
        subst empty
        refine .leaves (Option.some.inj written).symm fun writes' eq => ?_
        cases eq
        rfl
    · obtain ⟨⟨x, error⟩, same⟩ := refused
      refine .leaves same fun writes' eq => ?_
      simp only at error
      rw [error] at eq
      cases eq
  | ask | newIds => exact .leaves answered.1 fun _ eq => by cases eq
  | service | utcNow | rollback => exact .leaves answered fun _ eq => by cases eq

variable (does : Does documentId before after event)

include does

theorem Gone.step (gone : Gone documentId before) :
    Gone documentId after := by
  cases does with
  | leaves same idle =>
    rw [same]
    exact gone
  | @ingests size id writes own live written =>
    have other : id ≠ documentId := by
      intro same
      obtain ⟨row, stored, _, undeleted⟩ := live
      obtain ⟨row', stored', deleted, _⟩ := gone.deleted
      rw [← same, stored] at stored'
      cases stored'
      exact undeleted deleted
    exact write_keeps (fun _ _ w mem applied held =>
      Gone.ingest other (own w mem) applied held) written gone
  | deletes own removes written =>
    exact write_keeps (fun _ _ w mem applied held =>
      Gone.deletion (own w mem) applied held) written gone

theorem LiveOrGone.step (held : LiveOrGone tenantId knowledgeBaseId documentId before) :
    LiveOrGone tenantId knowledgeBaseId documentId after := by
  rcases held with live | gone
  · cases does with
    | leaves same idle =>
      rw [same]
      exact .inl live
    | ingests own _ written =>
      exact .inl (write_keeps (fun _ _ w mem applied held =>
        LiveIn.ingest (own w mem) applied held) written live)
    | @deletes writes own removes written =>
      by_cases marked : Marks writes documentId
      · obtain ⟨row, stored, _⟩ := live
        exact .inr (gone_of_deletion own written marked removes ⟨row, stored⟩)
      · refine .inl (write_keeps (fun _ _ w mem applied held =>
          LiveIn.deletion applied ?_ held) written live)
        intro loaded row eq
        rw [eq] at mem
        cases own _ mem with
        | document => exact marked ⟨_, _, mem⟩
  · exact .inr (gone.step does)

def ShowsGone (tenantId knowledgeBaseId documentId : UUID) : KnowledgeEvent → Prop
  | ⟨.commit writes, .ok _⟩ => Marks writes documentId
  | ⟨.ask (.documentsOf tenantId' knowledgeBaseId'), .ok rows⟩ =>
    tenantId' = tenantId ∧ knowledgeBaseId' = knowledgeBaseId ∧ documentId ∉ rows.map Prod.fst
  | _ => False

theorem gone_of_shown (answered : before.Answers database event.1 event.2 after)
    (held : LiveOrGone tenantId knowledgeBaseId documentId before)
    (shown : ShowsGone tenantId knowledgeBaseId documentId event) : Gone documentId after := by
  rcases held with live | gone
  · obtain ⟨row, stored, ofTenant, ofBase, undeleted⟩ := live
    cases does with
    | @leaves event same idle =>
      unfold ShowsGone at shown
      split at shown
      · obtain ⟨loaded, now, mem⟩ := shown
        rw [idle _ rfl] at mem
        cases mem
      · obtain ⟨rfl, rfl, absent⟩ := shown
        rw [answered.2 _ rfl] at absent
        refine absurd (List.mem_map_of_mem (a := (documentId, row)) ?_) absent
        refine List.mem_filter.mpr ⟨OrderedDict.mem_entries_of_get stored, ?_⟩
        simp [ofTenant, ofBase, undeleted]
      · exact shown.elim
    | ingests own _ written =>
      obtain ⟨loaded, now, mem⟩ := shown
      cases own _ mem with
      | document update => exact absurd rfl update.notDeleted
    | deletes own removes written => exact gone_of_deletion own written shown removes ⟨row, stored⟩
  · exact gone.step does

end Steps

section Runs

variable {ι : Type} [DecidableEq ι] {installation : KnowledgeInstallation}
  {database : KnowledgeDatabase} {first : KnowledgeTables} {calls : ι → KnowledgeCall}
  {steps later : List (KnowledgeStep ι)} {c c' : KnowledgeConfig ι} {documentId : UUID}
  {row : KnowledgeDocument}

def KnowledgeCall.Deletes (call : KnowledgeCall) (documentId : UUID) (row : KnowledgeDocument) :
    Prop :=
  match call.operation with
  | .deleteDocument id => id = documentId
  | .deleteBase =>
    row.tenantId = call.principal.tenantId ∧ row.knowledgeBaseId = call.knowledgeBaseId
  | _ => False

theorem endpoint_shows {T : KnowledgeEvent → Prop} {call : KnowledgeCall}
    (deletes : call.Deletes documentId row) :
    Told T (fun _ => True) (call.endpoint installation)
      fun _ => ∃ event, T event ∧ ShowsGone row.tenantId row.knowledgeBaseId documentId event := by
  obtain ⟨principal, knowledgeBaseId, operation⟩ := call
  cases operation with
  | deleteDocument id =>
    cases deletes
    refine .bind (deleteKnowledgeDocument_writes _ (fun _ _ _ _ => trivial)
      (fun _ => trivial) fun _ _ _ _ _ => trivial) fun _ known => .pure ?_
    obtain ⟨writes, told, marked⟩ := known
    exact ⟨_, told, marked⟩
  | deleteBase =>
    obtain ⟨ofTenant, ofBase⟩ := deletes
    refine .bind (deleteKnowledgeBase_writes _ (fun _ _ _ _ => trivial) (fun _ => trivial)
      fun _ _ _ _ _ => trivial) fun _ known => .pure ?_
    obtain ⟨rows, writes, read, told, marked⟩ := known
    by_cases found : documentId ∈ rows.map Prod.fst
    · obtain ⟨e, mem, rfl⟩ := List.mem_map.mp found
      exact ⟨_, told, marked e mem⟩
    · exact ⟨_, read, ofTenant.symm, ofBase.symm, found⟩
  | _ => exact deletes.elim

omit [DecidableEq ι] in
theorem liveOrGone_maintained (serves : ∀ i, (calls i).operation.ServesDocuments)
    (stored : first.documents.get documentId = some row) (live : row.Live) :
    Maintained (knowledgeEnvironment database)
      (.start (fun i => (calls i).program installation) first) (KeptApart calls)
      (ReadsUndeleted documentId) (fun i => CommitsOnly ((calls i).Commits documentId))
      (fun _ _ => True) (LiveOrGone row.tenantId row.knowledgeBaseId documentId) where
  admissible s e r s' held answered := readsUndeleted held (by exact answered)
  promised i := ((endpoint_commits (calls i) (serves i)).run fun w mem => by cases mem).mono
    fun _ _ => trivial
  keeps step s' apart promised answered held := held.step (does_step apart promised answered)
  drifts s s' moved := by cases moved
  start := .inl ⟨row, stored, rfl, rfl, live⟩

def ReadsGone (documentId knowledgeBaseId : UUID) (event : KnowledgeEvent) : Prop :=
  ReadsUndeleted documentId event ∧ FindsOf (fun _ _ row => row.2.documentId ≠ documentId) event ∧
    ∀ base, event = ⟨.ask (.getBase knowledgeBaseId), .ok (some base)⟩ → base.ragEngine = .pgvector

def EngineIs (knowledgeBaseId : UUID) (engine : RAGEngineType) (tables : KnowledgeTables) : Prop :=
  ∀ base, tables.bases.get knowledgeBaseId = some base → base.ragEngine = engine

variable {knowledgeBaseId : UUID}

theorem engine_kept {engine : RAGEngineType} {tables after : KnowledgeTables} {e : KnowledgeEffect}
    {r : KnowledgeAnswer e} (answered : tables.Answers database e r after)
    (held : EngineIs knowledgeBaseId engine tables) : EngineIs knowledgeBaseId engine after := by
  refine (commitsOnly_true e).keeps (fun tables after w _ applied held base stored => ?_) answered held
  obtain ⟨base', before, same⟩ := KnowledgeTables.base_of_applied applied stored
  exact same.trans (held base' before)

theorem readsGone {tables after : KnowledgeTables} {event : KnowledgeEvent}
    (gone : Gone documentId tables) (engine : EngineIs knowledgeBaseId .pgvector tables)
    (answered : tables.Answers database event.1 event.2 after) :
    ReadsGone documentId knowledgeBaseId event := by
  have held : LiveOrGone 0 0 documentId tables := .inr gone
  refine ⟨readsUndeleted held answered, ?_, ?_⟩
  · refine findsOf_answered (fun tenantId base row mem => ?_) answered
    exact gone.bare row.1 row.2 (OrderedDict.get_of_mem_entries (List.mem_of_mem_filter mem))
  · intro base eq
    subst eq
    exact engine base (answered.2 _ rfl).symm

variable {request : RetrieveRequest}

theorem retrieves_nothing {principal : Principal} {good : KnowledgeWrite → Prop} :
    Told (ReadsGone documentId knowledgeBaseId) good
      (KnowledgeCall.endpoint installation ⟨principal, knowledgeBaseId, .retrieve request⟩)
      fun response => ∀ chunks, response = .retrieved chunks →
        ∀ chunk ∈ chunks, chunk.documentId ≠ documentId := by
  refine .bind (runRetrievalTest_made installation.settings
    { request with knowledgeBaseId := knowledgeBaseId } (fun e told => told.2.1) ?_) ?_
  · exact fun base told => told.2.2 base rfl
  · intro chunks made
    refine .pure fun chunks' eq chunk mem => ?_
    cases eq
    obtain ⟨row, other, of⟩ := made chunk mem
    rw [of.documentId]
    exact other

theorem gone_of_returned
    (maintained : Maintained (knowledgeEnvironment database)
      (.start (fun i => (calls i).program installation) first) (KeptApart calls)
      (ReadsUndeleted documentId) (fun i => CommitsOnly ((calls i).Commits documentId))
      (fun _ _ => True) (LiveOrGone row.tenantId row.knowledgeBaseId documentId))
    (run : Interleaved (knowledgeEnvironment database)
      (.start (fun i => (calls i).program installation) first) steps c)
    (apart : ∀ step ∈ steps, KeptApart calls step) {i : ι}
    (deletes : (calls i).Deletes documentId row) {response : KnowledgeResponse}
    (returned : c.threads i = .ret (.ok response)) : Gone documentId c.shared := by
  have reached := run.reaches i
  rw [returned] at reached
  have shows : Told (fun event => event ∈ c.history i) (fun _ => True)
      ((calls i).endpoint installation) fun _ => ∃ event, event ∈ c.history i ∧
        ShowsGone row.tenantId row.knowledgeBaseId documentId event := endpoint_shows deletes
  have known := (shows.run fun w mem => by cases mem).of_runs (reached.runs (.ret _))
    fun event mem => by simpa using mem
  obtain ⟨event, mem, shown⟩ := known response rfl
  refine maintained.since (Gone documentId)
    (fun _ => ShowsGone row.tenantId row.knowledgeBaseId documentId) ?_ ?_ ?_ (fun _ => rfl) run
    apart mem shown
  · intro step s' apart promised answered held shown
    exact gone_of_shown (does_step apart promised answered) answered held shown
  · intro step s' apart promised answered _ gone
    exact gone.step (does_step apart promised answered)
  · intro s s' moved
    cases moved

theorem gone_later
    (promised : ∀ i, (c.threads i).Meets (ReadsUndeleted documentId)
      (CommitsOnly ((calls i).Commits documentId)) fun _ => True)
    (gone : Gone documentId c.shared)
    (more : Interleaved (knowledgeEnvironment database) c later c')
    (apart : ∀ step ∈ later, KeptApart calls step) : Gone documentId c'.shared := by
  have maintained : Maintained (knowledgeEnvironment database) c (KeptApart calls)
      (ReadsUndeleted documentId) (fun i => CommitsOnly ((calls i).Commits documentId))
      (fun _ _ => True) (Gone documentId) := by
    refine ⟨?_, promised, ?_, (fun _ _ moved => by cases moved), gone⟩
    · intro s e r s' gone answered
      have held : LiveOrGone 0 0 documentId s := .inr gone
      exact readsUndeleted held (by exact answered)
    · intro step s' apart promised answered gone
      exact gone.step (does_step apart promised answered)
  exact (maintained.within more apart).1

theorem engine_of_run {engine : RAGEngineType} (run : Interleaved (knowledgeEnvironment database)
      (.start (fun i => (calls i).program installation) first) steps c)
    (ofFirst : EngineIs knowledgeBaseId engine first) : EngineIs knowledgeBaseId engine c.shared :=
  (run.taken (EngineIs knowledgeBaseId engine) ofFirst
    (fun _ _ _ _ answered held => engine_kept answered held) fun _ _ moved => by cases moved).1

theorem not_retrieved (promised : ∀ i, (c.threads i).Meets (ReadsUndeleted documentId)
      (CommitsOnly ((calls i).Commits documentId)) fun _ => True) (gone : Gone documentId c.shared)
    {k : ι} (retrieves : (calls k).operation = .retrieve request)
    (engine : EngineIs (calls k).knowledgeBaseId .pgvector c.shared)
    (unbegun : c.threads k = (calls k).program installation)
    (more : Interleaved (knowledgeEnvironment database) c later c')
    (apart : ∀ step ∈ later, KeptApart calls step) {chunks : List RAGChunk}
    (result : c'.threads k = .ret (.ok (.retrieved chunks))) :
    ∀ chunk ∈ chunks, chunk.documentId ≠ documentId := by
  have maintained : Maintained (knowledgeEnvironment database) c (KeptApart calls)
      (ReadsGone documentId (calls k).knowledgeBaseId)
      (fun i => CommitsOnly ((calls i).Commits documentId))
      (fun i result => i = k → ∀ response, result = .ok response → ∀ chunks,
        response = .retrieved chunks → ∀ chunk ∈ chunks, chunk.documentId ≠ documentId)
      (fun tables => Gone documentId tables ∧
        EngineIs (calls k).knowledgeBaseId .pgvector tables) := by
    refine ⟨?_, fun i => ?_, ?_, (fun _ _ moved => by cases moved), gone, engine⟩
    · intro s e r s' held answered
      exact readsGone held.1 held.2 (by exact answered)
    · by_cases same : i = k
      · subst same
        rw [unbegun]
        cases call : calls i with
        | mk principal knowledgeBaseId operation =>
          rw [call] at retrieves
          cases retrieves
          exact (retrieves_nothing.run fun w mem => by cases mem).mono
            fun result known _ response eq => known response eq
      · exact ((promised i).weaken (fun _ told => told.1) fun _ kept => kept).mono
          fun _ _ eq => absurd eq same
    · intro step s' apart promised answered held
      exact ⟨held.1.step (does_step apart promised answered), engine_kept answered held.2⟩
  have known := (maintained.within more apart).2 k
  rw [result] at known
  exact known rfl _ rfl chunks rfl

/-- Where ingestions and deletions are kept apart, a document that has been deleted stays
so, and no retrieval that starts later returns a chunk of it. -/
theorem deleted_document_not_served
    (run : Interleaved (knowledgeEnvironment database)
      (.start (fun i => (calls i).program installation) first) steps c)
    (more : Interleaved (knowledgeEnvironment database) c later c')
    (serves : ∀ i, (calls i).operation.ServesDocuments)
    (apart : ∀ step ∈ steps ++ later, KeptApart calls step)
    (stored : first.documents.get documentId = some row) (live : row.Live) {i : ι}
    (deletes : (calls i).Deletes documentId row) {response : KnowledgeResponse}
    (returned : c.threads i = .ret (.ok response)) :
    (∃ row, c'.shared.documents.get documentId = some row ∧ row.status = .deleted) ∧
      ∀ k request chunks, (calls k).operation = .retrieve request →
        (∀ base, first.bases.get (calls k).knowledgeBaseId = some base →
          base.ragEngine = .pgvector) →
        c.history k = [] → c'.threads k = .ret (.ok (.retrieved chunks)) →
        ∀ chunk ∈ chunks, chunk.documentId ≠ documentId := by
  obtain ⟨earlier, rest⟩ := List.forall_mem_append.mp apart
  have maintained : Maintained (knowledgeEnvironment database)
      (.start (fun i => (calls i).program installation) first) (KeptApart calls)
      (ReadsUndeleted documentId) (fun i => CommitsOnly ((calls i).Commits documentId))
      (fun _ _ => True) (LiveOrGone row.tenantId row.knowledgeBaseId documentId) :=
    liveOrGone_maintained serves stored live
  have gone := gone_of_returned maintained run earlier deletes returned
  have promised := (maintained.within run earlier).2
  refine ⟨?_, fun k request chunks retrieves ofTable unbegun result => ?_⟩
  · obtain ⟨row', stored', status, _⟩ := (gone_later promised gone more rest).deleted
    exact ⟨row', stored', status⟩
  · have reached := run.reaches k
    rw [unbegun] at reached
    exact not_retrieved promised gone retrieves (engine_of_run run ofTable) reached.of_nil more
      rest result

end Runs

def completeDeleteRetrieve : Fin 3 → KnowledgeCall
  | 0 => administratorCall (.complete 7 {})
  | 1 => administratorCall (.deleteDocument 7)
  | 2 => administratorCall (.retrieve { tenantId := 1, knowledgeBaseId := 1, query := "hi" })

def KnowledgeConfig.taking (c : KnowledgeConfig (Fin 3)) (turns : List (Fin 3)) :
    List (KnowledgeStep (Fin 3)) × KnowledgeConfig (Fin 3) :=
  Process.takeTurns (oracle plainDatabase plainServices) turns c

def uploadedForDeletion : KnowledgeConfig (Fin 3) :=
  .start (fun i => (completeDeleteRetrieve i).program plainInstallation) onePending

theorem KnowledgeConfig.taking_run (c : KnowledgeConfig (Fin 3)) (turns : List (Fin 3)) :
    Interleaved (knowledgeEnvironment plainDatabase) c (c.taking turns).1 (c.taking turns).2 :=
  Process.takeTurns_run (oracle_answers plainDatabase plainServices) .start turns

theorem completeDeleteRetrieve_serves (i : Fin 3) :
    (completeDeleteRetrieve i).operation.ServesDocuments := by
  match i with
  | 0 => trivial
  | 1 => trivial
  | 2 => trivial

theorem keptApart_of_bare {step : KnowledgeStep (Fin 3)}
    (bare : step.thread ≠ 0 ∧ step.before.shared.chunks.entries = []) :
    KeptApart completeDeleteRetrieve step := by
  obtain ⟨config, thread, event⟩ := step
  unfold KeptApart
  split
  · match thread with
    | 0 => exact absurd rfl bare.1
    | 1 =>
      intro id chunk found
      have mem : (id, chunk) ∈ config.shared.chunks.entries := OrderedDict.mem_entries_of_get found
      rw [bare.2] at mem
      cases mem
    | 2 => trivial
  · trivial

theorem pending_document_deleted :
    ∃ row, ((uploadedForDeletion.taking (List.replicate 8 1)).2.taking
      (List.replicate 4 2)).2.shared.documents.get 7 = some row ∧ row.status = .deleted := by
  have run := uploadedForDeletion.taking_run (List.replicate 8 1)
  have returned : (uploadedForDeletion.taking (List.replicate 8 1)).2.threads 1 =
      .ret (.ok (.deleted 7)) :=
    Process.Program.eq_ret_of_returned (by decide +kernel)
  have more := (uploadedForDeletion.taking (List.replicate 8 1)).2.taking_run (List.replicate 4 2)
  have bare : ∀ step ∈ (uploadedForDeletion.taking (List.replicate 8 1)).1 ++
      ((uploadedForDeletion.taking (List.replicate 8 1)).2.taking (List.replicate 4 2)).1,
      step.thread ≠ 0 ∧ step.before.shared.chunks.entries = [] := by
    decide +kernel
  generalize (uploadedForDeletion.taking (List.replicate 8 1)).2.taking (List.replicate 4 2) = last
    at more bare ⊢
  generalize uploadedForDeletion.taking (List.replicate 8 1) = deleted at run returned more bare
  have deletes : ∀ row, (completeDeleteRetrieve 1).Deletes 7 row := fun row => rfl
  exact (deleted_document_not_served run more completeDeleteRetrieve_serves
    (fun step mem => keptApart_of_bare (bare step mem)) rfl (by decide) (deletes _) returned).1

theorem deleted_document_served :
    ¬ ∀ (installation : KnowledgeInstallation) (database : KnowledgeDatabase)
      (first : KnowledgeTables) (calls : Fin 3 → KnowledgeCall)
      (steps later : List (KnowledgeStep (Fin 3))) (c c' : KnowledgeConfig (Fin 3))
      (documentId : UUID) (row : KnowledgeDocument) (i : Fin 3) (response : KnowledgeResponse),
      Interleaved (knowledgeEnvironment database)
        (.start (fun i => (calls i).program installation) first) steps c →
      Interleaved (knowledgeEnvironment database) c later c' →
      (∀ i, (calls i).operation.ServesDocuments) →
      first.documents.get documentId = some row → row.Live →
      (calls i).Deletes documentId row → c.threads i = .ret (.ok response) →
      (∃ row, c'.shared.documents.get documentId = some row ∧ row.status = .deleted) ∧
        ∀ k request chunks, (calls k).operation = .retrieve request →
          (∀ base, first.bases.get (calls k).knowledgeBaseId = some base →
            base.ragEngine = .pgvector) →
          c.history k = [] → c'.threads k = .ret (.ok (.retrieved chunks)) →
          ∀ chunk ∈ chunks, chunk.documentId ≠ documentId := by
  intro claimed
  have run := uploadedForDeletion.taking_run (List.replicate 9 0 ++ List.replicate 8 1)
  have returned : (uploadedForDeletion.taking
      (List.replicate 9 0 ++ List.replicate 8 1)).2.threads 1 = .ret (.ok (.deleted 7)) :=
    Process.Program.eq_ret_of_returned (by decide +kernel)
  have unbegun : (uploadedForDeletion.taking
      (List.replicate 9 0 ++ List.replicate 8 1)).2.history 2 = [] := by
    decide +kernel
  have found : ∃ chunk : RAGChunk, chunk.documentId = 7 ∧ ((uploadedForDeletion.taking
      (List.replicate 9 0 ++ List.replicate 8 1)).2.taking
        (List.replicate 9 0 ++ List.replicate 4 2)).2.threads 2 =
      .ret (.ok (.retrieved [chunk])) := by
    let metadata : ChunkMetadata :=
      { chunkIndex := 0, tokenCount := 1, vectorScore := some 1, lexicalScore := some (53 / 100) }
    refine ⟨⟨8, 7, "hi", 1, some "a.txt", metadata⟩, rfl, ?_⟩
    exact Process.Program.eq_ret_of_returned (by decide +kernel)
  generalize uploadedForDeletion.taking (List.replicate 9 0 ++ List.replicate 8 1) = deleted
    at run returned unbegun found
  have more := deleted.2.taking_run (List.replicate 9 0 ++ List.replicate 4 2)
  obtain ⟨chunk, ofDocument, result⟩ := found
  obtain ⟨_, unserved⟩ := claimed _ _ _ _ _ _ _ _ 7 _ 1 _ run more completeDeleteRetrieve_serves
    rfl (by decide) rfl returned
  refine unserved 2 _ [chunk] rfl (fun base stored => ?_) unbegun result chunk
    List.mem_cons_self ofDocument
  cases stored
  rfl

end AgentHive
