import AgentHive.Process.Knowledge
import AgentHive.Services.DeletedDocuments

/-!
Tenants side by side: a request writes to the bases and documents of its own tenant,
and a retrieval returns rows of its own base.
-/

namespace AgentHive.KnowledgeTenants

open Process (Interleaved Keeping Learning)
open KnowledgeSession KnowledgeService

section Rows

variable {tables after : KnowledgeTables}

def OwnsDocument (tables : KnowledgeTables) (tenantId id : UUID) : Prop :=
  ∃ row, tables.documents.get id = some row ∧ row.tenantId = tenantId

def OwnsBase (tables : KnowledgeTables) (tenantId id : UUID) : Prop :=
  ∃ base, tables.bases.get id = some base ∧ base.tenantId = tenantId

/-- The document or the base that a write creates or changes is of the tenant, and so is the
document that a new chunk belongs to. -/
def WritesOwn (tables : KnowledgeTables) (tenantId : UUID) : KnowledgeWrite → Prop
  | .insertDocument _ row => row.tenantId = tenantId
  | .updateDocument id _ _ => OwnsDocument tables tenantId id
  | .updateBase id _ _ => OwnsBase tables tenantId id
  | .insertChunk _ row => OwnsDocument tables tenantId row.documentId
  | _ => True

abbrev Owners : Type := (UUID → UUID → Prop) × (UUID → UUID → Prop)

def owners (tables : KnowledgeTables) : Owners := (OwnsDocument tables, OwnsBase tables)

/-- A row that is read is of the tenant that owns it. -/
def Tells (known : Owners) : KnowledgeEvent → Prop
  | ⟨.ask (.getDocument id), .ok (some row)⟩ => known.1 row.tenantId id
  | ⟨.ask (.getBase id), .ok (some base)⟩ => known.2 base.tenantId id
  | ⟨.ask (.documentsOf tenantId _), .ok rows⟩ => ∀ e ∈ rows, known.1 tenantId e.1
  | _ => True

theorem Tells.lasting {known more : Owners} (e : KnowledgeEvent) (le : known ≤ more)
    (told : Tells known e) : Tells more e := by
  unfold Tells at told ⊢
  split at told
  · exact le.1 _ _ told
  · exact le.2 _ _ told
  · exact fun e mem => le.1 _ _ (told e mem)
  · trivial

theorem tells_of_answers {database : KnowledgeDatabase} {e : KnowledgeEffect}
    {r : KnowledgeAnswer e} (answered : tables.Answers database e r after) :
    Tells (owners tables) ⟨e, r⟩ := by
  unfold Tells
  split
  · rename_i id row eq
    cases eq
    exact ⟨row, (answered.2 _ rfl).symm, rfl⟩
  · rename_i id base eq
    cases eq
    exact ⟨base, (answered.2 _ rfl).symm, rfl⟩
  · rename_i tenantId base rows eq
    cases eq
    intro e mem
    rw [answered.2 _ rfl] at mem
    obtain ⟨listed, ofBase⟩ := List.mem_filter.mp mem
    simp at ofBase
    exact ⟨e.2, OrderedDict.get_of_mem_entries listed, ofBase.1.1⟩
  · trivial

/-- The tenant of a row never changes, and no row is removed. -/
theorem owners_le {database : KnowledgeDatabase} {e : KnowledgeEffect} {r : KnowledgeAnswer e}
    (answered : tables.Answers database e r after) : owners tables ≤ owners after := by
  refine (commitsOnly_true e).keeps (J := fun now => owners tables ≤ owners now) ?_ answered le_rfl
  intro now next w _ applied le
  refine le.trans ⟨fun t id owns => ?_, fun t id owns => ?_⟩
  · exact KnowledgeTables.document_kept applied (fun _ _ _ _ own => own) owns
  · exact KnowledgeTables.base_kept applied (fun _ _ _ _ own => own) owns

end Rows

section Requests

variable {tables : KnowledgeTables} {lib : KnowledgeLibrary} {principal : Principal}
  {knowledgeBaseId documentId : UUID}

abbrev WritesWithin (tables : KnowledgeTables) (tenantId : UUID) {α : Type}
    (m : KnowledgeSession α) : Prop :=
  Told (Tells (owners tables)) (WritesOwn tables tenantId) m fun _ => True

theorem ingests_own {size : Option Nat} (row : KnowledgeDocument)
    (told : Tells (owners tables) ⟨.ask (.getDocument documentId), .ok (some row)⟩)
    (own : row.tenantId = principal.tenantId) (w : KnowledgeWrite)
    (may : IngestWrite size documentId w) : WritesOwn tables principal.tenantId w := by
  have owns : OwnsDocument tables principal.tenantId documentId := own ▸ told
  cases may with
  | document => exact owns
  | chunk ofDocument =>
    subst ofDocument
    exact owns
  | ftsText | embedding | chunks => trivial

theorem prepares_own (payload : DocumentUploadPrepareRequest) :
    WritesWithin tables principal.tenantId
      (prepareDocumentUpload lib principal knowledgeBaseId payload) := by
  refine prepareDocumentUpload_writes _ fun base told own _ w may => ?_
  cases may with
  | document => rfl
  | count => exact own ▸ told

theorem putObject_own (data : Bytes) :
    WritesWithin tables principal.tenantId
      (putObject lib principal knowledgeBaseId documentId data) := by
  refine writes_tryExcept (writes_service.mono fun _ _ => trivial) fun x => ?_
  refine .bind (Q := fun _ => True) (.tryCatch ?_ fun x => ?_) fun _ _ => writes_fail
  · refine .bind getDocumentForTenant_writes fun row known => ?_
    refine .bind (writes_add fun w mem => ?_) fun _ _ => writes_commit
    rw [List.mem_singleton.mp mem]
    exact known.2.1 ▸ known.1
  · cases x with
    | os | sqlAlchemy | http => exact writes_rollbackQuietly
    | _ => exact .throw _

theorem endpoint_own {installation : KnowledgeInstallation} (call : KnowledgeCall) :
    WritesWithin tables call.principal.tenantId (call.endpoint installation) := by
  obtain ⟨principal, knowledgeBaseId, operation⟩ := call
  have completes : ∀ id payload, WritesWithin tables principal.tenantId
      (completeDocumentUpload installation.lib principal knowledgeBaseId id payload) :=
    fun _ _ => completeDocumentUpload_writes _ ingests_own
  have bases : ∀ loaded,
      Tells (owners tables) ⟨.ask (.getBase knowledgeBaseId), .ok (some loaded)⟩ →
      loaded.tenantId = principal.tenantId →
      ∀ row, WritesOwn tables principal.tenantId (.updateBase knowledgeBaseId loaded row) :=
    fun _ told own _ => own ▸ told
  cases operation with
  | prepare payload => exact .bind (prepares_own payload) fun _ _ => .pure trivial
  | upload file =>
    refine .bind (.bind (prepares_own _) fun prepared _ => ?_) fun _ (_ : True) => .pure trivial
    exact .bind (putObject_own _) fun stored _ => completes _ _
  | complete id payload => exact .bind (completes id payload) fun _ _ => .pure trivial
  | reingest id =>
    exact .bind (reingestKnowledgeDocument_writes _ ingests_own) fun _ _ => .pure trivial
  | deleteDocument id =>
    refine .bind (deleteKnowledgeDocument_writes _ bases (fun _ => trivial) ?_) fun _ _ =>
      .pure trivial
    exact fun row told own _ now => own ▸ told
  | deleteBase =>
    refine .bind (deleteKnowledgeBase_writes _ bases (fun _ => trivial) ?_) fun _ _ => .pure trivial
    exact fun rows told e mem now => told e mem
  | retrieve request =>
    exact .bind (told_of_writes (runRetrievalTest_writes _ _)) fun _ _ => .pure trivial

end Requests

variable {ι : Type} [DecidableEq ι] {installation : KnowledgeInstallation}
  {database : KnowledgeDatabase} {first : KnowledgeTables} {calls : ι → KnowledgeCall}
  {steps : List (KnowledgeStep ι)} {c : KnowledgeConfig ι}

/-- What a retrieval returns is made of rows that its base held, for the caller's tenant, when
they were read. -/
theorem retrieved_from_own_base
    (run : Interleaved (knowledgeEnvironment database)
      (.start (fun i => (calls i).program installation) first) steps c) {k : ι}
    {request : RetrieveRequest} (retrieves : (calls k).operation = .retrieve request)
    (engine : EngineIs (calls k).knowledgeBaseId .pgvector first) {chunks : List RAGChunk}
    (result : c.threads k = .ret (.ok (.retrieved chunks))) :
    ∀ chunk ∈ chunks, ∃ step ∈ steps, ∃ row ∈ step.before.shared.chunksOf
      (calls k).principal.tenantId (calls k).knowledgeBaseId, chunk.MadeOf row := by
  let T (e : KnowledgeEvent) : Prop :=
    FindsOf (fun tenantId base row =>
      ∃ step ∈ steps, row ∈ step.before.shared.chunksOf tenantId base) e ∧
    ∀ base, e = ⟨.ask (.getBase (calls k).knowledgeBaseId), .ok (some base)⟩ →
      base.ragEngine = .pgvector
  have told : ∀ e ∈ c.history k, T e := by
    intro e mem
    obtain ⟨step, taken, _, rfl⟩ := run.taken_of_mem mem
    obtain ⟨held, after, answered⟩ := (run.taken (EngineIs (calls k).knowledgeBaseId .pgvector)
      engine (fun _ _ _ _ answered held => engine_kept answered held)
      fun _ _ moved => by cases moved).2 step taken
    refine ⟨findsOf_answered (fun _ _ _ there => ⟨step, taken, there⟩) answered, ?_⟩
    intro base eq
    rw [eq] at answered
    exact held base (answered.2 _ rfl).symm
  have reached := run.reaches k
  rw [result] at reached
  have made : Told T (fun _ => True) ((calls k).endpoint installation) fun response =>
      ∀ chunks, response = .retrieved chunks → MadeOfRows (fun row => ∃ step ∈ steps,
        row ∈ step.before.shared.chunksOf (calls k).principal.tenantId (calls k).knowledgeBaseId)
        chunks := by
    rw [KnowledgeCall.endpoint, retrieves]
    refine .bind (runRetrievalTest_made installation.settings
      { request with knowledgeBaseId := (calls k).knowledgeBaseId } (fun e told => told.1)
      fun base told => told.2 base rfl) fun found made => .pure ?_
    rintro _ ⟨⟩
    exact made
  intro chunk mem
  obtain ⟨row, ⟨step, taken, there⟩, of⟩ := ((made.run fun w mem => by cases mem).of_runs
    (reached.runs (.ret _)) (by simpa using told)) _ rfl _ rfl chunk mem
  exact ⟨step, taken, row, there, of⟩

def foundAfterUpload : RAGChunk :=
  ⟨8, 7, "hi", 1, some "a.txt",
    { chunkIndex := 0, tokenCount := 1, vectorScore := some 1, lexicalScore := some (53 / 100) }⟩

theorem uploaded_retrieved_from_own_base :
    ∃ step ∈ (uploadedForDeletion.taking (List.replicate 18 0 ++ List.replicate 4 2)).1,
      ∃ row ∈ step.before.shared.chunksOf 1 1, foundAfterUpload.MadeOf row := by
  have result : (uploadedForDeletion.taking
      (List.replicate 18 0 ++ List.replicate 4 2)).2.threads 2 =
        .ret (.ok (.retrieved [foundAfterUpload])) :=
    Process.Program.eq_ret_of_returned (by decide +kernel)
  refine retrieved_from_own_base (uploadedForDeletion.taking_run _) (k := 2) rfl ?_ result _
    List.mem_cons_self
  intro base stored
  cases stored
  rfl

end AgentHive.KnowledgeTenants
