import AgentHive.Process.Keeping
import AgentHive.Services.KnowledgeRules

/-!
What the operations on a knowledge base write: every row that a call may commit,
whatever else is committed in between, and the proof that it commits no others.
-/

namespace AgentHive

open Process (Action Keeping)

structure IngestUpdate (size : Option Nat) (loaded row : KnowledgeDocument) : Prop where
  notDeleted : row.status ≠ .deleted
  deletedAt : row.deletedAt = loaded.deletedAt
  sizeBytes : row.sizeBytes = size.or loaded.sizeBytes ∨ row.sizeBytes = loaded.sizeBytes

inductive IngestWrite (size : Option Nat) (documentId : UUID) : KnowledgeWrite → Prop
  | document {loaded row : KnowledgeDocument} (update : IngestUpdate size loaded row) :
      IngestWrite size documentId (.updateDocument documentId loaded row)
  | chunk {id : UUID} {row : KnowledgeChunk} (own : row.documentId = documentId) :
      IngestWrite size documentId (.insertChunk id row)
  | ftsText (chunkId : UUID) (ftsText : String) :
      IngestWrite size documentId (.setFtsText chunkId ftsText)
  | embedding (chunkId : UUID) (embedding : EmbeddingResult) :
      IngestWrite size documentId (.setEmbedding chunkId embedding)
  | chunks (ids : List UUID) : IngestWrite size documentId (.deleteChunks ids)

inductive PrepareWrite (principal : Principal) (knowledgeBaseId : UUID)
    (payload : DocumentUploadPrepareRequest) : KnowledgeWrite → Prop
  | document (id : UUID) : PrepareWrite principal knowledgeBaseId payload
      (.insertDocument id (KnowledgeService.preparedDocument principal knowledgeBaseId payload))
  | count (base : KnowledgeBase) (count : Nat) : PrepareWrite principal knowledgeBaseId payload
      (.updateBase knowledgeBaseId base { base with documentCount := count })

namespace KnowledgeSession

variable {α β : Type} {good : KnowledgeWrite → Prop} {Q : α → Prop}

def CommitsOnly (good : KnowledgeWrite → Prop) : KnowledgeEffect → Prop
  | .commit writes => ∀ w ∈ writes, good w
  | _ => True

theorem commitsOnly_true (e : KnowledgeEffect) : CommitsOnly (fun _ => True) e := by
  cases e <;> simp [CommitsOnly]

/-- Over a session with good rows only, and with the answers that are told, the function
keeps it so, commits no others, and returns something in the postcondition. -/
abbrev Told (T : KnowledgeEvent → Prop)
    (good : KnowledgeWrite → Prop) (m : KnowledgeSession α) (Q : α → Prop) : Prop :=
  Keeping T (CommitsOnly good) (fun transaction => ∀ w ∈ transaction.writes, good w) m Q

abbrev Writes (good : KnowledgeWrite → Prop) (m : KnowledgeSession α) (Q : α → Prop) : Prop :=
  Told (fun _ => True) good m Q

variable {T : KnowledgeEvent → Prop}

theorem told_of_writes {m : KnowledgeSession α} (h : Writes good m Q) : Told T good m Q :=
  h.weaken (fun _ _ => trivial) fun _ promised => promised

theorem writes_settle {answer : Except Exc α} : Told T good (settle answer) fun _ => True := by
  cases answer with
  | ok a => exact .pure trivial
  | error x =>
    refine .bind (.modify ?_) fun _ _ => .throw x
    intro transaction kept
    exact kept

theorem writes_ask {statement : KnowledgeStatement} :
    Told T good (ask statement) fun row => T ⟨.ask statement, .ok row⟩ := by
  refine .bind Keeping.get fun transaction _ => ?_
  refine .ite (fun _ => .throw _) fun _ => ?_
  refine .bind (.perform trivial fun _ told => told) fun answer told => ?_
  cases answer with
  | ok row => exact .pure told
  | error x =>
    refine .bind (.modify ?_) fun _ _ => .throw x
    intro transaction kept
    exact kept

theorem writes_service {s : OutsideService} :
    Told T good (service s) fun row => T ⟨.service s, .ok row⟩ := by
  refine .bind (.perform trivial fun _ told => told) fun answer told => ?_
  refine .ofExcept fun row ok => ?_
  rw [← ok]
  exact told

theorem writes_utcNow : Told T good utcNow fun _ => True :=
  Keeping.perform trivial fun _ _ => trivial

theorem writes_newIds {count : Nat} : Told T good (newIds count) fun _ => True :=
  Keeping.perform trivial fun _ _ => trivial

theorem writes_add {writes : List KnowledgeWrite} (h : ∀ w ∈ writes, good w) :
    Told T good (add writes) fun _ => True := by
  apply Keeping.modify
  intro transaction kept w mem
  rcases List.mem_append.mp mem with old | new
  · exact kept w old
  · exact h w new

theorem writes_commit : Told T good commit fun _ => True := by
  refine .bind Keeping.get fun transaction kept => ?_
  refine .ite (fun _ => .throw _) fun _ => ?_
  refine .bind (Q := fun _ => True) (.perform kept fun _ _ => trivial) ?_
  intro answer _
  refine .bind writes_settle fun _ _ => .modify ?_
  intro _ _ w mem
  cases mem

theorem writes_rollbackQuietly : Told T good rollbackQuietly fun _ => True := by
  refine .asked trivial fun _ => ?_
  apply Keeping.modify
  intro _ _ w mem
  cases mem

theorem writes_fail {statusCode : Nat} {detail : String} :
    Told T good (fail statusCode detail) Q := .throw _

theorem writes_refuse {condition : Prop} [Decidable condition] {statusCode : Nat}
    {detail : String} : Told T good (refuse condition statusCode detail) fun _ => ¬ condition :=
  Keeping.ite (fun _ => writes_fail) fun passed => .pure passed

variable {body : KnowledgeSession α} {handler : Exc → KnowledgeSession α}

theorem writes_tryExcept (h : Told T good body Q) (handled : ∀ x, Told T good (handler x) Q) :
    Told T good (tryExcept body handler) Q :=
  h.tryCatch fun x => .ite (fun _ => handled x) fun _ => .throw x

theorem writes_tryStorage (h : Told T good body Q) (handled : ∀ x, Told T good (handler x) Q) :
    Told T good (tryStorage body handler) Q := by
  refine h.tryCatch fun x => ?_
  cases x with
  | os c m => exact handled _
  | sqlAlchemy c m => exact handled _
  | _ => exact .throw _

theorem writes_guarded (h : Told T good body Q) : Told T good (guarded body) Q :=
  writes_tryStorage h fun _ => .bind writes_rollbackQuietly fun _ _ => writes_fail

theorem writes_requirePermission {principal : Principal} {permission : Permission} :
    Told T good (requireKnowledgePermission principal permission) fun _ => True :=
  writes_refuse.mono fun _ _ => trivial

/-! Over what a session holds at one place. -/

section Held

variable {transaction : KnowledgeTransaction}

abbrev Left (good : KnowledgeWrite → Prop) (Q : α → Prop) (r : Except Exc α)
    (left : KnowledgeTransaction) : Prop :=
  (∀ w ∈ left.writes, good w) ∧ ∀ a, r = .ok a → Q a

theorem left_error {x : Exc} (clean : ∀ w ∈ transaction.writes, good w) :
    Left good Q (.error x) transaction :=
  ⟨clean, fun _ eq => by cases eq⟩

theorem meets_whileAlive {φ : KnowledgeEffect → Prop}
    {body : KnowledgeTransaction → KnowledgeSession α}
    {P : Except Exc α → KnowledgeTransaction → Prop} (dead : P (.error lost) transaction)
    (alive : (body transaction).Meets T φ transaction P) :
    (whileAlive body).Meets T φ transaction P := by
  rw [whileAlive, Action.meets_bind, Action.meets_get]
  change (if transaction.failed then _ else body transaction).Meets T φ transaction P
  split
  · exact dead
  · exact alive

theorem meets_ask (clean : ∀ w ∈ transaction.writes, good w) {statement : KnowledgeStatement}
    {rest : KnowledgeRow statement → KnowledgeSession α}
    (later : ∀ row, (rest row).Meets T (CommitsOnly good) transaction (Left good Q)) :
    (ask statement >>= rest).Meets T (CommitsOnly good) transaction (Left good Q) := by
  rw [Action.meets_bind, ask]
  refine meets_whileAlive (left_error clean) ?_
  rw [Action.meets_bind, Action.meets_perform]
  refine ⟨trivial, fun r _ => ?_⟩
  cases r with
  | ok row => exact later row
  | error x => exact left_error clean

theorem meets_commit (clean : ∀ w ∈ transaction.writes, good w) {rest : KnowledgeSession α}
    (later : T ⟨.commit transaction.writes, .ok ()⟩ → Told T good rest Q) :
    (commit >>= fun _ => rest).Meets T (CommitsOnly good) transaction (Left good Q) := by
  rw [Action.meets_bind, commit]
  refine meets_whileAlive (left_error clean) ?_
  rw [Action.meets_bind, Action.meets_perform]
  refine ⟨clean, fun r told => ?_⟩
  cases r with
  | ok row => exact (later told).meets {} fun w mem => by cases mem
  | error x => exact left_error clean

end Held

variable {J : KnowledgeTables → Prop} {database : KnowledgeDatabase}

theorem CommitsOnly.keeps
    (step : ∀ tables after w, good w → tables.apply w = some after → J tables → J after)
    {tables after : KnowledgeTables} {e : KnowledgeEffect} {r : KnowledgeAnswer e}
    (promised : CommitsOnly good e) (answered : tables.Answers database e r after)
    (held : J tables) : J after := by
  cases e with
  | commit writes =>
    rcases answered with done | refused
    · exact KnowledgeTables.write_keeps
        (fun tables after w mem => step tables after w (promised w mem)) done.2 held
    · rw [refused.2]
      exact held
  | ask | newIds =>
    rw [answered.1]
    exact held
  | service | utcNow | rollback =>
    rw [show after = tables from answered]
    exact held

theorem returns_of_writes {m : KnowledgeSession α} (h : Writes good m Q)
    (step : ∀ tables after w, good w → tables.apply w = some after → J tables → J after)
    {transaction : KnowledgeTransaction} {tables : KnowledgeTables} {notes : RunNotes}
    (clean : ∀ w ∈ transaction.writes, good w) (start : J tables) :
    Returns database m transaction tables notes fun a left after _ =>
      J after ∧ (∀ w ∈ left.writes, good w) ∧ Q a := by
  have kept : Ends database m transaction tables notes fun r left s =>
      J s.1 ∧ (∀ w ∈ left.writes, good w) ∧ ∀ a, r = .ok a → Q a := by
    refine h.alone (J := fun s : KnowledgeTables × RunNotes => J s.1) (fun _ _ _ _ _ _ => trivial)
      ?_ clean start
    intro s e r s' promised answered held
    exact promised.keeps step answered.1 held
  exact ⟨kept.mono fun r left s post a eq => ⟨post.1, post.2.1, post.2.2 a eq⟩⟩

end KnowledgeSession

namespace KnowledgeService

open KnowledgeSession

variable {good : KnowledgeWrite → Prop} (lib : KnowledgeLibrary) {T : KnowledgeEvent → Prop}
  {knowledgeBaseId : UUID} {principal : Principal}

theorem getAccessibleBase_writes {requireWrite : Bool} :
    Told T good (getAccessibleBase knowledgeBaseId principal requireWrite) fun base =>
      T ⟨.ask (.getBase knowledgeBaseId), .ok (some base)⟩ ∧ base.tenantId = principal.tenantId ∧
        base.deletedAt = none := by
  refine .bind (Q := fun base => T ⟨.ask (.getBase knowledgeBaseId), .ok (some base)⟩ ∧
    base.tenantId = principal.tenantId ∧ base.deletedAt = none) ?_ fun base known => ?_
  · refine .bind writes_ask fun found told => ?_
    cases found with
    | none => exact writes_fail
    | some base =>
      refine .ite (fun _ => writes_fail) fun passed => .pure ⟨told, ?_⟩
      obtain ⟨own, there⟩ := not_or.mp passed
      exact ⟨not_not.mp own, not_not.mp there⟩
  · refine .bind (Q := fun _ => True) ?_ fun departmentIds _ => ?_
    · refine .ite (fun _ => .pure trivial) fun _ => ?_
      exact writes_ask.mono fun _ _ => trivial
    · exact .bind writes_refuse fun _ _ => .pure known

variable {documentId : UUID}

theorem getDocumentForTenant_writes {tenantId : UUID} :
    Told T good (getDocumentForTenant knowledgeBaseId documentId tenantId) fun row =>
      T ⟨.ask (.getDocument documentId), .ok (some row)⟩ ∧ row.tenantId = tenantId ∧
        row.knowledgeBaseId = knowledgeBaseId ∧ row.deletedAt = none := by
  refine .bind writes_ask fun found told => ?_
  cases found with
  | none => exact writes_fail
  | some row =>
    refine .ite (fun _ => writes_fail) fun passed => .pure ⟨told, ?_⟩
    obtain ⟨own, rest⟩ := not_or.mp passed
    obtain ⟨ofBase, there⟩ := not_or.mp rest
    exact ⟨not_not.mp own, not_not.mp ofBase, not_not.mp there⟩

theorem refreshDocument_writes :
    Told T good (refreshDocument documentId) fun row =>
      T ⟨.ask (.getDocument documentId), .ok (some row)⟩ := by
  refine .bind writes_ask fun found told => ?_
  cases found with
  | none => exact .throw _
  | some row => exact .pure told

theorem refreshBase_writes :
    Told T good (refreshBase knowledgeBaseId) fun base =>
      T ⟨.ask (.getBase knowledgeBaseId), .ok (some base)⟩ := by
  refine .bind writes_ask fun found told => ?_
  cases found with
  | none => exact .throw _
  | some row => exact .pure told

theorem addCommit_writes {w : KnowledgeWrite} (h : good w) {α : Type} {rest : KnowledgeSession α}
    {Q : α → Prop} (later : Told T good rest Q) :
    Told T good (add [w] >>= fun _ => commit >>= fun _ => rest) Q := by
  refine .bind (writes_add ?_) fun _ _ => .bind writes_commit fun _ _ => later
  intro v mem
  rw [List.mem_singleton.mp mem]
  exact h

theorem ensureLicenseCapacity_writes {tenantId : UUID} {increment : Nat} :
    Writes good (ensureLicenseCapacity lib tenantId increment) fun _ => True := by
  refine .bind (Q := fun _ => True) ?_ fun license _ => ?_
  · exact writes_tryStorage writes_ask fun _ => .pure trivial
  refine .bind (Q := fun _ => True) ?_ fun count _ => ?_
  · refine writes_tryStorage writes_ask fun _ => ?_
    exact .bind writes_rollbackQuietly fun _ _ => writes_fail
  exact .ofExcept fun _ _ => trivial

theorem prepareDocumentUpload_writes {payload : DocumentUploadPrepareRequest}
    (covers : ∀ base, T ⟨.ask (.getBase knowledgeBaseId), .ok (some base)⟩ →
      base.tenantId = principal.tenantId → base.deletedAt = none →
      ∀ w, PrepareWrite principal knowledgeBaseId payload w → good w) :
    Told T good (prepareDocumentUpload lib principal knowledgeBaseId payload) fun _ => True := by
  refine .bind writes_requirePermission fun _ _ => ?_
  refine .bind writes_refuse fun _ _ => writes_guarded ?_
  refine .bind getAccessibleBase_writes fun base known => ?_
  refine .bind (told_of_writes (ensureLicenseCapacity_writes lib)) fun _ _ => ?_
  refine .bind writes_newIds fun ids _ => ?_
  refine .bind writes_service fun _ _ => ?_
  have own := covers base known.1 known.2.1 known.2.2
  refine .bind (writes_add ?_) fun _ _ => ?_
  · intro w mem
    rw [List.mem_singleton.mp mem]
    exact own _ (.document _)
  refine .bind writes_ask fun count _ => addCommit_writes (own _ (.count base count)) ?_
  refine .bind refreshDocument_writes fun row _ => ?_
  exact .bind refreshBase_writes fun _ _ => .pure trivial

theorem pgvectorChunkSchemaReady_writes : Writes good pgvectorChunkSchemaReady fun _ => True :=
  writes_tryExcept writes_ask fun _ => .pure trivial

section Ingestion

variable {size : Option Nat} {documentId : UUID}
  (covers : ∀ w, IngestWrite size documentId w → good w)

include covers

theorem deleteChunks_writes {scope : ChunkScope} :
    Writes good (deleteChunks scope) fun _ => True := by
  refine .bind writes_ask fun ids _ => writes_add ?_
  intro w mem
  rw [List.mem_singleton.mp mem]
  exact covers _ (.chunks ids)

theorem updateChunk_writes {w : KnowledgeWrite} (own : IngestWrite size documentId w) :
    Writes good (updateChunk w) fun _ => True := by
  refine .bind writes_ask fun _ _ => writes_add ?_
  intro v mem
  rw [List.mem_singleton.mp mem]
  exact covers _ own

theorem writeFtsTexts_writes (chunks : List (UUID × ParsedChunk)) :
    Writes good (writeFtsTexts chunks) fun _ => True := by
  induction chunks with
  | nil => exact .pure trivial
  | cons e rest ih =>
    refine .ite (fun _ => ih) fun _ => ?_
    exact .bind (updateChunk_writes covers (.ftsText _ _)) fun _ _ => ih

theorem writeChunkEmbeddings_writes (chunks : List (UUID × ParsedChunk)) :
    Writes good (writeChunkEmbeddings chunks) fun _ => True := by
  induction chunks with
  | nil => exact .pure trivial
  | cons e rest ih =>
    refine .bind writes_service fun embedding _ => ?_
    exact .bind (updateChunk_writes covers (.embedding _ _)) fun _ _ => ih

theorem embedChunks_writes (ready : Bool) (chunks : List (UUID × ParsedChunk)) :
    Writes good (embedChunks ready chunks) fun _ => True :=
  Keeping.ite (fun _ => writeChunkEmbeddings_writes covers chunks) fun _ => .pure trivial

theorem ingestDocumentToPgvector_writes {document : KnowledgeDocument} :
    Writes good (ingestDocumentToPgvector lib documentId document) fun result =>
      result.status = .indexed := by
  refine .bind pgvectorChunkSchemaReady_writes fun ready _ => ?_
  refine .bind writes_service fun raw _ => ?_
  refine .bind (Q := fun _ => True) (.ofExcept fun _ _ => trivial) fun config _ => ?_
  refine .bind (Q := fun _ => True) (.ofExcept fun _ _ => trivial) fun chunks _ => ?_
  refine .bind (deleteChunks_writes covers) fun _ _ => ?_
  refine .bind writes_utcNow fun now _ => .bind writes_newIds fun ids _ => ?_
  refine .bind (writes_add ?_) fun _ _ => .bind writes_ask fun _ _ => ?_
  · intro w mem
    obtain ⟨e, _, rfl⟩ := List.mem_map.mp mem
    exact covers _ (.chunk rfl)
  refine .bind (writeFtsTexts_writes covers _) fun _ _ => ?_
  exact .bind (embedChunks_writes covers ready _) fun _ _ => .pure rfl

end Ingestion

theorem mapIngestStatus_ne_deleted (status : DocumentIngestStatus) :
    mapIngestStatus status ≠ .deleted := by
  cases status <;> decide

section Completion

variable {payload : DocumentUploadCompleteRequest} {knowledgeBaseId documentId : UUID}
  (covers : ∀ w, IngestWrite payload.sizeBytes documentId w → good w)

include covers

variable {base : KnowledgeBase} {row : KnowledgeDocument}

theorem ingest_writes : Writes good (ingest lib base documentId row) fun _ => True := by
  unfold ingest
  cases base.ragEngine with
  | pgvector => exact (ingestDocumentToPgvector_writes lib covers).mono fun _ _ => trivial
  | ragflow => exact writes_service

theorem ingestAndStore_writes :
    Writes good (ingestAndStore lib base documentId row) fun _ => True := by
  refine .bind (Q := fun _ => True) ?_ fun _ _ => ?_
  · exact .ite (fun _ => .pure trivial) fun _ => .throw _
  refine .bind (ingest_writes lib covers) fun result _ => addCommit_writes ?_ ?_
  · exact covers _ (.document ⟨mapIngestStatus_ne_deleted _, rfl, .inr rfl⟩)
  · exact .bind refreshDocument_writes fun _ _ => .pure trivial

theorem storeIngestFailure_writes {x : Exc} :
    Writes good (storeIngestFailure lib documentId row x) fun _ => True := by
  apply addCommit_writes
  · exact covers _ (.document ⟨(by intro eq; cases eq), rfl, .inr rfl⟩)
  · exact .bind refreshDocument_writes fun _ _ => .pure trivial

theorem ingestUploaded_writes :
    Writes good (ingestUploaded lib base documentId row) fun _ => True := by
  apply addCommit_writes
  · exact covers _ (.document ⟨(by intro eq; cases eq), rfl, .inr rfl⟩)
  refine .bind refreshDocument_writes fun row _ => ?_
  exact writes_tryExcept (ingestAndStore_writes lib covers) fun x =>
    storeIngestFailure_writes lib covers

theorem completeDocumentRow_writes :
    Writes good (completeDocumentRow lib knowledgeBaseId documentId row payload) fun _ => True := by
  refine .bind writes_refuse fun _ _ => .bind writes_refuse fun _ _ => ?_
  apply addCommit_writes
  · exact covers _ (.document ⟨(by intro eq; cases eq), rfl, .inl rfl⟩)
  refine .bind refreshDocument_writes fun row _ => ?_
  refine .bind refreshBase_writes fun base _ => .ite (fun _ => ?_) fun _ => ?_
  · exact ingestUploaded_writes lib covers
  · exact .pure trivial

omit covers in
theorem completeDocumentUpload_writes {principal : Principal}
    (covers : ∀ row, T ⟨.ask (.getDocument documentId), .ok (some row)⟩ →
      row.tenantId = principal.tenantId → ∀ w, IngestWrite payload.sizeBytes documentId w → good w) :
    Told T good (completeDocumentUpload lib principal knowledgeBaseId documentId payload)
      fun _ => True := by
  refine .bind writes_requirePermission fun _ _ => writes_guarded ?_
  refine .bind getAccessibleBase_writes fun _ _ => ?_
  refine .bind getDocumentForTenant_writes fun row known => ?_
  exact told_of_writes (completeDocumentRow_writes lib (covers row known.1 known.2.1))

end Completion

theorem attempt_writes {note : String} {body : KnowledgeSession Bool}
    (h : Writes good body fun _ => True) : Writes good (attempt lib note body) fun _ => True := by
  refine writes_tryExcept ?_ fun x => .pure trivial
  exact .bind h fun _ _ => .pure trivial

theorem cleanupDocumentIndexes_writes (covers : ∀ ids, good (.deleteChunks ids))
    {base : KnowledgeBase} {row : KnowledgeDocument} :
    Writes good (cleanupDocumentIndexes lib base documentId row) fun _ => True := by
  refine .bind (attempt_writes lib ?_) fun _ _ => ?_
  · refine .bind (Q := fun _ => True) ?_ fun _ _ => .pure trivial
    refine .bind writes_ask fun ids _ => writes_add ?_
    intro w mem
    rw [List.mem_singleton.mp mem]
    exact covers ids
  refine .bind (attempt_writes lib ?_) fun _ _ => .pure trivial
  unfold cleanupRag
  cases base.ragEngine with
  | pgvector => exact .pure trivial
  | ragflow => exact writes_service

theorem cleanupWithObject_writes (covers : ∀ ids, good (.deleteChunks ids)) {base : KnowledgeBase}
    {row : KnowledgeDocument} :
    Writes good (cleanupDocumentIndexesAndObject lib base documentId row) fun _ => True := by
  refine .bind (cleanupDocumentIndexes_writes lib covers) fun cleanup _ => ?_
  exact .bind (attempt_writes lib writes_service) fun _ _ => .pure trivial

section Reingestion

variable {knowledgeBaseId documentId : UUID} (covers : ∀ w, IngestWrite none documentId w → good w)

include covers

theorem reingestDocumentRow_writes {base : KnowledgeBase} {row : KnowledgeDocument} :
    Writes good (reingestDocumentRow lib base knowledgeBaseId documentId row) fun _ => True := by
  refine .bind writes_refuse fun _ _ => ?_
  refine .bind (cleanupDocumentIndexes_writes lib fun ids => covers _ (.chunks ids)) ?_
  intro cleanup _
  refine .bind (Q := fun _ => True) ?_ fun _ _ => ?_
  · refine .ite (fun _ => .pure trivial) fun _ => ?_
    exact .bind writes_rollbackQuietly fun _ _ => .throw _
  apply addCommit_writes
  · exact covers _ (.document ⟨(by intro eq; cases eq), rfl, .inl rfl⟩)
  refine .bind refreshDocument_writes fun row _ => ?_
  refine .bind refreshBase_writes fun _ _ => ?_
  have later : Writes good (completeDocumentRow lib knowledgeBaseId documentId row {})
      fun _ => True := completeDocumentRow_writes lib covers
  refine .bind later fun response _ => ?_
  exact .bind writes_commit fun _ _ => .pure trivial

omit covers in
theorem reingestKnowledgeDocument_writes {principal : Principal}
    (covers : ∀ row, T ⟨.ask (.getDocument documentId), .ok (some row)⟩ →
      row.tenantId = principal.tenantId → ∀ w, IngestWrite none documentId w → good w) :
    Told T good (reingestKnowledgeDocument lib principal knowledgeBaseId documentId)
      fun _ => True := by
  refine .bind writes_requirePermission fun _ _ => writes_guarded ?_
  refine .bind getAccessibleBase_writes fun base _ => ?_
  refine .bind getDocumentForTenant_writes fun row known => ?_
  exact told_of_writes (reingestDocumentRow_writes lib (covers row known.1 known.2.1))

end Reingestion

def Marks (writes : List KnowledgeWrite) (documentId : UUID) : Prop :=
  ∃ loaded now, .updateDocument documentId loaded (deletedDocument loaded now) ∈ writes

section Deletion

variable {knowledgeBaseId : UUID} {principal : Principal}
  (base : ∀ loaded, T ⟨.ask (.getBase knowledgeBaseId), .ok (some loaded)⟩ →
    loaded.tenantId = principal.tenantId → ∀ row, good (.updateBase knowledgeBaseId loaded row))
  (chunks : ∀ ids, good (.deleteChunks ids))

include base chunks

omit base in
theorem deleteScope_writes {scope : ChunkScope} : Told T good (deleteChunks scope) fun _ => True := by
  refine .bind writes_ask fun ids _ => writes_add ?_
  intro w mem
  rw [List.mem_singleton.mp mem]
  exact chunks ids

theorem deleteKnowledgeDocument_writes {documentId : UUID}
    (document : ∀ row, T ⟨.ask (.getDocument documentId), .ok (some row)⟩ →
      row.tenantId = principal.tenantId → row.deletedAt = none →
      ∀ now, good (.updateDocument documentId row (deletedDocument row now))) :
    Told T good (deleteKnowledgeDocument lib principal knowledgeBaseId documentId)
      fun _ => ∃ writes, T ⟨.commit writes, .ok ()⟩ ∧ Marks writes documentId := by
  refine .bind writes_requirePermission fun _ _ => writes_guarded ?_
  refine .bind getAccessibleBase_writes fun loaded own => ?_
  refine .bind getDocumentForTenant_writes fun row known => ?_
  refine .bind (told_of_writes (cleanupWithObject_writes lib chunks)) fun _ _ => ?_
  refine .bind writes_utcNow fun now _ => ?_
  refine .bind (deleteScope_writes chunks) fun _ _ => ⟨fun transaction clean => ?_⟩
  have marked : ∀ w ∈ transaction.writes ++
      [.updateDocument documentId row (deletedDocument row now)], good w :=
    List.forall_mem_append.mpr
      ⟨clean, List.forall_mem_singleton.mpr (document row known.1 known.2.1 known.2.2.2 now)⟩
  rw [Action.meets_bind]
  refine meets_ask marked fun count => ?_
  rw [Action.meets_bind]
  refine meets_commit (List.forall_mem_append.mpr ⟨marked, ?_⟩) fun done => .pure ?_
  · exact List.forall_mem_singleton.mpr (base loaded own.1 own.2.1 _)
  · refine ⟨_, done, row, now, ?_⟩
    simp

omit base in
theorem cleanupDocuments_writes {loaded : KnowledgeBase}
    (documents : List (UUID × KnowledgeDocument)) :
    Told T good (cleanupDocuments lib loaded documents) fun _ => True := by
  induction documents with
  | nil => exact .pure trivial
  | cons e rest ih =>
    exact .bind (told_of_writes (cleanupWithObject_writes lib chunks)) fun _ _ => ih

theorem deleteKnowledgeBase_writes
    (documents : ∀ rows, T ⟨.ask (.documentsOf principal.tenantId knowledgeBaseId), .ok rows⟩ →
      ∀ e ∈ rows, ∀ now, good (.updateDocument e.1 e.2 (deletedDocument e.2 now))) :
    Told T good (deleteKnowledgeBase lib principal knowledgeBaseId) fun _ => ∃ rows writes,
      T ⟨.ask (.documentsOf principal.tenantId knowledgeBaseId), .ok rows⟩ ∧
        T ⟨.commit writes, .ok ()⟩ ∧ ∀ e ∈ rows, Marks writes e.1 := by
  refine .bind writes_requirePermission fun _ _ => writes_guarded ?_
  refine .bind getAccessibleBase_writes fun loaded own => ?_
  refine .bind writes_ask fun rows told => ?_
  refine .bind (cleanupDocuments_writes lib chunks rows) fun _ _ => ?_
  refine .bind writes_utcNow fun now _ => ?_
  refine .bind (deleteScope_writes chunks) fun _ _ => ⟨fun transaction clean => ?_⟩
  rw [Action.meets_bind, add, Action.meets_modify, Action.meets_bind]
  refine meets_commit ?_ fun done => .pure ?_
  · refine List.forall_mem_append.mpr ⟨List.forall_mem_append.mpr ⟨clean, ?_⟩, ?_⟩
    · exact List.forall_mem_map.mpr fun e mem => documents rows told e mem now
    · exact List.forall_mem_singleton.mpr (base loaded own.1 own.2.1 _)
  · refine ⟨rows, _, told, done, fun e mem => ⟨e.2, now, ?_⟩⟩
    exact List.mem_append_left _ (List.mem_append_right _ (List.mem_map_of_mem mem))

end Deletion

section Retrieval

variable (settings : RetrievalSettings) (request : RetrieveRequest)

theorem retrieveFtsChunks_writes :
    Writes good (retrieveFtsChunks settings request) fun _ => True := by
  simp only [retrieveFtsChunks]
  split
  · exact .pure trivial
  · exact .bind writes_ask fun _ _ => .pure trivial

theorem selectChunks_writes (candidates : List RAGChunk) :
    Writes good (selectChunks settings request candidates) fun _ => True := by
  rw [selectChunks]
  split
  · refine .bind (retrieveFtsChunks_writes settings request) fun rows _ => ?_
    exact .pure trivial
  · exact .pure trivial

theorem rerankChunks_writes (chunks : List RAGChunk) :
    Writes good (rerankChunks settings request chunks) fun _ => True := by
  rw [rerankChunks]
  refine .ite (fun _ => ?_) fun _ => .pure trivial
  refine .bind (Q := fun _ => True) ?_ fun response _ => ?_
  · refine writes_tryExcept ?_ fun _ => .pure trivial
    exact .bind writes_service fun _ _ => .pure trivial
  · cases response with
    | none => exact .pure trivial
    | some response => exact .ofExcept fun _ _ => trivial

theorem retrieveEmbeddingChunks_writes :
    Writes good (retrieveEmbeddingChunks settings request) fun _ => True := by
  rw [retrieveEmbeddingChunks]
  refine .bind writes_service fun embedding _ => .bind writes_ask fun rows _ => ?_
  refine .bind (selectChunks_writes settings request _) fun selected _ => ?_
  refine .bind (rerankChunks_writes settings request _) fun _ _ => .pure trivial

theorem retrievePgvectorChunks_writes :
    Writes good (retrievePgvectorChunks settings request) fun _ => True := by
  refine .bind pgvectorChunkSchemaReady_writes fun ready _ => ?_
  refine .bind (Q := fun _ => True) ?_ fun chunks _ => ?_
  · refine .ite (fun _ => ?_) fun _ => .pure trivial
    exact retrieveEmbeddingChunks_writes settings request
  refine .ite (fun _ => ?_) fun _ => .pure trivial
  exact .bind writes_ask fun _ _ => .pure trivial

theorem runRetrievalTest_writes {principal : Principal} :
    Writes good (runRetrievalTest settings request principal) fun _ => True := by
  refine .bind writes_requirePermission fun _ _ => ?_
  refine .bind (Q := fun _ => True) ?_ fun base _ => ?_
  · exact writes_tryStorage (getAccessibleBase_writes.mono fun _ _ => trivial) fun _ => writes_fail
  cases base.ragEngine with
  | pgvector => exact writes_tryStorage (retrievePgvectorChunks_writes _ _) fun _ => writes_fail
  | ragflow => exact writes_service

end Retrieval

end KnowledgeService

open KnowledgeSession KnowledgeService

end AgentHive
