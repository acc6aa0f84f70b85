import AgentHive.Services.IngestionWhole

/-!
Runs in which everything answers normally: database, object storage, embedding
service and engine.

A text that can be extracted is then ingested, from whatever row a completion
starts with.
-/

namespace AgentHive

open Process (Leads)

def Calm : (e : KnowledgeEffect) → KnowledgeAnswer e → Prop
  | .ask _, r => r.isOk
  | .service _, r => r.isOk
  | .utcNow, _ => True
  | .newIds _, _ => True
  | .commit _, r => r.isOk
  | .rollback, r => r.isOk

def calmEnvironment (database : KnowledgeDatabase) :
    Process.Environment KnowledgeEffect KnowledgeAnswer KnowledgeTables where
  answers tables e r after := tables.Answers database e r after ∧ Calm e r
  drifts := fun _ _ => False

namespace KnowledgeSession

open KnowledgeService

variable {database : KnowledgeDatabase} {transaction left : KnowledgeTransaction}
  {tables after : KnowledgeTables} {α : Type}

abbrev ComesTo (database : KnowledgeDatabase) (m : KnowledgeSession α)
    (transaction : KnowledgeTransaction) (tables : KnowledgeTables) (a : α)
    (left : KnowledgeTransaction) (after : KnowledgeTables) : Prop :=
  Leads (calmEnvironment database) m transaction tables a left after

abbrev Finishes (database : KnowledgeDatabase) (m : KnowledgeSession α)
    (transaction : KnowledgeTransaction) (tables : KnowledgeTables) (left : KnowledgeTransaction)
    (after : KnowledgeTables) : Prop :=
  ∃ a, ComesTo database m transaction tables a left after

theorem ComesTo.andThen {β : Type} {m : KnowledgeSession β} {f : β → KnowledgeSession α} {b : β}
    {middle : KnowledgeTransaction} {between : KnowledgeTables}
    (first : ComesTo database m transaction tables b middle between)
    (rest : Finishes database (f b) middle between left after) :
    Finishes database (m >>= f) transaction tables left after := by
  obtain ⟨a, later⟩ := rest
  exact ⟨a, Leads.bind first later⟩

theorem comesTo_settle {a : α} :
    ComesTo database (settle (.ok a)) transaction tables a transaction tables := Leads.pure

theorem comesTo_ask {statement : KnowledgeStatement} (alive : transaction.failed = false) :
    ComesTo database (ask statement) transaction tables (tables.read database statement)
      transaction tables := by
  refine Leads.bind Leads.get (Leads.ite_neg (by simp [alive]) (Leads.bind ?_ comesTo_settle))
  exact Leads.perform ⟨⟨rfl, fun row eq => (Except.ok.inj eq).symm⟩, rfl⟩

theorem comesTo_service {s : OutsideService} (row : OutsideRow s) :
    ComesTo database (service s) transaction tables row transaction tables := by
  have answered : Leads (calmEnvironment database)
      (Process.Action.perform (X := Exc) (KnowledgeEffect.service s)) transaction tables
      (Except.ok row) transaction tables := Leads.perform ⟨rfl, rfl⟩
  exact Leads.bind answered (Leads.ofExcept rfl)

theorem comesTo_utcNow (now : Instant) :
    ComesTo database utcNow transaction tables now transaction tables :=
  Leads.perform (e := KnowledgeEffect.utcNow) ⟨rfl, trivial⟩

theorem comesTo_newIds {count : Nat} {ids : List UUID} (long : ids.length = count) :
    ComesTo database (newIds count) transaction tables ids transaction tables :=
  Leads.perform (e := KnowledgeEffect.newIds count) ⟨⟨rfl, long⟩, trivial⟩

theorem comesTo_add {writes : List KnowledgeWrite} :
    ComesTo database (add writes) transaction tables ()
      { transaction with writes := transaction.writes ++ writes } tables :=
  Leads.modify _

theorem comesTo_commit (alive : transaction.failed = false)
    (written : tables.write transaction.writes = some after) :
    ComesTo database commit transaction tables () {} after := by
  have answered : Leads (calmEnvironment database)
      (Process.Action.perform (X := Exc) (KnowledgeEffect.commit transaction.writes)) transaction
      tables (Except.ok ()) transaction after := Leads.perform ⟨.inl ⟨rfl, written⟩, rfl⟩
  refine Leads.bind Leads.get (Leads.ite_neg (by simp [alive]) (Leads.bind answered ?_))
  exact Leads.bind comesTo_settle (Leads.modify _)

theorem comesTo_refuse {condition : Prop} [Decidable condition] {statusCode : Nat}
    {detail : String} (passed : ¬ condition) :
    ComesTo database (refuse condition statusCode detail) transaction tables () transaction
      tables :=
  Leads.ite_neg passed Leads.pure

variable {body : KnowledgeSession α} {handler : Exc → KnowledgeSession α}

theorem comesTo_tryExcept {a : α} (h : ComesTo database body transaction tables a left after) :
    ComesTo database (tryExcept body handler) transaction tables a left after :=
  Leads.tryCatch h

theorem finishes_tryExcept (h : Finishes database body transaction tables left after) :
    Finishes database (tryExcept body handler) transaction tables left after := by
  obtain ⟨a, comes⟩ := h
  exact ⟨a, comesTo_tryExcept comes⟩

theorem finishes_guarded (h : Finishes database body transaction tables left after) :
    Finishes database (guarded body) transaction tables left after := by
  obtain ⟨a, comes⟩ := h
  exact ⟨a, Leads.tryCatch comes⟩

theorem comesTo_updateChunk {w : KnowledgeWrite} (alive : transaction.failed = false) :
    ComesTo database (updateChunk w) transaction tables ()
      { transaction with writes := transaction.writes ++ [w] } tables :=
  Leads.bind (comesTo_ask alive) comesTo_add

end KnowledgeSession

namespace KnowledgeTables

variable {tables : KnowledgeTables}

theorem write_decorates (tables : KnowledgeTables) {writes : List KnowledgeWrite}
    (own : ∀ w ∈ writes, Decorates w) :
    ∃ after, tables.write writes = some after := by
  induction writes generalizing tables with
  | nil => exact ⟨tables, rfl⟩
  | cons w rest ih =>
    obtain ⟨first, others⟩ := List.forall_mem_cons.mp own
    cases w with
    | setFtsText id text => exact ih _ others
    | setEmbedding id embedding => exact ih _ others
    | _ => exact first.elim

theorem write_inserts (tables : KnowledgeTables) (documentId : UUID)
    (document : KnowledgeDocument) (now : Instant) {placed : List (UUID × ParsedChunk × Nat)}
    (distinct : (placed.map Prod.fst).Nodup)
    (fresh : ∀ id ∈ placed.map Prod.fst, id ∉ tables.chunks.keys) :
    ∃ after, tables.write (placed.map fun e => .insertChunk e.1
      (KnowledgeService.chunkRow documentId document now e.2.1 e.2.2)) = some after := by
  induction placed generalizing tables with
  | nil => exact ⟨tables, rfl⟩
  | cons e rest ih =>
    obtain ⟨unlisted, others⟩ := List.nodup_cons.mp distinct
    obtain ⟨first, later⟩ := List.forall_mem_cons.mp fresh
    simp only [List.map_cons, write, apply, if_neg first, Option.bind_some]
    refine ih _ others fun id mem inKeys => ?_
    rcases OrderedDict.mem_keys_set.mp inKeys with same | old
    · subst same
      exact unlisted mem
    · exact later id mem old

theorem write_deleteChunks (tables : KnowledgeTables) (ids : List UUID) :
    ∃ after, tables.write [.deleteChunks ids] = some after ∧
      ∀ id ∈ after.chunks.keys, id ∈ tables.chunks.keys := by
  refine ⟨_, rfl, fun id mem => ?_⟩
  rw [OrderedDict.mem_keys, OrderedDict.get_filterKeys] at mem
  split at mem
  · exact OrderedDict.mem_keys.mpr mem
  · cases mem

theorem lt_nextId {id : UUID} (mem : id ∈ tables.chunks.keys) : id < tables.nextId := by
  have bound : ∀ ids : List UUID, id ∈ ids →
      id < ids.foldr (fun id next => max (id + 1) next) 0 := by
    intro ids
    induction ids with
    | nil => exact fun none => by cases none
    | cons k rest ih =>
      intro among
      rw [List.foldr_cons]
      rcases List.mem_cons.mp among with same | later
      · exact same ▸ Nat.lt_of_lt_of_le (Nat.lt_succ_self id) (Nat.le_max_left _ _)
      · exact Nat.lt_of_lt_of_le (ih later) (Nat.le_max_right _ _)
  exact bound _ (List.mem_append_right _ mem)

theorem write_inserted (database : KnowledgeDatabase) (tables : KnowledgeTables)
    (documentId : UUID) (document : KnowledgeDocument) (now : Instant) (chunks : List ParsedChunk)
    {late : List KnowledgeWrite} (own : ∀ w ∈ late, Decorates w) :
    ∃ after, tables.write
      ([.deleteChunks (tables.read database (.deleteChunks (.named documentId)))] ++
        KnowledgeService.chunkInserts documentId document now
          (List.range' tables.nextId chunks.length) chunks ++ late) = some after := by
  have ids : ((List.range' tables.nextId chunks.length).zip chunks.zipIdx).map Prod.fst =
      List.range' tables.nextId chunks.length :=
    List.map_fst_zip (by rw [List.length_range', List.length_zipIdx])
  obtain ⟨middle, deletes, kept⟩ := tables.write_deleteChunks
    (tables.read database (.deleteChunks (.named documentId)))
  have fresh : ∀ id ∈ ((List.range' tables.nextId chunks.length).zip chunks.zipIdx).map Prod.fst,
      id ∉ middle.chunks.keys := by
    intro id mem inKeys
    rw [ids, List.mem_range'_1] at mem
    exact absurd (lt_nextId (kept id inKeys)) (Nat.not_lt.mpr mem.1)
  have distinct : (((List.range' tables.nextId chunks.length).zip chunks.zipIdx).map
      Prod.fst).Nodup := by
    rw [ids]
    exact List.nodup_range'
  obtain ⟨filled, inserts⟩ := write_inserts middle documentId document now distinct fresh
  obtain ⟨after, decorates⟩ := write_decorates filled own
  refine ⟨after, ?_⟩
  rw [write_append, write_append, deletes, Option.bind_some, KnowledgeService.chunkInserts, inserts,
    Option.bind_some, decorates]

end KnowledgeTables
namespace KnowledgeService

open KnowledgeSession KnowledgeTables

variable {database : KnowledgeDatabase} {transaction : KnowledgeTransaction}
  {tables : KnowledgeTables} (lib : KnowledgeLibrary) {documentId : UUID}
  {document : KnowledgeDocument}

theorem comesTo_writeFtsTexts (database : KnowledgeDatabase) (tables : KnowledgeTables)
    (chunks : List (UUID × ParsedChunk)) (alive : transaction.failed = false) :
    ∃ left, ComesTo database (writeFtsTexts chunks) transaction tables () left tables ∧
      left.failed = false ∧ Adds transaction left := by
  induction chunks generalizing transaction with
  | nil => exact ⟨transaction, Leads.pure, alive, .refl transaction⟩
  | cons e rest ih =>
    rw [writeFtsTexts]
    split
    · exact ih alive
    · have alive' : ({ transaction with writes := transaction.writes ++
          [.setFtsText e.1 e.2.ftsText] } : KnowledgeTransaction).failed = false := alive
      obtain ⟨left, later, lives, added⟩ := ih alive'
      refine ⟨left, Leads.bind (comesTo_updateChunk alive) later, lives, ?_⟩
      exact Adds.trans (.single (by exact trivial)) added

theorem comesTo_writeChunkEmbeddings (database : KnowledgeDatabase) (tables : KnowledgeTables)
    (chunks : List (UUID × ParsedChunk)) (alive : transaction.failed = false) :
    ∃ left, ComesTo database (writeChunkEmbeddings chunks) transaction tables () left tables ∧
      left.failed = false ∧ Adds transaction left := by
  induction chunks generalizing transaction with
  | nil => exact ⟨transaction, Leads.pure, alive, .refl transaction⟩
  | cons e rest ih =>
    have embedding : EmbeddingResult := ⟨"", 0, [], ""⟩
    have alive' : ({ transaction with writes := transaction.writes ++
        [.setEmbedding e.1 embedding] } : KnowledgeTransaction).failed = false := alive
    obtain ⟨left, later, lives, added⟩ := ih alive'
    refine ⟨left, Leads.bind (comesTo_service embedding) ?_, lives, ?_⟩
    · exact Leads.bind (comesTo_updateChunk alive) later
    · exact Adds.trans (.single (by exact trivial)) added

theorem comesTo_embedChunks (database : KnowledgeDatabase) (tables : KnowledgeTables)
    (ready : Bool) (chunks : List (UUID × ParsedChunk)) (alive : transaction.failed = false) :
    ∃ left, ComesTo database (embedChunks ready chunks) transaction tables () left tables ∧
      left.failed = false ∧ Adds transaction left := by
  rw [embedChunks]
  split
  · exact comesTo_writeChunkEmbeddings database tables chunks alive
  · exact ⟨transaction, Leads.pure, alive, .refl transaction⟩

def indexedResult (documentId : UUID) (chunks : List ParsedChunk) : IngestResult where
  status := .indexed
  externalDocumentId := some (toString documentId)
  message := "Indexed " ++ toString chunks.length ++
    " text chunk(s) into AgentHive pgvector fallback."
  metadata := [("chunk_count", .int chunks.length)]

theorem comesTo_ingestDocumentToPgvector (database : KnowledgeDatabase)
    (tables : KnowledgeTables) (documentId : UUID) {raw : Bytes} {config : Int × Int}
    {chunks : List ParsedChunk} (configured : readParserConfig document.parserConfig = .ok config)
    (parsed : parseDocumentChunks lib raw document config.1 config.2 = .ok chunks) :
    ∃ left after, ComesTo database (ingestDocumentToPgvector lib documentId document) {} tables
        (indexedResult documentId chunks) left tables ∧
      left.failed = false ∧ Inserted database tables documentId document chunks left.writes ∧
      tables.write left.writes = some after := by
  let ids := List.range' tables.nextId chunks.length
  have long : ids.length = chunks.length := List.length_range'
  let inserted : KnowledgeTransaction :=
    { writes := [] ++ [.deleteChunks (tables.read database (.deleteChunks (.named documentId)))] ++
        chunkInserts documentId document 0 ids chunks }
  obtain ⟨texts, first, alive, added⟩ := comesTo_writeFtsTexts database tables (ids.zip chunks)
    (show inserted.failed = false from rfl)
  obtain ⟨left, second, lives, more⟩ := comesTo_embedChunks database tables database.schemaReady
    (ids.zip chunks) alive
  obtain ⟨late, decorates, eq⟩ := added.trans more
  have writes : left.writes =
      [.deleteChunks (tables.read database (.deleteChunks (.named documentId)))] ++
        chunkInserts documentId document 0 ids chunks ++ late := eq
  obtain ⟨after, written⟩ := write_inserted database tables documentId document 0 chunks decorates
  refine ⟨left, after, ?_, lives, ⟨0, ids, late, long, decorates, writes⟩, ?_⟩
  · refine Leads.bind (comesTo_tryExcept (comesTo_ask rfl)) ?_
    refine Leads.bind (comesTo_service raw) (Leads.bind (Leads.ofExcept configured) ?_)
    refine Leads.bind (Leads.ofExcept parsed) ?_
    refine Leads.bind (Leads.bind (comesTo_ask rfl) comesTo_add) ?_
    refine Leads.bind (comesTo_utcNow 0) (Leads.bind (comesTo_newIds long) ?_)
    refine Leads.bind comesTo_add (Leads.bind (comesTo_ask rfl) ?_)
    exact Leads.bind first (Leads.bind second Leads.pure)
  · rw [writes]
    exact written

section

variable (alive : transaction.failed = false)

include alive

theorem comesTo_refreshDocument (stored : tables.documents.get documentId = some document) :
    ComesTo database (refreshDocument documentId) transaction tables document transaction
      tables := by
  refine Leads.bind (comesTo_ask alive) ?_
  rw [KnowledgeTables.read, stored]
  exact Leads.pure

theorem comesTo_refreshBase {knowledgeBaseId : UUID} {base : KnowledgeBase} (stored : tables.bases.get knowledgeBaseId = some base) :
    ComesTo database (refreshBase knowledgeBaseId) transaction tables base transaction tables := by
  refine Leads.bind (comesTo_ask alive) ?_
  rw [KnowledgeTables.read, stored]
  exact Leads.pure

theorem comesTo_getAccessibleBase {knowledgeBaseId : UUID} {base : KnowledgeBase}
    {principal : Principal} (stored : tables.bases.get knowledgeBaseId = some base)
    (own : base.tenantId = principal.tenantId) (there : base.deletedAt = none)
    (administrator : principal.isTenantAdmin = true) :
    ComesTo database (getAccessibleBase knowledgeBaseId principal true) transaction tables base
      transaction tables := by
  have found : ComesTo database (getBaseForTenant knowledgeBaseId principal.tenantId) transaction
      tables base transaction tables := by
    refine Leads.bind (comesTo_ask alive) ?_
    rw [KnowledgeTables.read, stored]
    exact Leads.ite_neg (by simp [own, there]) Leads.pure
  have departments : ComesTo database (principalDepartmentIds principal) transaction tables []
      transaction tables := Leads.ite_pos administrator Leads.pure
  refine Leads.bind found (Leads.bind departments (Leads.bind (comesTo_refuse ?_) Leads.pure))
  simp [canWriteBase, administrator]

theorem comesTo_getDocumentForTenant {tenantId : UUID}
    (stored : tables.documents.get documentId = some document)
    (own : document.tenantId = tenantId) (there : document.deletedAt = none) :
    ComesTo database (getDocumentForTenant document.knowledgeBaseId documentId tenantId)
      transaction tables document transaction tables := by
  refine Leads.bind (comesTo_ask alive) ?_
  rw [KnowledgeTables.read, stored]
  exact Leads.ite_neg (by simp [own, there]) Leads.pure

end

def Extractable (row : KnowledgeDocument) : Prop :=
  ∃ raw text, lib.decodeDocumentText raw row.contentType row.filename = .ok text

theorem parseDocumentChunks_of_decode {row : KnowledgeDocument} {raw : Bytes} {text : String}
    (config : Int × Int)
    (decoded : lib.decodeDocumentText raw row.contentType row.filename = .ok text) :
    parseDocumentChunks lib raw row config.1 config.2 =
      .ok ((lib.chunkText text config.1 config.2).map fun chunk =>
        { text := chunk
          tokenCount := DocumentProcessing.roughTokenCount chunk
          searchText := String.ofList (DocumentProcessing.normalizeSearchText lib.classes chunk)
          ftsText := DocumentProcessing.buildFtsText lib.classes chunk }) := by
  rw [parseDocumentChunks, decoded]
  rfl

section Completion

variable {row : KnowledgeDocument} {shapes : List ChunkShape}
  {bases : OrderedDict UUID KnowledgeBase} {base : KnowledgeBase}

theorem comesTo_ingest (database : KnowledgeDatabase)
    (held : tables.Holds documentId row shapes bases)
    (configured : row.parserConfig = {}) (able : base.ragEngine = .ragflow ∨ Extractable lib row) :
    ∃ result left after chunks, ComesTo database (ingest lib base documentId row) {} tables result
        left tables ∧
      left.failed = false ∧ mapIngestStatus result.status = .indexed ∧
      tables.write left.writes = some after ∧ after.Holds documentId row chunks bases := by
  cases engine : base.ragEngine with
  | ragflow =>
    refine ⟨{ status := .indexed, message := "" }, {}, tables, shapes, ?_, rfl, rfl, rfl, held⟩
    rw [ingest, engine]
    exact comesTo_service _
  | pgvector =>
    rcases able with external | ⟨raw, text, decoded⟩
    · rw [engine] at external
      cases external
    have numbers : readParserConfig row.parserConfig = .ok (900, 120) := by
      rw [configured]
      rfl
    obtain ⟨left, after, comes, alive, inserted, written⟩ :=
      comesTo_ingestDocumentToPgvector lib database tables documentId numbers
        (parseDocumentChunks_of_decode lib (900, 120) decoded)
    rw [show ingest lib base documentId row = ingestDocumentToPgvector lib documentId row by
      rw [ingest, engine]]
    exact ⟨_, left, after, _, comes, alive, rfl, written, held.ingested inserted written⟩

theorem finishes_ingestUploaded (database : KnowledgeDatabase)
    (held : tables.Holds documentId row shapes bases) (configured : row.parserConfig = {})
    (able : base.ragEngine = .ragflow ∨ Extractable lib row) :
    ∃ after changed,
      Finishes database (ingestUploaded lib base documentId row) {} tables {} after ∧
      after.documents.get documentId = some changed ∧ changed.status = .indexed := by
  obtain ⟨second, written⟩ : ∃ after, tables.write [.updateDocument documentId row
      { row with status := .ingesting }] = some after := ⟨_, rfl⟩
  have ingesting := held.updated written ⟨rfl, rfl, rfl, rfl⟩
  obtain ⟨result, left, filled, chunks, comes, alive, indexed, writes, placed⟩ :=
    comesTo_ingest lib database ingesting configured able
  let changed := ingestedDocument { row with status := .ingesting } result
  obtain ⟨third, last⟩ : ∃ after, filled.write [.updateDocument documentId
      { row with status := .ingesting } changed] = some after := ⟨_, rfl⟩
  have done := placed.updated last ⟨rfl, rfl, rfl, rfl⟩
  refine ⟨third, changed, ?_, done.document, indexed⟩
  have asked : ComesTo database (ingestRequest { row with status := .ingesting }) {} second () {}
      second := by
    rw [ingestRequest, show ({ row with status := .ingesting } : KnowledgeDocument).parserConfig =
      {} from configured]
    exact Leads.pure
  have stored : second.write (left.writes ++ [.updateDocument documentId
      { row with status := .ingesting } changed]) = some third := by
    rw [write_append, writes]
    exact last
  refine ComesTo.andThen comesTo_add (ComesTo.andThen (comesTo_commit rfl written) ?_)
  refine ComesTo.andThen (comesTo_refreshDocument rfl ingesting.document) (finishes_tryExcept ?_)
  refine ComesTo.andThen asked (ComesTo.andThen comes (ComesTo.andThen comesTo_add ?_))
  refine ComesTo.andThen (comesTo_commit (by exact alive) stored) ?_
  exact ⟨_, Leads.bind (comesTo_refreshDocument rfl done.document) Leads.pure⟩

theorem finishes_completeDocumentUpload {principal : Principal}
    (stored : tables.documents.get documentId = some row)
    (baseStored : tables.bases.get row.knowledgeBaseId = some base)
    (able : base.ragEngine = .ragflow ∨ Extractable lib row) (ready : row.status ∈ completable)
    (there : row.deletedAt = none) (baseThere : base.deletedAt = none)
    (ofTenant : row.tenantId = principal.tenantId) (ofBase : base.tenantId = principal.tenantId)
    (administrator : principal.isTenantAdmin = true) :
    ∃ after changed,
      Finishes database (completeDocumentUpload lib principal row.knowledgeBaseId documentId
        { parserConfig := some {} }) {} tables {} after ∧
      after.documents.get documentId = some changed ∧ changed.status = .indexed := by
  have held : tables.Holds documentId row (tables.shapesOf documentId) tables.bases :=
    ⟨stored, rfl, rfl⟩
  obtain ⟨first, written⟩ : ∃ after, tables.write [.updateDocument documentId row
      (uploadedDocument row { parserConfig := some {} })] = some after := ⟨_, rfl⟩
  have uploaded := held.updated written ⟨rfl, rfl, rfl, rfl⟩
  obtain ⟨after, changed, finishes, done, indexed⟩ :=
    finishes_ingestUploaded lib database uploaded rfl able
  refine ⟨after, changed, ?_, done, indexed⟩
  have permitted : principal.hasPermission .knowledgeWrite = true := by
    rw [Principal.hasPermission, administrator, Bool.true_or]
  have undeleted : row.status ≠ .deleted := by
    intro deleted
    rw [deleted] at ready
    exact absurd ready (by decide)
  refine ComesTo.andThen (comesTo_refuse (by simp [permitted])) (finishes_guarded ?_)
  refine ComesTo.andThen
    (comesTo_getAccessibleBase rfl baseStored ofBase baseThere administrator) ?_
  refine ComesTo.andThen (comesTo_getDocumentForTenant rfl stored ofTenant there) ?_
  refine ComesTo.andThen (comesTo_refuse undeleted) ?_
  refine ComesTo.andThen (comesTo_refuse (not_not.mpr ready)) ?_
  refine ComesTo.andThen comesTo_add (ComesTo.andThen (comesTo_commit rfl written) ?_)
  refine ComesTo.andThen (comesTo_refreshDocument rfl uploaded.document) ?_
  refine ComesTo.andThen (comesTo_refreshBase rfl (uploaded.bases ▸ baseStored)) ?_
  exact finishes

end Completion

end KnowledgeService
end AgentHive
