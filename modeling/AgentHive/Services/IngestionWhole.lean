import AgentHive.Services.KnowledgeRules

/-!
Ingestion into the chunk table, and what it leaves where a step of it raises.
-/

namespace AgentHive

structure ChunkShape where
  index : Nat
  text : String
  tokenCount : Nat
  searchText : String
deriving DecidableEq

def KnowledgeChunk.shape (chunk : KnowledgeChunk) : ChunkShape where
  index := chunk.chunkIndex
  text := chunk.text
  tokenCount := chunk.tokenCount
  searchText := chunk.searchText

def KnowledgeTables.shapesOf (tables : KnowledgeTables) (documentId : UUID) : List ChunkShape :=
  (tables.chunks.entries.filter fun e => e.2.documentId == documentId).map fun e => e.2.shape

def parsedShapes (chunks : List ParsedChunk) : List ChunkShape :=
  chunks.zipIdx.map fun e => ⟨e.2, e.1.text, e.1.tokenCount, e.1.searchText⟩

def Parsed (lib : KnowledgeLibrary) (row : KnowledgeDocument) (notes : RunNotes)
    (chunks : List ParsedChunk) : Prop :=
  ∃ raw config, notes.object = some raw ∧
    KnowledgeService.readParserConfig row.parserConfig = .ok config ∧
    KnowledgeService.parseDocumentChunks lib raw row config.1 config.2 = .ok chunks

structure WholeRow (lib : KnowledgeLibrary) (row : KnowledgeDocument) (shapes : List ChunkShape)
    (notes : RunNotes) : Prop where
  chunkCount : row.chunkCount = shapes.length
  indexed : row.status = .indexed → ∃ chunks, Parsed lib row notes chunks ∧
    shapes = parsedShapes chunks
  failed : row.status = .failed → shapes = []

def WholeDocument (lib : KnowledgeLibrary) (documentId : UUID)
    (state : KnowledgeTables × RunNotes) :
    Prop :=
  ∃ row, state.1.documents.get documentId = some row ∧
    WholeRow lib row (state.1.shapesOf documentId) state.2

/-- What decides over an ingestion: after the last of its three commits, that the object
was read and parsed and no embedding has failed, or that there were no chunks in the
first place; before it, that the row told of its chunks what there was. -/
def LeavesWhole (lib : KnowledgeLibrary) (row : KnowledgeDocument) (shapes : List ChunkShape)
    (payload : DocumentUploadCompleteRequest) (notes : RunNotes) : Prop :=
  if notes.committed = 3 then
    ((∃ chunks, Parsed lib (KnowledgeService.uploadedDocument row payload) notes chunks) ∧
      notes.embeddingFailed = false) ∨
    ((¬ ∃ chunks, Parsed lib (KnowledgeService.uploadedDocument row payload) notes chunks) ∧
      row.chunkCount = 0 ∧ shapes = [])
  else
    row.chunkCount = shapes.length ∧ (notes.committed = 0 ∧ row.status = .failed → shapes = [])

structure KnowledgeDocument.SameFile (row changed : KnowledgeDocument) : Prop where
  tenantId : changed.tenantId = row.tenantId
  knowledgeBaseId : changed.knowledgeBaseId = row.knowledgeBaseId
  filename : changed.filename = row.filename
  contentType : changed.contentType = row.contentType

theorem KnowledgeDocument.SameFile.update_eq {row changed : KnowledgeDocument}
    (same : row.SameFile changed) : row.update row changed = changed := by
  obtain ⟨tenantId, knowledgeBaseId, filename, contentType⟩ := same
  simp only [KnowledgeDocument.update, column_self, ← tenantId, ← knowledgeBaseId, ← filename,
    ← contentType]

namespace KnowledgeTables

variable {tables after : KnowledgeTables} {documentId : UUID}

structure Holds (tables : KnowledgeTables) (documentId : UUID) (row : KnowledgeDocument)
    (shapes : List ChunkShape) (bases : OrderedDict UUID KnowledgeBase) : Prop where
  document : tables.documents.get documentId = some row
  shapes : tables.shapesOf documentId = shapes
  bases : tables.bases = bases

theorem Holds.updated {row changed : KnowledgeDocument} {shapes : List ChunkShape}
    {bases : OrderedDict UUID KnowledgeBase} (held : tables.Holds documentId row shapes bases)
    (written : tables.write [.updateDocument documentId row changed] = some after)
    (same : row.SameFile changed) : after.Holds documentId changed shapes bases := by
  cases written
  refine ⟨?_, held.shapes, held.bases⟩
  simp only [OrderedDict.get_mapValues, held.document, Option.map_some, if_true, same.update_eq]

section Chunks

variable {row : KnowledgeDocument} {shapes : List ChunkShape}
  {bases : OrderedDict UUID KnowledgeBase} {w : KnowledgeWrite}

def Decorates : KnowledgeWrite → Prop
  | .setFtsText _ _ | .setEmbedding _ _ => True
  | _ => False

theorem shapesOf_mapValues (f : UUID → KnowledgeChunk → KnowledgeChunk)
    (own : ∀ k chunk, (f k chunk).documentId = chunk.documentId)
    (same : ∀ k chunk, (f k chunk).shape = chunk.shape) :
    ({ tables with chunks := tables.chunks.mapValues f } : KnowledgeTables).shapesOf documentId =
      tables.shapesOf documentId := by
  simp only [shapesOf, OrderedDict.mapValues, List.filter_map, List.map_map, Function.comp_def, own,
    same]

variable (held : tables.Holds documentId row shapes bases)

include held

theorem Holds.decorated (own : Decorates w)
    (applied : tables.apply w = some after) : after.Holds documentId row shapes bases := by
  cases w with
  | setFtsText id text =>
    cases applied
    refine ⟨held.document, (shapesOf_mapValues _ ?_ ?_).trans held.shapes, held.bases⟩
    · intro k chunk
      split <;> rfl
    · intro k chunk
      split <;> rfl
  | setEmbedding id embedding =>
    cases applied
    refine ⟨held.document, (shapesOf_mapValues _ ?_ ?_).trans held.shapes, held.bases⟩
    · intro k chunk
      split <;> rfl
    · intro k chunk
      split <;> rfl
  | _ => exact own.elim

variable {database : KnowledgeDatabase}

theorem Holds.cleared (applied : tables.apply (.deleteChunks
      (tables.read database (.deleteChunks (.named documentId)))) = some after) :
    after.Holds documentId row [] bases := by
  cases applied
  refine ⟨held.document, ?_, held.bases⟩
  rw [shapesOf, OrderedDict.filterKeys, List.filter_filter, List.map_eq_nil_iff,
    List.filter_eq_nil_iff]
  intro e mem both
  obtain ⟨own, kept⟩ := Bool.and_eq_true_iff.mp both
  refine of_decide_eq_true kept (List.mem_map.mpr ⟨e, List.mem_filter.mpr ⟨mem, own⟩, rfl⟩)

theorem Holds.inserted {id : UUID} {chunk : KnowledgeChunk} (own : chunk.documentId = documentId)
    (applied : tables.apply (.insertChunk id chunk) = some after) :
    after.Holds documentId row (shapes ++ [chunk.shape]) bases := by
  obtain ⟨fresh, ⟨⟩⟩ := Option.ite_none_left_eq_some.mp applied
  refine ⟨held.document, ?_, held.bases⟩
  rw [← held.shapes]
  simp only [shapesOf, OrderedDict.entries_set, if_neg fresh, List.filter_append, List.map_append]
  simp [own]

variable {document : KnowledgeDocument}

theorem Holds.insertedAll {now : Instant} {placed : List (UUID × ParsedChunk × Nat)}
    (written : tables.write (placed.map fun e => .insertChunk e.1
      (KnowledgeService.chunkRow documentId document now e.2.1 e.2.2)) = some after) :
    after.Holds documentId row (shapes ++ placed.map fun e =>
      ⟨e.2.2, e.2.1.text, e.2.1.tokenCount, e.2.1.searchText⟩) bases := by
  induction placed generalizing tables shapes with
  | nil =>
    cases written
    simpa using held
  | cons e rest ih =>
    obtain ⟨next, first, others⟩ := Option.bind_eq_some_iff.mp written
    have later := ih (held.inserted rfl first) others
    rw [List.append_assoc] at later
    exact later

def Inserted (database : KnowledgeDatabase) (tables : KnowledgeTables) (documentId : UUID)
    (document : KnowledgeDocument) (chunks : List ParsedChunk) (writes : List KnowledgeWrite) :
    Prop :=
  ∃ now ids late, ids.length = chunks.length ∧ (∀ w ∈ late, Decorates w) ∧
    writes = [.deleteChunks (tables.read database (.deleteChunks (.named documentId)))] ++
      KnowledgeService.chunkInserts documentId document now ids chunks ++ late

omit held in
theorem Inserted.decorate {chunks : List ParsedChunk} {writes more : List KnowledgeWrite}
    (inserted : Inserted database tables documentId document chunks writes)
    (own : ∀ w ∈ more, Decorates w) :
    Inserted database tables documentId document chunks (writes ++ more) := by
  obtain ⟨now, ids, late, long, decorates, eq⟩ := inserted
  refine ⟨now, ids, late ++ more, long, List.forall_mem_append.mpr ⟨decorates, own⟩, ?_⟩
  rw [eq, List.append_assoc]

theorem Holds.ingested {chunks : List ParsedChunk} {writes : List KnowledgeWrite}
    (inserted : Inserted database tables documentId document chunks writes)
    (written : tables.write writes = some after) :
    after.Holds documentId row (parsedShapes chunks) bases := by
  obtain ⟨now, ids, late, long, decorates, eq⟩ := inserted
  rw [eq, write_append, write_append, Option.bind_assoc] at written
  obtain ⟨cleared, first, rest⟩ := Option.bind_eq_some_iff.mp written
  obtain ⟨filled, second, third⟩ := Option.bind_eq_some_iff.mp rest
  obtain ⟨_, deleted, same⟩ := Option.bind_eq_some_iff.mp first
  cases same
  have placed := (held.cleared deleted).insertedAll second
  have shapes : (ids.zip chunks.zipIdx).map (fun e => (⟨e.2.2, e.2.1.text, e.2.1.tokenCount,
      e.2.1.searchText⟩ : ChunkShape)) = parsedShapes chunks := by
    have snds : (ids.zip chunks.zipIdx).map Prod.snd = chunks.zipIdx :=
      List.map_snd_zip (by rw [List.length_zipIdx, long])
    calc
      _ = ((ids.zip chunks.zipIdx).map Prod.snd).map fun e =>
            (⟨e.2, e.1.text, e.1.tokenCount, e.1.searchText⟩ : ChunkShape) := by
          rw [List.map_map]
          rfl
      _ = parsedShapes chunks := by
          rw [snds, parsedShapes]
  rw [List.nil_append, shapes] at placed
  refine write_keeps (P := fun t => t.Holds documentId row (parsedShapes chunks) bases) ?_ third
    placed
  intro _ _ w mem applied held
  exact held.decorated (decorates w mem) applied

end Chunks

end KnowledgeTables

namespace KnowledgeService

open KnowledgeSession KnowledgeTables

variable {database : KnowledgeDatabase} {transaction : KnowledgeTransaction}
  {tables : KnowledgeTables} {notes : RunNotes} (lib : KnowledgeLibrary) {documentId : UUID}
  {document : KnowledgeDocument}

def Adds (transaction left : KnowledgeTransaction) : Prop :=
  ∃ more, (∀ w ∈ more, Decorates w) ∧ left.writes = transaction.writes ++ more

theorem Adds.refl (transaction : KnowledgeTransaction) : Adds transaction transaction :=
  ⟨[], (fun _ mem => by cases mem), (List.append_nil _).symm⟩

theorem Adds.trans {first second third : KnowledgeTransaction} (before : Adds first second)
    (after : Adds second third) : Adds first third := by
  obtain ⟨more, decorates, eq⟩ := before
  obtain ⟨others, decorates', eq'⟩ := after
  refine ⟨more ++ others, List.forall_mem_append.mpr ⟨decorates, decorates'⟩, ?_⟩
  rw [eq', eq, List.append_assoc]

theorem Adds.single {w : KnowledgeWrite} (own : Decorates w) :
    Adds transaction { transaction with writes := transaction.writes ++ [w] } := by
  refine ⟨[w], fun v mem => ?_, rfl⟩
  rw [List.mem_singleton.mp mem]
  exact own

variable {left : KnowledgeTransaction} {chunks : List ParsedChunk}

theorem Adds.inserted (added : Adds transaction left)
    (inserted : Inserted database tables documentId document chunks transaction.writes) :
    Inserted database tables documentId document chunks left.writes := by
  obtain ⟨more, decorates, eq⟩ := added
  rw [eq]
  exact inserted.decorate decorates

def Looped (transaction : KnowledgeTransaction) (tables : KnowledgeTables) (notes : RunNotes)
    (chunks : List (UUID × ParsedChunk)) : After Unit :=
  fun r left s => s.1 = tables ∧
    match r with
    | .ok _ => left.failed = false ∧ s.2 = notes ∧ Adds transaction left
    | .error _ => left.failed = true ∧ s.2 = notes ∨
        s.2 = notes.failEmbedding ∧ chunks ≠ [] ∧ Adds transaction left

theorem Looped.cons {first : KnowledgeTransaction} {e : UUID × ParsedChunk}
    {rest : List (UUID × ParsedChunk)} (added : Adds transaction first) {r : Except Exc Unit}
    {s : KnowledgeTables × RunNotes} (looped : Looped first tables notes rest r left s) :
    Looped transaction tables notes (e :: rest) r left s := by
  refine ⟨looped.1, ?_⟩
  cases r with
  | ok _ => exact ⟨looped.2.1, looped.2.2.1, added.trans looped.2.2.2⟩
  | error x =>
    refine looped.2.imp id fun failed => ?_
    exact ⟨failed.1, List.cons_ne_nil e rest, added.trans failed.2.2⟩

theorem updateChunk_ends {w : KnowledgeWrite} {Q : After Unit}
    (alive : transaction.failed = false) :
    Ends database (updateChunk w) transaction tables notes Q ↔
      Q (.ok ()) { transaction with writes := transaction.writes ++ [w] } (tables, notes) ∧
        ∀ x, Q (.error x) (spoiled transaction) (tables, notes) := by
  rw [updateChunk, ends_bind, ends_ask alive]
  rfl

theorem writeFtsTexts_ends (chunks : List (UUID × ParsedChunk))
    (alive : transaction.failed = false) :
    Ends database (writeFtsTexts chunks) transaction tables notes
      (Looped transaction tables notes chunks) := by
  induction chunks generalizing transaction with
  | nil => exact ⟨rfl, alive, rfl, .refl transaction⟩
  | cons e rest ih =>
    rw [writeFtsTexts]
    split
    · exact (ih alive).mono fun r left s => Looped.cons (.refl transaction)
    · refine ends_bind.mpr ((updateChunk_ends alive).mpr ⟨?_, fun x => ⟨rfl, .inl ⟨rfl, rfl⟩⟩⟩)
      exact (ih (by exact alive)).mono fun r left s => Looped.cons (.single (by exact trivial))

theorem writeChunkEmbeddings_ends (chunks : List (UUID × ParsedChunk))
    (alive : transaction.failed = false) :
    Ends database (writeChunkEmbeddings chunks) transaction tables notes
      (Looped transaction tables notes chunks) := by
  induction chunks generalizing transaction with
  | nil => exact ⟨rfl, alive, rfl, .refl transaction⟩
  | cons e rest ih =>
    refine ends_bind.mpr (ends_service.mpr fun answer => ?_)
    cases answer with
    | error x => exact ⟨rfl, .inr ⟨rfl, List.cons_ne_nil e rest, .refl transaction⟩⟩
    | ok embedding =>
      refine ends_bind.mpr ((updateChunk_ends alive).mpr ⟨?_, fun x => ⟨rfl, .inl ⟨rfl, rfl⟩⟩⟩)
      exact (ih (by exact alive)).mono fun r left s =>
        Looped.cons (.single (by exact trivial))

theorem embedChunks_ends (ready : Bool) (chunks : List (UUID × ParsedChunk))
    (alive : transaction.failed = false) :
    Ends database (embedChunks ready chunks) transaction tables notes
      (Looped transaction tables notes chunks) := by
  rw [embedChunks]
  split
  · exact writeChunkEmbeddings_ends chunks alive
  · exact ⟨rfl, alive, rfl, .refl transaction⟩

def Ingested (database : KnowledgeDatabase) (documentId : UUID) (document : KnowledgeDocument)
    (tables : KnowledgeTables) (notes : RunNotes) : After IngestResult :=
  fun r left s => s.1 = tables ∧ s.2.committed = notes.committed ∧
    (left.failed = true ∨
      match r with
      | .ok result => ∃ chunks, Parsed lib document s.2 chunks ∧ s.2.embeddingFailed = false ∧
          Inserted database tables documentId document chunks left.writes ∧
          mapIngestStatus result.status = .indexed ∧
          extractChunkCount result.metadata = chunks.length
      | .error _ =>
        (left.writes = [] ∧ ¬ ∃ chunks, Parsed lib document s.2 chunks) ∨
        ∃ chunks, Parsed lib document s.2 chunks ∧ chunks ≠ [] ∧ s.2.embeddingFailed = true ∧
          Inserted database tables documentId document chunks left.writes)

theorem Ingested.of_loop {ids : List UUID} {x : Exc} {s : KnowledgeTables × RunNotes}
    (looped : Looped transaction tables notes (ids.zip chunks) (.error x) left s)
    (parsed : Parsed lib document notes chunks)
    (inserted : Inserted database tables documentId document chunks transaction.writes) :
    Ingested lib database documentId document tables notes (.error x) left s := by
  obtain ⟨same, lost | ⟨failed, some_, added⟩⟩ := looped
  · exact ⟨same, by rw [lost.2], .inl lost.1⟩
  · refine ⟨same, by rw [failed]; rfl, .inr (.inr ⟨chunks, ?_, ?_, ?_, added.inserted inserted⟩)⟩
    · rw [failed]
      exact parsed
    · intro none
      rw [none, List.zip_nil_right] at some_
      exact some_ rfl
    · rw [failed]
      rfl

def storeChunks (documentId : UUID) (document : KnowledgeDocument) (ready : Bool)
    (chunks : List ParsedChunk) : KnowledgeSession IngestResult := do
  deleteChunks (.named documentId)
  let now ← utcNow
  let ids ← newIds chunks.length
  add (chunkInserts documentId document now ids chunks)
  ask .flush
  writeFtsTexts (ids.zip chunks)
  embedChunks ready (ids.zip chunks)
  pure
    { status := .indexed
      externalDocumentId := some (toString documentId)
      message := "Indexed " ++ toString chunks.length ++
        " text chunk(s) into AgentHive pgvector fallback."
      metadata := [("chunk_count", .int chunks.length)] }

theorem insertChunks_ends {ready : Bool} (parsed : Parsed lib document notes chunks)
    (calm : notes.embeddingFailed = false) (empty : transaction.writes = []) :
    Ends database (storeChunks documentId document ready chunks) transaction tables notes
      (Ingested lib database documentId document tables notes) := by
  cases alive : transaction.failed with
  | true =>
    refine ends_bind.mpr (ends_bind.mpr ((ends_ask_lost alive).mpr ?_))
    exact ⟨rfl, rfl, .inl alive⟩
  | false =>
    refine ends_bind.mpr (ends_bind.mpr ((ends_ask alive).mpr ⟨?_, fun x => ?_⟩))
    · refine ends_add.mpr (ends_bind.mpr (ends_utcNow.mpr fun now => ?_))
      refine ends_bind.mpr (ends_newIds.mpr fun ids long => ends_bind.mpr (ends_add.mpr ?_))
      refine ends_bind.mpr ((ends_ask (by exact alive)).mpr ⟨?_, fun x => ?_⟩)
      · have filled : Inserted database tables documentId document chunks
            (transaction.writes ++
              [.deleteChunks (tables.read database (.deleteChunks (.named documentId)))] ++
              chunkInserts documentId document now ids chunks) := by
          refine ⟨now, ids, [], long, (fun _ mem => by cases mem), ?_⟩
          rw [empty, List.nil_append, List.append_nil]
        refine ends_bind.mpr ((writeFtsTexts_ends _ (by exact alive)).mono ?_)
        intro r left s texts
        cases r with
        | error x => exact .of_loop lib texts parsed filled
        | ok _ =>
          obtain ⟨same, alive', noted, added⟩ := texts
          rw [same, noted]
          refine ends_bind.mpr
            ((embedChunks_ends ready _ alive').mono fun r left' s' embedded => ?_)
          have filled' := added.inserted filled
          cases r with
          | error x => exact .of_loop lib embedded parsed filled'
          | ok _ =>
            obtain ⟨same', -, noted', added'⟩ := embedded
            refine ⟨same', by rw [noted'], .inr ⟨chunks, ?_⟩⟩
            rw [noted']
            exact ⟨parsed, calm, added'.inserted filled', rfl, rfl⟩
      · exact ⟨rfl, rfl, .inl rfl⟩
    · exact ⟨rfl, rfl, .inl rfl⟩

theorem readObject_ends {ready : Bool} (unread : notes.object = none)
    (calm : notes.embeddingFailed = false) (empty : transaction.writes = []) :
    Ends database
      (do
        let raw ← service (.getObject documentId)
        let config ← Process.Action.ofExcept (readParserConfig document.parserConfig)
        let chunks ← Process.Action.ofExcept
          (parseDocumentChunks lib raw document config.1 config.2)
        storeChunks documentId document ready chunks)
      transaction tables notes (Ingested lib database documentId document tables notes) := by
  refine ends_bind.mpr (ends_service.mpr fun answer => ?_)
  cases answer with
  | error x =>
    refine ⟨rfl, rfl, .inr (.inl ⟨empty, ?_⟩)⟩
    intro ⟨chunks, raw, config, object, _⟩
    rw [show notes.object = some raw from object] at unread
    cases unread
  | ok raw =>
    refine ends_bind.mpr ((Process.Action.from_ofExcept _ _ _ _).mpr ?_)
    cases configured : readParserConfig document.parserConfig with
    | error x =>
      refine ⟨rfl, rfl, .inr (.inl ⟨empty, ?_⟩)⟩
      intro ⟨chunks, raw', config, _, numbers, _⟩
      rw [configured] at numbers
      cases numbers
    | ok config =>
      refine ends_bind.mpr ((Process.Action.from_ofExcept _ _ _ _).mpr ?_)
      cases parsed : parseDocumentChunks lib raw document config.1 config.2 with
      | error x =>
        refine ⟨rfl, rfl, .inr (.inl ⟨empty, ?_⟩)⟩
        intro ⟨chunks, raw', config', object, numbers, parses⟩
        cases object
        rw [configured] at numbers
        cases numbers
        rw [parsed] at parses
        cases parses
      | ok chunks =>
        exact insertChunks_ends lib ⟨raw, config, rfl, configured, parsed⟩ calm empty

theorem ingestDocumentToPgvector_ends (unread : notes.object = none)
    (calm : notes.embeddingFailed = false) :
    Ends database (ingestDocumentToPgvector lib documentId document) {} tables notes
      (Ingested lib database documentId document tables notes) := by
  refine ends_bind.mpr (ends_tryExcept.mpr ((ends_ask rfl).mpr ⟨?_, fun x => ?_⟩))
  · exact readObject_ends lib unread calm rfl
  · dsimp only
    split
    · exact readObject_ends lib unread calm rfl
    · exact ⟨rfl, rfl, .inl rfl⟩

theorem refreshDocument_ends {Q : After KnowledgeDocument} (alive : transaction.failed = false)
    (stored : tables.documents.get documentId = some document) :
    Ends database (refreshDocument documentId) transaction tables notes Q ↔
      Q (.ok document) transaction (tables, notes) ∧
        ∀ x, Q (.error x) (spoiled transaction) (tables, notes) := by
  rw [refreshDocument, ends_bind, ends_ask alive]
  simp only [KnowledgeTables.read, stored]
  rfl

theorem refreshBase_ends {knowledgeBaseId : UUID} {base : KnowledgeBase} {Q : After KnowledgeBase}
    (alive : transaction.failed = false) (stored : tables.bases.get knowledgeBaseId = some base) :
    Ends database (refreshBase knowledgeBaseId) transaction tables notes Q ↔
      Q (.ok base) transaction (tables, notes) ∧
        ∀ x, Q (.error x) (spoiled transaction) (tables, notes) := by
  rw [refreshBase, ends_bind, ends_ask alive]
  simp only [KnowledgeTables.read, stored]
  rfl

section Whole

variable {row : KnowledgeDocument} {shapes : List ChunkShape}
  {bases : OrderedDict UUID KnowledgeBase} {payload : DocumentUploadCompleteRequest}

def Decided (documentId : UUID) (row : KnowledgeDocument) (shapes : List ChunkShape)
    (payload : DocumentUploadCompleteRequest) (state : KnowledgeTables × RunNotes) : Prop :=
  WholeDocument lib documentId state ↔ LeavesWhole lib row shapes payload state.2

abbrev ingestingDocument (row : KnowledgeDocument) (payload : DocumentUploadCompleteRequest) :
    KnowledgeDocument :=
  { uploadedDocument row payload with status := .ingesting }

variable {changed : KnowledgeDocument}

theorem wholeDocument_iff (held : tables.Holds documentId changed shapes bases) :
    WholeDocument lib documentId (tables, notes) ↔ WholeRow lib changed shapes notes := by
  constructor
  · intro ⟨stored, there, whole⟩
    rw [held.document] at there
    cases there
    rw [held.shapes] at whole
    exact whole
  · intro whole
    refine ⟨changed, held.document, ?_⟩
    rw [held.shapes]
    exact whole

theorem decided_early (held : tables.Holds documentId changed shapes bases)
    (count : changed.chunkCount = row.chunkCount) (unindexed : changed.status ≠ .indexed)
    (failed : changed.status = .failed ↔ notes.committed = 0 ∧ row.status = .failed)
    (early : notes.committed ≠ 3) : Decided lib documentId row shapes payload (tables, notes) := by
  rw [Decided, wholeDocument_iff lib held, LeavesWhole, if_neg early, ← failed, ← count]
  constructor
  · intro whole
    exact ⟨whole.chunkCount, whole.failed⟩
  · intro ⟨told, empty⟩
    exact ⟨told, fun indexed => absurd indexed unindexed, empty⟩

variable (held : tables.Holds documentId (ingestingDocument row payload) shapes bases)

include held in
theorem decided_ingesting
    (second : notes.committed = 2) : Decided lib documentId row shapes payload (tables, notes) := by
  refine decided_early lib held rfl (by intro eq; cases eq) (iff_of_false ?_ ?_) ?_
  · intro eq
    cases eq
  · intro first
    rw [second] at first
    cases first.1
  · intro third
    rw [second] at third
    cases third

theorem decided_unparsed (held : tables.Holds documentId changed shapes bases)
    (count : changed.chunkCount = row.chunkCount) (failed : changed.status = .failed)
    (unparsed : ¬ ∃ chunks, Parsed lib (uploadedDocument row payload) notes chunks)
    (third : notes.committed = 3) : Decided lib documentId row shapes payload (tables, notes) := by
  rw [Decided, wholeDocument_iff lib held, LeavesWhole, if_pos third]
  constructor
  · intro whole
    have none := whole.failed failed
    refine .inr ⟨unparsed, ?_, none⟩
    rw [← count, whole.chunkCount, none]
    rfl
  · rintro (⟨parsed, _⟩ | ⟨_, zero, none⟩)
    · exact absurd parsed unparsed
    · refine ⟨?_, ?_, fun _ => none⟩
      · rw [count, zero, none]
        rfl
      · intro indexed
        rw [failed] at indexed
        cases indexed

variable {chunks : List ParsedChunk}

theorem decided_unembedded (held : tables.Holds documentId changed (parsedShapes chunks) bases)
    (failed : changed.status = .failed) (some_ : chunks ≠ [])
    (parsed : Parsed lib (uploadedDocument row payload) notes chunks)
    (unembedded : notes.embeddingFailed = true) (third : notes.committed = 3) :
    Decided lib documentId row shapes payload (tables, notes) := by
  rw [Decided, wholeDocument_iff lib held, LeavesWhole, if_pos third]
  refine iff_of_false ?_ ?_
  · intro whole
    have none := whole.failed failed
    rw [parsedShapes, List.map_eq_nil_iff, List.zipIdx_eq_nil_iff] at none
    exact some_ none
  · rintro (⟨_, calm⟩ | ⟨unparsed, _⟩)
    · rw [unembedded] at calm
      cases calm
    · exact unparsed ⟨chunks, parsed⟩

theorem decided_indexed (held : tables.Holds documentId changed (parsedShapes chunks) bases)
    (count : changed.chunkCount = chunks.length) (indexed : changed.status = .indexed)
    (parsed : Parsed lib changed notes chunks)
    (uploaded : Parsed lib (uploadedDocument row payload) notes chunks)
    (calm : notes.embeddingFailed = false) (third : notes.committed = 3) :
    Decided lib documentId row shapes payload (tables, notes) := by
  rw [Decided, wholeDocument_iff lib held, LeavesWhole, if_pos third]
  refine iff_of_true ⟨?_, fun _ => ⟨chunks, parsed, rfl⟩, ?_⟩ (.inl ⟨⟨chunks, uploaded⟩, calm⟩)
  · rw [count, parsedShapes, List.length_map, List.length_zipIdx]
  · intro failed
    rw [indexed] at failed
    cases failed

theorem storeIngestFailure_lost {x : Exc} (dead : transaction.failed = true) :
    Ends database (storeIngestFailure lib documentId document x) transaction tables notes
      fun _ _ s => s = (tables, notes) :=
  ends_bind.mpr (ends_add.mpr (ends_bind.mpr ((ends_commit_lost (by exact dead)).mpr rfl)))

theorem storeIngestFailure_ends {x : Exc} {P : KnowledgeTables × RunNotes → Prop}
    (alive : transaction.failed = false) (unstored : P (tables, notes))
    (stored : ∀ after, tables.write (transaction.writes ++ [.updateDocument documentId document
      { document with status := .failed, errorMessage := some (lib.excText x) }]) = some after →
      P (after, notes.countCommit)) :
    Ends database (storeIngestFailure lib documentId document x) transaction tables notes
      fun _ _ s => P s := by
  refine ends_bind.mpr (ends_add.mpr (ends_bind.mpr ((ends_commit (by exact alive)).mpr ?_)))
  refine ⟨fun after written => ?_, fun x => unstored⟩
  refine ends_bind.mpr (ends_bind.mpr ((ends_ask rfl).mpr ⟨?_, fun x => stored after written⟩))
  dsimp only
  split
  · exact stored after written
  · exact stored after written

def Broken (database : KnowledgeDatabase) (tables : KnowledgeTables) (documentId : UUID)
    (row : KnowledgeDocument) (payload : DocumentUploadCompleteRequest)
    (transaction : KnowledgeTransaction) (notes : RunNotes) : Prop :=
  (transaction.writes = [] ∧
    ¬ ∃ chunks, Parsed lib (uploadedDocument row payload) notes chunks) ∨
  ∃ chunks, Parsed lib (uploadedDocument row payload) notes chunks ∧ chunks ≠ [] ∧
    notes.embeddingFailed = true ∧
    Inserted database tables documentId (ingestingDocument row payload) chunks transaction.writes

include held in
theorem storeIngestFailure_decided {x : Exc} (second : notes.committed = 2)
    (outcome : Broken lib database tables documentId row payload transaction notes)
    (alive : transaction.failed = false) :
    Ends database (storeIngestFailure lib documentId (ingestingDocument row payload) x)
      transaction tables notes fun _ _ s => Decided lib documentId row shapes payload s := by
  have third : notes.countCommit.committed = 3 := by
    rw [RunNotes.committed_countCommit, second]
  refine storeIngestFailure_ends lib alive
    (decided_ingesting lib held second) fun after written => ?_
  rcases outcome with ⟨empty, unparsed⟩ | ⟨chunks, parsed, some_, unembedded, inserted⟩
  · rw [empty, List.nil_append] at written
    exact decided_unparsed lib (held.updated written ⟨rfl, rfl, rfl, rfl⟩) rfl rfl unparsed third
  · rw [write_append] at written
    obtain ⟨filled, first, last⟩ := Option.bind_eq_some_iff.mp written
    have placed := held.ingested inserted first
    exact decided_unembedded lib (placed.updated last ⟨rfl, rfl, rfl, rfl⟩) rfl some_ parsed
      unembedded third

include held in
theorem storeResult_decided {result : IngestResult}
    (second : notes.committed = 2) (parsed : Parsed lib (uploadedDocument row payload) notes chunks)
    (calm : notes.embeddingFailed = false)
    (inserted : Inserted database tables documentId (ingestingDocument row payload) chunks
      transaction.writes) (indexed : mapIngestStatus result.status = .indexed)
    (count : extractChunkCount result.metadata = chunks.length) {after : KnowledgeTables}
    (written : tables.write (transaction.writes ++ [.updateDocument documentId
      (ingestingDocument row payload)
      (ingestedDocument (ingestingDocument row payload) result)]) = some after) :
    after.documents.get documentId =
        some (ingestedDocument (ingestingDocument row payload) result) ∧
      Decided lib documentId row shapes payload (after, notes.countCommit) := by
  rw [write_append] at written
  obtain ⟨filled, first, last⟩ := Option.bind_eq_some_iff.mp written
  have placed := (held.ingested inserted first).updated last ⟨rfl, rfl, rfl, rfl⟩
  refine ⟨placed.document, decided_indexed lib placed count indexed parsed parsed calm ?_⟩
  rw [RunNotes.committed_countCommit, second]

variable {base : KnowledgeBase}

include held in
theorem ingestAndStore_ends (engine : base.ragEngine = .pgvector)
    (second : notes.committed = 2) (unread : notes.object = none)
    (calm : notes.embeddingFailed = false) :
    Ends database (ingestAndStore lib base documentId (ingestingDocument row payload)) {} tables
      notes fun r left s => Decided lib documentId row shapes payload s ∧
        match r with
        | .ok _ => True
        | .error _ => left.failed = true ∨ s.1 = tables ∧ s.2.committed = 2 ∧
            Broken lib database tables documentId row payload left s.2 := by
  have asked : Ends database (ingestRequest (ingestingDocument row payload)) {} tables notes
      fun r left s => left = {} ∧ s = (tables, notes) := by
    rw [ingestRequest]
    split <;> exact ⟨rfl, rfl⟩
  refine ends_bind.mpr (asked.mono fun r left s post => ?_)
  obtain ⟨eq, same⟩ := post
  subst eq
  subst same
  cases r with
  | error x =>
    refine ⟨decided_ingesting lib held second, .inr ⟨rfl, second, .inl ⟨rfl, ?_⟩⟩⟩
    intro ⟨chunks, raw, config, object, _⟩
    rw [unread] at object
    cases object
  | ok _ =>
    rw [show ingest lib base documentId (ingestingDocument row payload) =
      ingestDocumentToPgvector lib documentId (ingestingDocument row payload) by
        rw [ingest, engine]]
    refine ends_bind.mpr ((ingestDocumentToPgvector_ends lib unread calm).mono ?_)
    intro r left s ingested
    obtain ⟨tables', noted⟩ := s
    obtain ⟨same, committed, outcome⟩ := ingested
    subst same
    have later : noted.committed = 2 := committed.trans second
    have early : Decided lib documentId row shapes payload (tables', noted) :=
      decided_ingesting lib held later
    cases r with
    | error x => exact ⟨early, outcome.imp id fun broken => ⟨rfl, later, broken⟩⟩
    | ok result =>
      refine ends_bind.mpr (ends_add.mpr (ends_bind.mpr ?_))
      cases alive : left.failed with
      | true => exact (ends_commit_lost rfl).mpr ⟨early, .inl rfl⟩
      | false =>
        rcases outcome with lost | ⟨chunks, parsed, calm', inserted, indexed, count⟩
        · rw [alive] at lost
          cases lost
        refine (ends_commit rfl).mpr ⟨fun after written => ?_, fun x => ⟨early, .inl rfl⟩⟩
        obtain ⟨stored, decided⟩ := storeResult_decided lib held later parsed calm' inserted
          indexed count written
        refine ends_bind.mpr ((refreshDocument_ends rfl stored).mpr ⟨?_, fun x => ?_⟩)
        · exact ⟨decided, trivial⟩
        · exact ⟨decided, .inl rfl⟩

include held in
theorem ingestAndStore_decided (engine : base.ragEngine = .pgvector)
    (second : notes.committed = 2) (unread : notes.object = none)
    (calm : notes.embeddingFailed = false) :
    Ends database
      (tryExcept (ingestAndStore lib base documentId (ingestingDocument row payload))
        (storeIngestFailure lib documentId (ingestingDocument row payload)))
      {} tables notes fun _ _ s => Decided lib documentId row shapes payload s := by
  refine ends_tryExcept.mpr ((ingestAndStore_ends lib held engine second unread calm).mono ?_)
  intro r left s post
  cases r with
  | ok _ => exact post.1
  | error x =>
    dsimp only
    split
    · cases alive : left.failed with
      | true =>
        refine (storeIngestFailure_lost lib alive).mono fun r left s' same => ?_
        rw [same]
        exact post.1
      | false =>
        rcases post.2 with lost | ⟨same, committed, broken⟩
        · rw [alive] at lost
          cases lost
        · rw [same]
          exact storeIngestFailure_decided lib held committed broken alive
    · exact post.1

theorem ingestUploaded_decided (engine : base.ragEngine = .pgvector)
    (held : tables.Holds documentId (uploadedDocument row payload) shapes bases)
    (first : notes.committed = 1) (unread : notes.object = none)
    (calm : notes.embeddingFailed = false) :
    Ends database (ingestUploaded lib base documentId (uploadedDocument row payload)) {} tables
      notes fun _ _ s => Decided lib documentId row shapes payload s := by
  have early : Decided lib documentId row shapes payload (tables, notes) := by
    refine decided_early lib held rfl (by intro eq; cases eq) (iff_of_false ?_ ?_) ?_
    · intro eq
      cases eq
    · intro zero
      rw [first] at zero
      cases zero.1
    · intro third
      rw [first] at third
      cases third
  refine ends_bind.mpr (ends_add.mpr (ends_bind.mpr ((ends_commit rfl).mpr ⟨?_, fun x => early⟩)))
  intro after written
  have ingesting : after.Holds documentId (ingestingDocument row payload) shapes bases :=
    held.updated written ⟨rfl, rfl, rfl, rfl⟩
  have second : notes.countCommit.committed = 2 := by
    rw [RunNotes.committed_countCommit, first]
  refine ends_bind.mpr ((refreshDocument_ends rfl ingesting.document).mpr ⟨?_, fun x => ?_⟩)
  · exact ingestAndStore_decided lib ingesting engine second unread calm
  · exact decided_ingesting lib ingesting second

theorem completeDocumentRow_decided {knowledgeBaseId : UUID}
    (stored : tables.documents.get documentId = some row)
    (baseStored : tables.bases.get knowledgeBaseId = some base)
    (engine : base.ragEngine = .pgvector) (ready : row.status ∈ completable) :
    Ends database (completeDocumentRow lib knowledgeBaseId documentId row payload) {} tables {}
      fun _ _ s => Decided lib documentId row (tables.shapesOf documentId) payload s := by
  have held : tables.Holds documentId row (tables.shapesOf documentId) tables.bases :=
    ⟨stored, rfl, rfl⟩
  have unindexed : row.status ≠ .indexed := by
    intro indexed
    rw [indexed] at ready
    exact absurd ready (by decide)
  have undeleted : row.status ≠ .deleted := by
    intro deleted
    rw [deleted] at ready
    exact absurd ready (by decide)
  have start : Decided lib documentId row (tables.shapesOf documentId) payload (tables, {}) :=
    decided_early lib held rfl unindexed (iff_of_eq (by simp)) (by decide)
  refine ends_bind.mpr (ends_refuse.mpr ?_)
  rw [if_neg undeleted]
  refine ends_bind.mpr (ends_refuse.mpr ?_)
  rw [if_neg (not_not.mpr ready)]
  refine ends_bind.mpr (ends_add.mpr (ends_bind.mpr ((ends_commit rfl).mpr ⟨?_, fun x => start⟩)))
  intro after written
  have uploaded : after.Holds documentId (uploadedDocument row payload)
      (tables.shapesOf documentId) tables.bases := held.updated written ⟨rfl, rfl, rfl, rfl⟩
  have early : Decided lib documentId row (tables.shapesOf documentId) payload
      (after, RunNotes.countCommit {}) := by
    refine decided_early lib uploaded rfl (by intro eq; cases eq) (iff_of_false ?_ ?_) (by decide)
    · intro eq
      cases eq
    · intro zero
      cases zero.1
  refine ends_bind.mpr ((refreshDocument_ends rfl uploaded.document).mpr ⟨?_, fun x => early⟩)
  have base' : after.bases.get knowledgeBaseId = some base := by rw [uploaded.bases, baseStored]
  refine ends_bind.mpr ((refreshBase_ends rfl base').mpr ⟨?_, fun x => early⟩)
  dsimp only
  split
  · exact ingestUploaded_decided lib engine uploaded rfl rfl rfl
  · exact early

end Whole

end KnowledgeService

open KnowledgeService

/-- Whatever the database and the services answer, the document is whole after the run just
when the last commit was not reached, or stored a text that was read, parsed and embedded,
or stored the failure of a text that never came to chunks over a document without any. -/
theorem ingestion_whole_iff {database : KnowledgeDatabase} {lib : KnowledgeLibrary}
    {tables after : KnowledgeTables} {notes : RunNotes} {knowledgeBaseId documentId : UUID}
    {base : KnowledgeBase} {row : KnowledgeDocument} {payload : DocumentUploadCompleteRequest}
    {result : Except Exc DocumentUploadCompleteResponse}
    (run : Process.Program.Alone (notedEnvironment database)
      ((completeDocumentRow lib knowledgeBaseId documentId row payload).run {}) (tables, {}) result
      (after, notes))
    (stored : tables.documents.get documentId = some row)
    (baseStored : tables.bases.get knowledgeBaseId = some base)
    (engine : base.ragEngine = .pgvector) (ready : row.status ∈ completable) :
    WholeDocument lib documentId (after, notes) ↔
      LeavesWhole lib row (tables.shapesOf documentId) payload notes :=
  Process.Action.From.of_alone
    (Q := fun _ s => Decided lib documentId row (tables.shapesOf documentId) payload s)
    (completeDocumentRow_decided lib stored baseStored engine ready) run

def pendingDocument : KnowledgeDocument where
  tenantId := 1
  knowledgeBaseId := 1
  filename := "a.txt"
  sizeBytes := some 2

def completePending (services : (s : OutsideService) → Except Exc (OutsideRow s)) :
    Except Exc DocumentUploadCompleteResponse × (KnowledgeTables × RunNotes) :=
  ((completeDocumentRow plainInstallation.lib 1 7 pendingDocument {}).run {}).finish
    (runNotes.watch (KnowledgeTables.oracle plainDatabase services)) (onePending, {})

theorem completePending_alone (services : (s : OutsideService) → Except Exc (OutsideRow s)) :
    Process.Program.Alone (notedEnvironment plainDatabase)
      ((completeDocumentRow plainInstallation.lib 1 7 pendingDocument {}).run {}) (onePending, {})
      (completePending services).1 (completePending services).2 :=
  Process.Program.finish_alone
    (runNotes.watch_answers (KnowledgeTables.oracle_answers plainDatabase services)) _ _

theorem pending_ingested_whole :
    WholeDocument plainInstallation.lib 7 (completePending plainServices).2 := by
  have run := completePending_alone plainServices
  have third : (completePending plainServices).2.2.committed = 3 := by decide +kernel
  have object : (completePending plainServices).2.2.object = some [104, 105] := by decide +kernel
  have calm : (completePending plainServices).2.2.embeddingFailed = false := by decide +kernel
  generalize completePending plainServices = served at run third object calm ⊢
  obtain ⟨result, after, notes⟩ := served
  have stored : onePending.documents.get 7 = some pendingDocument := by decide +kernel
  refine (ingestion_whole_iff run stored rfl rfl (by decide)).mpr ?_
  rw [LeavesWhole, if_pos third]
  exact .inl ⟨⟨_, [104, 105], (900, 120), object, rfl, rfl⟩, calm⟩

def withoutEmbedding : (s : OutsideService) → Except Exc (OutsideRow s)
  | .embedText _ => .error (.os "ConnectionError" "")
  | s => plainServices s

theorem failed_with_chunk_rows :
    ¬ ∀ (database : KnowledgeDatabase) (lib : KnowledgeLibrary) (tables after : KnowledgeTables)
      (notes : RunNotes) (knowledgeBaseId documentId : UUID) (base : KnowledgeBase)
      (row : KnowledgeDocument) (payload : DocumentUploadCompleteRequest)
      (result : Except Exc DocumentUploadCompleteResponse),
      Process.Program.Alone (notedEnvironment database)
        ((completeDocumentRow lib knowledgeBaseId documentId row payload).run {}) (tables, {})
        result (after, notes) →
      tables.documents.get documentId = some row →
      tables.bases.get knowledgeBaseId = some base → base.ragEngine = .pgvector →
      row.status ∈ completable → WholeDocument lib documentId (tables, {}) →
      WholeDocument lib documentId (after, notes) := by
  intro claimed
  have run := completePending_alone withoutEmbedding
  have failed : ((completePending withoutEmbedding).2.1.documents.get 7).map (·.status) =
      some .failed := by
    decide +kernel
  have rows : ((completePending withoutEmbedding).2.1.shapesOf 7).length = 1 := by
    decide +kernel
  generalize completePending withoutEmbedding = served at run failed rows
  obtain ⟨result, after, notes⟩ := served
  have stored : onePending.documents.get 7 = some pendingDocument := by decide +kernel
  have start : WholeDocument plainInstallation.lib 7 (onePending, {}) := by
    refine ⟨pendingDocument, stored, by decide +kernel, ?_, fun _ => by decide +kernel⟩
    intro indexed
    exact absurd indexed (by decide)
  obtain ⟨row, there, whole⟩ := claimed _ _ _ _ _ 1 7 _ _ _ _ run stored rfl rfl (by decide) start
  rw [there] at failed
  rw [whole.failed (Option.some.inj failed)] at rows
  cases rows

end AgentHive
