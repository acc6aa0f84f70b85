import AgentHive.Services.KnowledgeDocuments

/-!
Upload through the backend, renewed ingestion and deletion, and every operation
on a knowledge base as the program of one request.
-/

namespace AgentHive

open Process (Action)

/-- The settings of retrieval, and `str` of a value of a filter. -/
structure RetrievalSettings where
  hybridRetrievalEnabled : Bool := false
  rerankerEnabled : Bool := false
  rerankerApiUrl : Option String := none
  classes : TextClasses
  str : PyValue → String

structure RetrieveRequest where
  tenantId : UUID
  knowledgeBaseId : UUID
  query : String
  topK : Nat := 5
  scoreThreshold : Option ℚ := none
  filters : Dict := []
deriving DecidableEq

namespace KnowledgeService

open KnowledgeSession DocumentProcessing RetrievalPostprocessing

variable (settings : RetrievalSettings) (request : RetrieveRequest)

def belowThreshold (score : ℚ) : Bool :=
  match request.scoreThreshold with
  | some threshold => score < threshold
  | none => false

def matchesFilters (chunk : KnowledgeChunk) : Bool :=
  chunkMatchesFilters settings.str chunk.documentId chunk.sourceName request.filters

def rerankerOn : Bool := settings.rerankerEnabled && truthy settings.rerankerApiUrl

def ragChunk (row : UUID × KnowledgeChunk) (score : ℚ) (vectorScore lexicalScore : Option ℚ) :
    RAGChunk where
  chunkId := row.1
  documentId := row.2.documentId
  text := row.2.text
  score := score
  sourceName := row.2.sourceName
  metadata :=
    { chunkIndex := row.2.chunkIndex
      tokenCount := row.2.tokenCount
      vectorScore := vectorScore
      lexicalScore := lexicalScore }

def vectorCandidate (row : (UUID × KnowledgeChunk) × ℚ) : Option RAGChunk :=
  let vectorScore := round4 row.2
  let lexicalScore :=
    scoreChunk settings.classes (normalizeSearchText settings.classes row.1.2.text)
      (queryTerms settings.classes request.query) request.query
  let score := round4 (max vectorScore lexicalScore)
  if !matchesFilters settings request row.1.2 || belowThreshold request score then none
  else some (ragChunk row.1 score (some vectorScore) (some lexicalScore))

def vectorCandidates (rows : List ((UUID × KnowledgeChunk) × ℚ)) : List RAGChunk :=
  (rows.filterMap (vectorCandidate settings request)).insertionSort fun a b =>
    b.score < a.score ∨ a.score = b.score ∧ a.metadata.chunkIndex ≤ b.metadata.chunkIndex

def ftsRow (row : (UUID × KnowledgeChunk) × ℚ) : FtsRow where
  chunkId := row.1.1
  documentId := row.1.2.documentId
  text := row.1.2.text
  sourceName := row.1.2.sourceName
  chunkIndex := row.1.2.chunkIndex
  tokenCount := row.1.2.tokenCount
  score := row.2

def candidateLimit : Nat := max (request.topK * 5) request.topK

def retrieveFtsChunks : KnowledgeSession (List FtsRow) :=
  let ftsQuery := buildFtsQuery settings.classes request.query
  if ftsQuery = "" then pure []
  else do
    let rows ← ask (.ftsRows request.tenantId request.knowledgeBaseId ftsQuery
      (candidateLimit request))
    pure (rows.map ftsRow)

def rrfTopK : Nat :=
  if rerankerOn settings then max (request.topK * 3) request.topK else request.topK

def fuseFts (candidates : List RAGChunk) (ftsRows : List FtsRow) : List RAGChunk :=
  rrfFuse candidates (ftsRows.filter fun row => !belowThreshold request row.score)
    (rrfTopK settings request)

def selectChunks (candidates : List RAGChunk) : KnowledgeSession (List RAGChunk) :=
  if settings.hybridRetrievalEnabled then do
    let ftsRows ← retrieveFtsChunks settings request
    pure (fuseFts settings request candidates ftsRows)
  else pure (candidates.take request.topK)

def askReranker (chunks : List RAGChunk) : KnowledgeSession (Option RerankResponse) :=
  tryExcept
    (do
      let response ← service (.rerank request.query (chunks.map RAGChunk.text))
      pure (some response))
    fun _ => pure none

def useReranker (chunks : List RAGChunk) :
    Option RerankResponse → KnowledgeSession (List RAGChunk)
  | none => pure chunks
  | some response => Action.ofExcept (applyRerank chunks response)

def rerankChunks (chunks : List RAGChunk) : KnowledgeSession (List RAGChunk) :=
  if rerankerOn settings && !chunks.isEmpty then do
    let response ← askReranker request chunks
    useReranker chunks response
  else pure chunks

/-- `_retrieve_pgvector_embedding_chunks`. -/
def retrieveEmbeddingChunks : KnowledgeSession (List RAGChunk) := do
  let queryEmbedding ← service (.embedText request.query)
  let rows ← ask (.vectorRows request.tenantId request.knowledgeBaseId queryEmbedding.vector
    (candidateLimit request))
  let selected ← selectChunks settings request (vectorCandidates settings request rows)
  let chunks ← rerankChunks settings request selected
  pure (chunks.take request.topK)

def textCandidate (row : UUID × KnowledgeChunk) : Option ((UUID × KnowledgeChunk) × ℚ) :=
  let terms := queryTerms settings.classes request.query
  let score := scoreChunk settings.classes row.2.searchText.toList terms request.query
  if !matchesFilters settings request row.2 || belowThreshold request score then none
  else if 0 < score || terms.isEmpty then some (row, score)
  else none

def textChunks (rows : List (UUID × KnowledgeChunk)) : List RAGChunk :=
  let scored := (rows.filterMap (textCandidate settings request)).insertionSort fun a b =>
    b.2 < a.2 ∨ a.2 = b.2 ∧ b.1.2.updatedAt ≤ a.1.2.updatedAt
  (scored.take request.topK).map fun e => ragChunk e.1 e.2 none none

def retrieveTextChunks : KnowledgeSession (List RAGChunk) := do
  let rows ← ask (.chunkRows request.tenantId request.knowledgeBaseId 1000)
  pure (textChunks settings request rows)

def retrieveVectorChunks (vectorSchemaReady : Bool) : KnowledgeSession (List RAGChunk) :=
  if vectorSchemaReady then retrieveEmbeddingChunks settings request else pure []

def retrievePgvectorChunks : KnowledgeSession (List RAGChunk) := do
  let vectorSchemaReady ← pgvectorChunkSchemaReady
  let chunks ← retrieveVectorChunks settings request vectorSchemaReady
  if chunks.isEmpty then retrieveTextChunks settings request else pure chunks

/-- `run_retrieval_test`; the request is of the tenant of the principal. -/
def runRetrievalTest (principal : Principal) : KnowledgeSession (List RAGChunk) := do
  requireKnowledgePermission principal .knowledgeRead
  let base ← tryStorage (getAccessibleBase request.knowledgeBaseId principal false) fun _ =>
    storageUnavailable
  match base.ragEngine with
  | .pgvector =>
    tryStorage
      (retrievePgvectorChunks settings { request with tenantId := principal.tenantId })
      fun _ => storageUnavailable
  | .ragflow => service (.ragRetrieve request.query)

end KnowledgeService

open Process (Action)

namespace KnowledgeService

open KnowledgeSession

variable (lib : KnowledgeLibrary)

def markDocumentFailed (knowledgeBaseId documentId tenantId : UUID) (message : String) :
    KnowledgeSession Unit :=
  Action.tryCatch
    (do
      let row ← getDocumentForTenant knowledgeBaseId documentId tenantId
      add
        [.updateDocument documentId row
          { row with status := .failed, errorMessage := some message }]
      commit)
    fun x =>
      match x with
      | .os _ _ | .sqlAlchemy _ _ | .http _ _ => rollbackQuietly
      | _ => Action.throw x

def putObject (principal : Principal) (knowledgeBaseId documentId : UUID) (data : Bytes) :
    KnowledgeSession StoredObject :=
  tryExcept (service (.putObject documentId data)) fun x => do
    markDocumentFailed knowledgeBaseId documentId principal.tenantId (lib.excText x)
    fail 503 ("Object storage upload failed: " ++ lib.excText x)

structure DocumentFile where
  filename : String
  contentType : Option String := none
  data : Bytes
  autoIngest : Bool := true
  parserConfig : ParserConfig := {}
deriving DecidableEq

def DocumentFile.prepareRequest (file : DocumentFile) : DocumentUploadPrepareRequest where
  filename := file.filename
  contentType := file.contentType
  sizeBytes := some file.data.length
  checksumSha256 := some (lib.sha256Hex file.data)
  parserConfig := file.parserConfig

def uploadDocumentFile (principal : Principal) (knowledgeBaseId : UUID) (file : DocumentFile) :
    KnowledgeSession DocumentUploadCompleteResponse := do
  let prepared ← prepareDocumentUpload lib principal knowledgeBaseId (file.prepareRequest lib)
  let stored ← putObject lib principal knowledgeBaseId prepared.1 file.data
  completeDocumentUpload lib principal knowledgeBaseId prepared.1
    { sizeBytes := stored.sizeBytes
      checksumSha256 := stored.checksumSha256
      autoIngest := file.autoIngest }

def attempt (note : String) (body : KnowledgeSession Bool) :
    KnowledgeSession (Bool × List String) :=
  tryExcept
    (do
      let done ← body
      pure (done, []))
    fun x => pure (false, [note ++ lib.excText x])

def cleanupChunkRows (documentId : UUID) (row : KnowledgeDocument) : KnowledgeSession Bool := do
  deleteChunks (.ofDocument row.tenantId row.knowledgeBaseId documentId)
  pure true

def cleanupRag (base : KnowledgeBase) (documentId : UUID) : KnowledgeSession Bool :=
  match base.ragEngine with
  | .pgvector => pure true
  | .ragflow => service (.ragDelete documentId)

def cleanupDocumentIndexes (base : KnowledgeBase) (documentId : UUID) (row : KnowledgeDocument) :
    KnowledgeSession DocumentCleanup := do
  let chunkRows ← attempt lib "pgvector_cleanup_failed: " (cleanupChunkRows documentId row)
  let rag ← attempt lib "rag_cleanup_failed: " (cleanupRag base documentId)
  pure
    { ragDeleted := rag.1
      chunkRowsDeleted := chunkRows.1
      errors := chunkRows.2 ++ rag.2 }

def cleanupDocumentIndexesAndObject (base : KnowledgeBase) (documentId : UUID)
    (row : KnowledgeDocument) : KnowledgeSession DocumentCleanup := do
  let cleanup ← cleanupDocumentIndexes lib base documentId row
  let object ← attempt lib "object_cleanup_failed: " (service (.deleteObject documentId))
  pure { cleanup with objectDeleted := object.1, errors := cleanup.errors ++ object.2 }

def notReingestable : List KnowledgeDocumentStatus := [.deleted, .pendingUpload, .ingesting]

def refuseFailedCleanup (errors : List String) : KnowledgeSession Unit :=
  if errors.isEmpty then pure ()
  else do
    rollbackQuietly
    Action.throw (.http 503
      (.fields [("message", .str "Document reingestion cleanup failed."), ("errors", .strs errors)]))

def resetDocument (row : KnowledgeDocument) : KnowledgeDocument :=
  { row with
    status := .uploaded
    ragDocumentId := none
    chunkCount := 0
    errorMessage := none }

def reingestDocumentRow (base : KnowledgeBase) (knowledgeBaseId documentId : UUID)
    (row : KnowledgeDocument) : KnowledgeSession DocumentUploadCompleteResponse := do
  refuse (row.status ∈ notReingestable) 409
    ("Document cannot be reingested from status " ++ TextEnum.value row.status ++ ".")
  let cleanup ← cleanupDocumentIndexes lib base documentId row
  refuseFailedCleanup cleanup.errors
  add [.updateDocument documentId row (resetDocument row)]
  commit
  let row ← refreshDocument documentId
  let _ ← refreshBase knowledgeBaseId
  let response ← completeDocumentRow lib knowledgeBaseId documentId row {}
  commit
  pure response

def reingestKnowledgeDocument (principal : Principal) (knowledgeBaseId documentId : UUID) :
    KnowledgeSession DocumentUploadCompleteResponse := do
  requireKnowledgePermission principal .knowledgeWrite
  guarded do
    let base ← getAccessibleBase knowledgeBaseId principal true
    let row ← getDocumentForTenant knowledgeBaseId documentId principal.tenantId
    reingestDocumentRow lib base knowledgeBaseId documentId row

def deletedDocument (row : KnowledgeDocument) (now : Instant) : KnowledgeDocument :=
  { row with status := .deleted, deletedAt := some now, errorMessage := none }

def deleteDocumentRow (base : KnowledgeBase) (knowledgeBaseId documentId : UUID)
    (row : KnowledgeDocument) (principal : Principal) : KnowledgeSession UUID := do
  let _ ← cleanupDocumentIndexesAndObject lib base documentId row
  let now ← utcNow
  deleteChunks (.ofDocument principal.tenantId knowledgeBaseId documentId)
  add [.updateDocument documentId row (deletedDocument row now)]
  let count ← ask (.countDocuments principal.tenantId knowledgeBaseId)
  add [.updateBase knowledgeBaseId base { base with documentCount := count }]
  commit
  pure documentId

def deleteKnowledgeDocument (principal : Principal) (knowledgeBaseId documentId : UUID) :
    KnowledgeSession UUID := do
  requireKnowledgePermission principal .knowledgeWrite
  guarded do
    let base ← getAccessibleBase knowledgeBaseId principal true
    let row ← getDocumentForTenant knowledgeBaseId documentId principal.tenantId
    deleteDocumentRow lib base knowledgeBaseId documentId row principal

def cleanupDocuments (base : KnowledgeBase) :
    List (UUID × KnowledgeDocument) → KnowledgeSession Unit
  | [] => pure ()
  | (documentId, row) :: rest => do
    let _ ← cleanupDocumentIndexesAndObject lib base documentId row
    cleanupDocuments base rest

def archivedBase (base : KnowledgeBase) (now : Instant) : KnowledgeBase :=
  { base with status := .archived, deletedAt := some now, documentCount := 0 }

def deleteKnowledgeBase (principal : Principal) (knowledgeBaseId : UUID) :
    KnowledgeSession UUID := do
  requireKnowledgePermission principal .knowledgeWrite
  guarded do
    let base ← getAccessibleBase knowledgeBaseId principal true
    let documents ← ask (.documentsOf principal.tenantId knowledgeBaseId)
    cleanupDocuments lib base documents
    let now ← utcNow
    deleteChunks (.ofBase principal.tenantId knowledgeBaseId)
    add (documents.map fun e => .updateDocument e.1 e.2 (deletedDocument e.2 now))
    add [.updateBase knowledgeBaseId base (archivedBase base now)]
    commit
    pure knowledgeBaseId

end KnowledgeService

inductive KnowledgeOperation
  | prepare (payload : DocumentUploadPrepareRequest)
  | upload (file : KnowledgeService.DocumentFile)
  | complete (documentId : UUID) (payload : DocumentUploadCompleteRequest)
  | reingest (documentId : UUID)
  | deleteDocument (documentId : UUID)
  | deleteBase
  | retrieve (request : RetrieveRequest)
deriving DecidableEq

structure KnowledgeCall where
  principal : Principal
  knowledgeBaseId : UUID
  operation : KnowledgeOperation
deriving DecidableEq

inductive KnowledgeResponse
  | prepared (documentId : UUID) (document : KnowledgeDocument)
  | completed (response : DocumentUploadCompleteResponse)
  | deleted (id : UUID)
  | retrieved (chunks : List RAGChunk)
deriving DecidableEq

structure KnowledgeInstallation where
  lib : KnowledgeLibrary
  settings : RetrievalSettings

open KnowledgeService in
def KnowledgeCall.endpoint (installation : KnowledgeInstallation) (call : KnowledgeCall) :
    KnowledgeSession KnowledgeResponse :=
  match call.operation with
  | .prepare payload => do
    let prepared ←
      prepareDocumentUpload installation.lib call.principal call.knowledgeBaseId payload
    pure (.prepared prepared.1 prepared.2)
  | .upload file => do
    let response ← uploadDocumentFile installation.lib call.principal call.knowledgeBaseId file
    pure (.completed response)
  | .complete documentId payload => do
    let response ← completeDocumentUpload installation.lib call.principal call.knowledgeBaseId
      documentId payload
    pure (.completed response)
  | .reingest documentId => do
    let response ← reingestKnowledgeDocument installation.lib call.principal
      call.knowledgeBaseId documentId
    pure (.completed response)
  | .deleteDocument documentId => do
    let id ← deleteKnowledgeDocument installation.lib call.principal call.knowledgeBaseId
      documentId
    pure (.deleted id)
  | .deleteBase => do
    let id ← deleteKnowledgeBase installation.lib call.principal call.knowledgeBaseId
    pure (.deleted id)
  | .retrieve request => do
    let chunks ← runRetrievalTest installation.settings
      { request with knowledgeBaseId := call.knowledgeBaseId } call.principal
    pure (.retrieved chunks)

abbrev KnowledgeProgram : Type :=
  Process.Program KnowledgeEffect KnowledgeAnswer (Except Exc KnowledgeResponse)

def KnowledgeCall.program (installation : KnowledgeInstallation) (call : KnowledgeCall) :
    KnowledgeProgram :=
  (call.endpoint installation).run {}

end AgentHive
