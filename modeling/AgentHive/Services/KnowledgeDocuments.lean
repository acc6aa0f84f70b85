import AgentHive.Services.KnowledgeSessions

/-!
The documents of a knowledge base: upload, ingestion, renewed ingestion and
deletion, as the service runs them over one session.
-/

namespace AgentHive

open Process (Action)

/-- The settings and the library functions of the service: the hash of an upload,
`str` of an exception, the extraction of a document's text, and its division. -/
structure KnowledgeLibrary where
  uploadMaxBytes : Nat
  identity : InstallIdentity
  classes : TextClasses
  sha256Hex : Bytes → String
  excText : Exc → String
  decodeDocumentText : Bytes → Option String → String → Except Exc String
  chunkText : String → Int → Int → List String

structure DocumentUploadPrepareRequest where
  filename : String
  contentType : Option String := none
  sizeBytes : Option Nat := none
  checksumSha256 : Option String := none
  parserConfig : ParserConfig := {}
deriving DecidableEq

/-- The metadata of the request may bring a parser configuration of its own. -/
structure DocumentUploadCompleteRequest where
  sizeBytes : Option Nat := none
  checksumSha256 : Option String := none
  autoIngest : Bool := true
  parserConfig : Option ParserConfig := none
deriving DecidableEq

structure DocumentUploadCompleteResponse where
  documentId : UUID
  document : KnowledgeDocument
  autoIngest : Bool
  ingestStatus : Option KnowledgeDocumentStatus
  message : String
deriving DecidableEq

structure DocumentCleanup where
  objectDeleted : Bool := false
  ragDeleted : Bool := false
  chunkRowsDeleted : Bool := false
  errors : List String := []
deriving DecidableEq

structure ParsedChunk where
  text : String
  tokenCount : Nat
  searchText : String
  ftsText : String
deriving DecidableEq

namespace KnowledgeService

open KnowledgeSession DocumentProcessing

variable (lib : KnowledgeLibrary) (base : KnowledgeBase)

def canWriteBase (principal : Principal) (departmentIds : List UUID) : Bool :=
  if principal.isTenantAdmin then true
  else if base.ownerUserId = some principal.userId then true
  else if principal.userId ∈ base.writeUserIds then true
  else if base.visibility = .department then
    base.departmentIds.any (departmentIds.contains ·) && base.departmentMembersCanWrite
  else false

def canAccessBase (principal : Principal) (departmentIds : List UUID) : Bool :=
  if principal.isTenantAdmin then true
  else if principal.userId ∈ base.readUserIds then true
  else if principal.userId ∈ base.writeUserIds then true
  else
    match base.visibility with
    | .tenant => true
    | .private_ => base.ownerUserId = some principal.userId
    | .department => base.departmentIds.any (departmentIds.contains ·)

variable (principal : Principal)

def principalDepartmentIds : KnowledgeSession (List UUID) :=
  if principal.isTenantAdmin then pure []
  else ask (.departmentIdsOf principal.userId principal.tenantId)

variable (knowledgeBaseId : UUID) (tenantId : UUID)

def getBaseForTenant : KnowledgeSession KnowledgeBase := do
  let found ← ask (.getBase knowledgeBaseId)
  match found with
  | none => fail 404 "Knowledge base not found."
  | some row =>
    if row.tenantId ≠ tenantId ∨ row.deletedAt ≠ none then fail 404 "Knowledge base not found."
    else pure row

def getAccessibleBase (principal : Principal) (requireWrite : Bool) :
    KnowledgeSession KnowledgeBase := do
  let row ← getBaseForTenant knowledgeBaseId principal.tenantId
  let departmentIds ← principalDepartmentIds principal
  let allowed :=
    if requireWrite then canWriteBase row principal departmentIds
    else canAccessBase row principal departmentIds
  refuse (allowed = false) 403
    ("Knowledge base " ++ (if requireWrite then "write" else "read") ++
      " access denied by visibility policy.")
  pure row

def getDocumentForTenant (documentId tenantId : UUID) : KnowledgeSession KnowledgeDocument := do
  let found ← ask (.getDocument documentId)
  match found with
  | none => fail 404 "Knowledge document not found."
  | some row =>
    if row.tenantId ≠ tenantId ∨ row.knowledgeBaseId ≠ knowledgeBaseId ∨ row.deletedAt ≠ none then
      fail 404 "Knowledge document not found."
    else pure row

/-- `session.refresh` of a row that is gone. -/
def notRefreshed {α : Type} : KnowledgeSession α :=
  Action.throw (.sqlAlchemy "InvalidRequestError" "Could not refresh instance")

variable (documentId : UUID)

def refreshDocument : KnowledgeSession KnowledgeDocument := do
  let found ← ask (.getDocument documentId)
  match found with
  | none => notRefreshed
  | some row => pure row

def refreshBase : KnowledgeSession KnowledgeBase := do
  let found ← ask (.getBase knowledgeBaseId)
  match found with
  | none => notRefreshed
  | some row => pure row

/-- `get_license_status_for_tenant`. -/
def licenseStatus : KnowledgeSession LicenseStatusResponse :=
  tryStorage (ask (.licenseStatus tenantId)) fun _ =>
    pure (LicenseService.inactiveLicenseStatus lib.identity)

/-- `_count_capacity_resource` for the stored bytes. -/
def countStoredBytes : KnowledgeSession Nat :=
  tryStorage (ask (.storedBytes tenantId)) fun _ => do
    rollbackQuietly
    fail 503 "License capacity storage is unavailable."

/-- `ensure_license_capacity` for the stored bytes. -/
def ensureLicenseCapacity (increment : Nat) : KnowledgeSession Unit := do
  let license ← licenseStatus lib tenantId
  let count ← countStoredBytes tenantId
  Action.ofExcept
    (LicenseService.enforceLicenseCapacity .knowledgeStorageBytes count increment license)

/-- The row that `prepare_document_upload` adds. -/
def preparedDocument (knowledgeBaseId : UUID) (payload : DocumentUploadPrepareRequest) :
    KnowledgeDocument where
  tenantId := principal.tenantId
  knowledgeBaseId := knowledgeBaseId
  filename := payload.filename
  contentType := payload.contentType
  sizeBytes := payload.sizeBytes
  checksumSha256 := payload.checksumSha256
  status := .pendingUpload
  parserConfig := { payload.parserConfig with isDict := true }

def prepareDocumentUpload (knowledgeBaseId : UUID) (payload : DocumentUploadPrepareRequest) :
    KnowledgeSession (UUID × KnowledgeDocument) := do
  requireKnowledgePermission principal .knowledgeWrite
  refuse (lib.uploadMaxBytes < payload.sizeBytes.getD 0) 413
    "Knowledge document upload exceeds the configured size limit."
  guarded do
    let base ← getAccessibleBase knowledgeBaseId principal true
    ensureLicenseCapacity lib principal.tenantId (payload.sizeBytes.getD 0)
    let ids ← newIds 1
    let documentId := ids.headD 0
    service (.prepareUpload documentId)
    add [.insertDocument documentId (preparedDocument principal knowledgeBaseId payload)]
    let count ← ask (.countDocuments principal.tenantId knowledgeBaseId)
    add [.updateBase knowledgeBaseId base { base with documentCount := count }]
    commit
    let row ← refreshDocument documentId
    let _ ← refreshBase knowledgeBaseId
    pure (documentId, row)

/-- `int(parser_config.get(..))` of the two numbers, with their defaults. -/
def readParserConfig (config : ParserConfig) : Except Exc (Int × Int) := do
  let chunkSize ← config.chunkSize.getD (.ok 900)
  let overlap ← config.chunkOverlap.getD (.ok 120)
  pure (chunkSize, overlap)

def parseDocumentChunks (raw : Bytes) (row : KnowledgeDocument) (chunkSize overlap : Int) :
    Except Exc (List ParsedChunk) := do
  let documentText ← lib.decodeDocumentText raw row.contentType row.filename
  pure ((lib.chunkText documentText chunkSize overlap).map fun chunk =>
    { text := chunk
      tokenCount := roughTokenCount chunk
      searchText := String.ofList (normalizeSearchText lib.classes chunk)
      ftsText := buildFtsText lib.classes chunk })

def pgvectorChunkSchemaReady : KnowledgeSession Bool :=
  tryExcept (ask .schemaReady) fun _ => pure false

variable (document : KnowledgeDocument)

def chunkRow (now : Instant) (chunk : ParsedChunk) (index : Nat) :
    KnowledgeChunk where
  tenantId := document.tenantId
  knowledgeBaseId := document.knowledgeBaseId
  documentId := documentId
  chunkIndex := index
  text := chunk.text
  tokenCount := chunk.tokenCount
  sourceName := some document.filename
  searchText := chunk.searchText
  createdAt := now
  updatedAt := now

def chunkInserts (now : Instant) (ids : List UUID) (chunks : List ParsedChunk) :
    List KnowledgeWrite :=
  (ids.zip chunks.zipIdx).map fun e =>
    .insertChunk e.1 (chunkRow documentId document now e.2.1 e.2.2)

/-- An `UPDATE` of a chunk row that the session has inserted. -/
def updateChunk (write : KnowledgeWrite) : KnowledgeSession Unit := do
  ask (.updateChunk write)
  add [write]

def writeFtsTexts : List (UUID × ParsedChunk) → KnowledgeSession Unit
  | [] => pure ()
  | (chunkId, chunk) :: rest =>
    if chunk.ftsText = "" then writeFtsTexts rest
    else do
      updateChunk (.setFtsText chunkId chunk.ftsText)
      writeFtsTexts rest

def writeChunkEmbeddings : List (UUID × ParsedChunk) → KnowledgeSession Unit
  | [] => pure ()
  | (chunkId, chunk) :: rest => do
    let embedding ← service (.embedText chunk.text)
    updateChunk (.setEmbedding chunkId embedding)
    writeChunkEmbeddings rest

def embedChunks (vectorSchemaReady : Bool) (chunks : List (UUID × ParsedChunk)) :
    KnowledgeSession Unit :=
  if vectorSchemaReady then writeChunkEmbeddings chunks else pure ()

/-- A `DELETE` on the chunks. -/
def deleteChunks (scope : ChunkScope) : KnowledgeSession Unit := do
  let ids ← ask (.deleteChunks scope)
  add [.deleteChunks ids]

def ingestDocumentToPgvector : KnowledgeSession IngestResult := do
  let vectorSchemaReady ← pgvectorChunkSchemaReady
  let raw ← service (.getObject documentId)
  let config ← Action.ofExcept (readParserConfig document.parserConfig)
  let chunks ← Action.ofExcept (parseDocumentChunks lib raw document config.1 config.2)
  deleteChunks (.named documentId)
  let now ← utcNow
  let ids ← newIds chunks.length
  add (chunkInserts documentId document now ids chunks)
  ask .flush
  writeFtsTexts (ids.zip chunks)
  embedChunks vectorSchemaReady (ids.zip chunks)
  pure
    { status := .indexed
      externalDocumentId := some (toString documentId)
      message := "Indexed " ++ toString chunks.length ++
        " text chunk(s) into AgentHive pgvector fallback."
      metadata := [("chunk_count", .int chunks.length)] }

/-- `_map_ingest_status` of the service. -/
def mapIngestStatus : DocumentIngestStatus → KnowledgeDocumentStatus
  | .indexed => .indexed
  | .failed => .failed
  | .accepted | .pending | .ingesting => .ingesting

def extractChunkCount (metadata : Dict) : Nat :=
  match metadata.get "chunk_count" with
  | .int n => n.toNat
  | .bool b => b.toNat
  | _ => 0

/-- The construction of an `IngestRequest`. -/
def ingestRequest : KnowledgeSession Unit :=
  if document.parserConfig.isDict then pure ()
  else Action.throw (.other "ValidationError" "Input should be a valid dictionary")

def ingest (documentId : UUID) (row : KnowledgeDocument) : KnowledgeSession IngestResult :=
  match base.ragEngine with
  | .pgvector => ingestDocumentToPgvector lib documentId row
  | .ragflow => service (.ragIngest documentId)

variable (row : KnowledgeDocument)

def ingestedDocument (result : IngestResult) : KnowledgeDocument :=
  { row with
    status := mapIngestStatus result.status
    ragDocumentId := result.externalDocumentId
    chunkCount := extractChunkCount result.metadata
    errorMessage := if mapIngestStatus result.status = .failed then some result.message else none }

/-- The body of the `try` of `_complete_document_row`. -/
def ingestAndStore (documentId : UUID) (row : KnowledgeDocument) :
    KnowledgeSession DocumentUploadCompleteResponse := do
  ingestRequest row
  let result ← ingest lib base documentId row
  add [.updateDocument documentId row (ingestedDocument row result)]
  commit
  let refreshed ← refreshDocument documentId
  pure
    { documentId := documentId
      document := refreshed
      autoIngest := true
      ingestStatus := some (mapIngestStatus result.status)
      message := result.message }

def storeIngestFailure (x : Exc) : KnowledgeSession DocumentUploadCompleteResponse := do
  add
    [.updateDocument documentId row
      { row with status := .failed, errorMessage := some (lib.excText x) }]
  commit
  let refreshed ← refreshDocument documentId
  pure
    { documentId := documentId
      document := refreshed
      autoIngest := true
      ingestStatus := some .failed
      message := "Upload completed, but ingestion failed." }

def uploadedDocument (payload : DocumentUploadCompleteRequest) : KnowledgeDocument :=
  { row with
    sizeBytes := payload.sizeBytes.or row.sizeBytes
    checksumSha256 := payload.checksumSha256.or row.checksumSha256
    status := .uploaded
    errorMessage := none
    parserConfig := payload.parserConfig.getD row.parserConfig }

/-- `_complete_document_row` from the point where ingestion begins. -/
def ingestUploaded (documentId : UUID) (row : KnowledgeDocument) :
    KnowledgeSession DocumentUploadCompleteResponse := do
  add [.updateDocument documentId row { row with status := .ingesting }]
  commit
  let row ← refreshDocument documentId
  tryExcept (ingestAndStore lib base documentId row) (storeIngestFailure lib documentId row)

def completable : List KnowledgeDocumentStatus := [.pendingUpload, .uploaded, .failed]

def completeDocumentRow (documentId : UUID) (row : KnowledgeDocument)
    (payload : DocumentUploadCompleteRequest) :
    KnowledgeSession DocumentUploadCompleteResponse := do
  refuse (row.status = .deleted) 409 "Deleted documents cannot complete upload."
  refuse (row.status ∉ completable) 409
    ("Document upload cannot be completed from status " ++ TextEnum.value row.status ++ ".")
  add [.updateDocument documentId row (uploadedDocument row payload)]
  commit
  let row ← refreshDocument documentId
  let base ← refreshBase knowledgeBaseId
  if payload.autoIngest then ingestUploaded lib base documentId row
  else
    pure
      { documentId := documentId
        document := row
        autoIngest := false
        ingestStatus := none
        message := "Upload completed. Ingestion was not requested." }

def completeDocumentUpload (knowledgeBaseId documentId : UUID)
    (payload : DocumentUploadCompleteRequest) :
    KnowledgeSession DocumentUploadCompleteResponse := do
  requireKnowledgePermission principal .knowledgeWrite
  guarded do
    let _ ← getAccessibleBase knowledgeBaseId principal true
    let row ← getDocumentForTenant knowledgeBaseId documentId principal.tenantId
    completeDocumentRow lib knowledgeBaseId documentId row payload

end KnowledgeService
end AgentHive
