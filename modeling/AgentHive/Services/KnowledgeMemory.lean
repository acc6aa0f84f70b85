import AgentHive.Process.Machine
import AgentHive.Services.KnowledgeOperations
import AgentHive.Store.KeyedRows

/-!
The stand-in in memory for the tables of knowledge bases, which development
installations fall back to: its dictionaries, the operations on the documents of
a base, and what they make of one another when they interleave.
-/

namespace AgentHive.KnowledgeMemory

open KnowledgeService (completable ingestedDocument mapIngestStatus notReingestable
  preparedDocument resetDocument uploadedDocument)

structure MemoryStore where
  bases : OrderedDict UUID KnowledgeBase
  documents : OrderedDict UUID (List (UUID × KnowledgeDocument))

variable (s : MemoryStore) (knowledgeBaseId : UUID)

/-- `_documents.get(knowledge_base_id, [])`. -/
def MemoryStore.stored : List (UUID × KnowledgeDocument) :=
  (s.documents.get knowledgeBaseId).getD []

def MemoryStore.setStored (rows : List (UUID × KnowledgeDocument)) : MemoryStore :=
  { s with documents := s.documents.set knowledgeBaseId rows }

/-- `_memory_can_access_base`. -/
def canAccessBase (base : KnowledgeBase) (principal : Principal) : Bool :=
  if principal.isTenantAdmin then true
  else
    match base.visibility with
    | .tenant => true
    | .private_ => base.ownerUserId = some principal.userId
    | .department => false

/-- `_memory_can_write_base`. -/
def canWriteBase (base : KnowledgeBase) (principal : Principal) : Bool :=
  if principal.isTenantAdmin then true
  else if base.ownerUserId = some principal.userId then true
  else if principal.userId ∈ base.writeUserIds then true
  else false

def getBaseForTenant (tenantId : UUID) : Except Exc KnowledgeBase :=
  match s.bases.get knowledgeBaseId with
  | none => .error (.http 404 (.text "Knowledge base not found."))
  | some base =>
    if base.tenantId ≠ tenantId then .error (.http 404 (.text "Knowledge base not found."))
    else .ok base

variable (principal : Principal)

def getAccessibleBase (requireWrite : Bool) : Except Exc KnowledgeBase := do
  let base ← getBaseForTenant s knowledgeBaseId principal.tenantId
  if (if requireWrite then canWriteBase base principal else canAccessBase base principal) then
    pure base
  else throw (.http 403 (.text "Knowledge base access denied by visibility policy."))

def getDocumentForTenant (documentId tenantId : UUID) : Except Exc (KnowledgeDocument × Nat) :=
  let isAsked := fun entry : (UUID × KnowledgeDocument) × Nat =>
    decide (entry.1.1 = documentId ∧ entry.1.2.tenantId = tenantId)
  match (s.stored knowledgeBaseId).zipIdx.find? isAsked with
  | none => .error (.http 404 (.text "Knowledge document not found."))
  | some entry => .ok (entry.1.2, entry.2)

def replaceDocument (index : Nat) (entry : UUID × KnowledgeDocument) :
    Except Exc Unit × MemoryStore :=
  let rows := s.stored knowledgeBaseId
  if index < rows.length then (.ok (), s.setStored knowledgeBaseId (rows.set index entry))
  else
    (.error (.other "IndexError" "list assignment index out of range"),
      s.setStored knowledgeBaseId rows)

inductive Pending
  | preparing (principal : Principal) (knowledgeBaseId : UUID) (base : KnowledgeBase)
      (documentId : UUID) (payload : DocumentUploadPrepareRequest)
  | ingesting (knowledgeBaseId documentId : UUID) (index : Nat) (document : KnowledgeDocument)

inductive Reply
  | returned (response : KnowledgeResponse)
  | raised (x : Exc)
  | waits
  | idle

structure Segment where
  reply : Reply
  store : MemoryStore
  pending : Option Pending := none

def raise (x : Exc) : Segment := { reply := .raised x, store := s }

def respond (response : KnowledgeResponse) : Segment :=
  { reply := .returned response, store := s }

def await (pending : Pending) : Segment :=
  { reply := .waits, store := s, pending := some pending }

/-- `_memory_prepare_document_upload` up to its `await`; the new id is given. -/
def prepareDocumentUpload (knowledgeBaseId documentId : UUID)
    (payload : DocumentUploadPrepareRequest) : Segment :=
  match getAccessibleBase s knowledgeBaseId principal true with
  | .error x => raise s x
  | .ok base => await s (.preparing principal knowledgeBaseId base documentId payload)

def finishPrepare (knowledgeBaseId : UUID) (base : KnowledgeBase) (documentId : UUID)
    (payload : DocumentUploadPrepareRequest) :
    Except Exc Unit → Segment
  | .error x => raise s x
  | .ok _ =>
    let document := preparedDocument principal knowledgeBaseId payload
    let rows := s.stored knowledgeBaseId ++ [(documentId, document)]
    let counted := { base with documentCount := rows.length }
    respond
      { bases := s.bases.set knowledgeBaseId counted
        documents := s.documents.set knowledgeBaseId rows }
      (.prepared documentId document)

section Ingestion

variable (excText : Exc → String) (s : MemoryStore) (knowledgeBaseId : UUID) (documentId : UUID)

def storeIngestFailure (index : Nat) (document : KnowledgeDocument) (x : Exc) : Segment :=
  let document := { document with status := .failed, errorMessage := some (excText x) }
  match replaceDocument s knowledgeBaseId index (documentId, document) with
  | (.error y, s) => raise s y
  | (.ok _, s) =>
    respond s (.completed
      { documentId := documentId
        document := document
        autoIngest := true
        ingestStatus := some .failed
        message := "Upload completed, but ingestion failed." })

/-- The rest of `_memory_complete_document_upload` once the ingestion is over. -/
def finishIngestion (index : Nat) (document : KnowledgeDocument) :
    Except Exc IngestResult → Segment
  | .error x =>
    if x.isException then storeIngestFailure excText s knowledgeBaseId documentId index document x
    else raise s x
  | .ok result =>
    let document := ingestedDocument document result
    match replaceDocument s knowledgeBaseId index (documentId, document) with
    | (.error y, s) => storeIngestFailure excText s knowledgeBaseId documentId index document y
    | (.ok _, s) =>
      respond s (.completed
        { documentId := documentId
          document := document
          autoIngest := true
          ingestStatus := some (mapIngestStatus result.status)
          message := result.message })

/-- From the status `ingesting` to the `await` of the ingestion. Its request is
made inside the `try`. -/
def beginIngestion (index : Nat) (document : KnowledgeDocument) : Segment :=
  let document := { document with status := .ingesting }
  match replaceDocument s knowledgeBaseId index (documentId, document) with
  | (.error y, s) => raise s y
  | (.ok _, s) =>
    if document.parserConfig.isDict then
      await s (.ingesting knowledgeBaseId documentId index document)
    else
      storeIngestFailure excText s knowledgeBaseId documentId index document
        (.other "ValidationError" "Input should be a valid dictionary")

/-- `_memory_complete_document_upload` for a document that was found. -/
def completeFound (payload : DocumentUploadCompleteRequest) (document : KnowledgeDocument)
    (index : Nat) : Segment :=
  if document.status ∉ completable then
    raise s (.http 409 (.text ("Document upload cannot be completed from status " ++
      TextEnum.value document.status ++ ".")))
  else
    let document := uploadedDocument document payload
    match replaceDocument s knowledgeBaseId index (documentId, document) with
    | (.error y, s) => raise s y
    | (.ok _, s) =>
      if payload.autoIngest then
        beginIngestion excText s knowledgeBaseId documentId index document
      else
        respond s (.completed
          { documentId := documentId
            document := document
            autoIngest := false
            ingestStatus := none
            message := "Upload completed. Ingestion was not requested." })

variable (principal : Principal)

def findDocument (knowledgeBaseId documentId : UUID) : Except Exc (KnowledgeDocument × Nat) := do
  let _ ← getAccessibleBase s knowledgeBaseId principal true
  getDocumentForTenant s knowledgeBaseId documentId principal.tenantId

/-- `_memory_complete_document_upload` up to its `await`. -/
def completeDocumentUpload (knowledgeBaseId documentId : UUID)
    (payload : DocumentUploadCompleteRequest) : Segment :=
  match findDocument s principal knowledgeBaseId documentId with
  | .error x => raise s x
  | .ok (document, index) => completeFound excText s knowledgeBaseId documentId payload document index

/-- `_memory_reingest_knowledge_document` for a document that was found. -/
def reingestFound (knowledgeBaseId documentId : UUID) (document : KnowledgeDocument) (index : Nat) :
    Segment :=
  if document.status ∈ notReingestable then
    raise s (.http 409 (.text ("Document cannot be reingested from status " ++
      TextEnum.value document.status ++ ".")))
  else
    match replaceDocument s knowledgeBaseId index (documentId, resetDocument document) with
    | (.error y, s) => raise s y
    | (.ok _, s) => completeDocumentUpload excText s principal knowledgeBaseId documentId {}

/-- `_memory_reingest_knowledge_document` up to its `await`. -/
def reingestKnowledgeDocument (knowledgeBaseId documentId : UUID) : Segment :=
  match findDocument s principal knowledgeBaseId documentId with
  | .error x => raise s x
  | .ok (document, index) =>
    reingestFound excText s principal knowledgeBaseId documentId document index

end Ingestion

def isStored (row : UUID × KnowledgeDocument) : Bool := row.2.status ≠ .deleted

def countBase : MemoryStore :=
  match s.bases.get knowledgeBaseId with
  | none => s
  | some base =>
    let counted := { base with documentCount := (s.stored knowledgeBaseId).length }
    { s with bases := s.bases.set knowledgeBaseId counted }

/-- `_memory_delete_knowledge_document` for a document that was found. -/
def deleteFound (documentId : UUID) (document : KnowledgeDocument) (index : Nat) : Segment :=
  let deleted := { document with status := .deleted }
  match replaceDocument s knowledgeBaseId index (documentId, deleted) with
  | (.error y, s) => raise s y
  | (.ok _, s) =>
    let rows := (s.stored knowledgeBaseId).filter isStored
    respond (countBase (s.setStored knowledgeBaseId rows) knowledgeBaseId) (.deleted documentId)

def deleteKnowledgeDocument (knowledgeBaseId documentId : UUID) : Segment :=
  match findDocument s principal knowledgeBaseId documentId with
  | .error x => raise s x
  | .ok (document, index) => deleteFound s knowledgeBaseId documentId document index

structure MemoryState (ι : Type) where
  store : MemoryStore
  calls : OrderedDict ι Pending

/-- A call begins, or goes on with the answer it has waited for. -/
inductive MemoryEvent (ι : Type)
  | prepare (call : ι) (principal : Principal) (knowledgeBaseId documentId : UUID)
      (payload : DocumentUploadPrepareRequest)
  | prepared (call : ι) (answer : Except Exc Unit)
  | complete (call : ι) (principal : Principal) (knowledgeBaseId documentId : UUID)
      (payload : DocumentUploadCompleteRequest)
  | reingest (call : ι) (principal : Principal) (knowledgeBaseId documentId : UUID)
  | ingested (call : ι) (answer : Except Exc IngestResult)
  | delete (call : ι) (principal : Principal) (knowledgeBaseId documentId : UUID)

variable {ι : Type} [DecidableEq ι]

def MemoryState.settle (s : MemoryState ι) (call : ι) (segment : Segment) : Reply × MemoryState ι :=
  (segment.reply,
    { store := segment.store
      calls :=
        match segment.pending with
        | some pending => s.calls.set call pending
        | none => s.calls.erase call })

def MemoryState.enter (s : MemoryState ι) (call : ι) (segment : Segment) : Reply × MemoryState ι :=
  match s.calls.get call with
  | none => s.settle call segment
  | some _ => (.idle, s)

def step (excText : Exc → String) (s : MemoryState ι) : MemoryEvent ι → Reply × MemoryState ι
  | .prepare call principal knowledgeBaseId documentId payload =>
    s.enter call (prepareDocumentUpload s.store principal knowledgeBaseId documentId payload)
  | .complete call principal knowledgeBaseId documentId payload =>
    s.enter call
      (completeDocumentUpload excText s.store principal knowledgeBaseId documentId payload)
  | .reingest call principal knowledgeBaseId documentId =>
    s.enter call (reingestKnowledgeDocument excText s.store principal knowledgeBaseId documentId)
  | .delete call principal knowledgeBaseId documentId =>
    s.enter call (deleteKnowledgeDocument s.store principal knowledgeBaseId documentId)
  | .prepared call answer =>
    match s.calls.get call with
    | some (.preparing principal knowledgeBaseId base documentId payload) =>
      s.settle call
        (finishPrepare s.store principal knowledgeBaseId base documentId payload answer)
    | _ => (.idle, s)
  | .ingested call answer =>
    match s.calls.get call with
    | some (.ingesting knowledgeBaseId documentId index document) =>
      s.settle call
        (finishIngestion excText s.store knowledgeBaseId documentId index document answer)
    | _ => (.idle, s)

def memory (excText : Exc → String) : Process.Machine (MemoryState ι) (MemoryEvent ι) Reply :=
  ⟨step excText⟩

end AgentHive.KnowledgeMemory
