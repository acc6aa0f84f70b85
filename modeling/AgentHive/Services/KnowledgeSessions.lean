import AgentHive.Knowledge.RetrievalPostprocessing
import AgentHive.Process.Alone
import AgentHive.Process.Fallible
import AgentHive.Services.KnowledgeTables
import AgentHive.Services.OrgAdmin

/-!
Sessions over the knowledge tables: what a request asks of the database and of
the services beside it, and how they answer.
-/

namespace AgentHive

inductive CapacityResource
  | users
  | agents
  | knowledgeStorageBytes
deriving DecidableEq

namespace LicenseService

def gibibyte : Int := 1024 ^ 3

/-- `_capacity_limit`; a fraction of a byte is cut off. -/
def capacityLimit (resource : CapacityResource) (license : LicenseStatusResponse) : Option Int :=
  match resource with
  | .users => license.maxUsers
  | .agents => license.maxAgents
  | .knowledgeStorageBytes =>
    license.maxKbSizeGb.map fun size =>
      let bytes := size * (gibibyte : ℚ)
      bytes.num.tdiv bytes.den

def capacityLabel : CapacityResource → String
  | .users => "users"
  | .agents => "Agent instances"
  | .knowledgeStorageBytes => "knowledge storage"

/-- The format `.2f` of a number that is not negative. -/
def twoDecimals (q : ℚ) : String :=
  let hundredths := (Numeric.roundHalfEven (q * 100)).toNat
  toString (hundredths / 100) ++ "." ++
    (if hundredths % 100 < 10 then "0" else "") ++ toString (hundredths % 100)

def formatCapacityUsage (resource : CapacityResource) (value : Int) : String :=
  match resource with
  | .knowledgeStorageBytes => twoDecimals ((value : ℚ) / gibibyte) ++ " GiB"
  | .users | .agents => toString value

def enforceLicenseCapacity (resource : CapacityResource) (currentCount increment : Int)
    (license : LicenseStatusResponse) : Except Exc Unit :=
  if license.status ≠ .active then
    .error (.http 403
      (.text "Active AgentHive license is required before adding licensed resources."))
  else
    match capacityLimit resource license with
    | none => .ok ()
    | some limit =>
      if resource = .knowledgeStorageBytes ∧ increment ≤ 0 then
        .error (.http 422
          (.text "Knowledge document size is required for licensed storage capacity checks."))
      else if limit < currentCount + increment then
        .error (.http 403
          (.text ("License capacity exceeded for " ++ capacityLabel resource ++ ": " ++
            formatCapacityUsage resource currentCount ++ "/" ++
            formatCapacityUsage resource limit ++ " currently used.")))
      else .ok ()

end LicenseService

open Process (Action)

inductive DocumentIngestStatus
  | accepted
  | pending
  | ingesting
  | indexed
  | failed
deriving DecidableEq

structure IngestResult where
  status : DocumentIngestStatus
  externalDocumentId : Option String := none
  message : String
  metadata : Dict := []
deriving DecidableEq

abbrev Bytes := List UInt8

structure StoredObject where
  sizeBytes : Option Nat := none
  checksumSha256 : Option String := none
deriving DecidableEq

inductive ChunkScope
  | ofBase (tenantId knowledgeBaseId : UUID)
  | ofDocument (tenantId knowledgeBaseId documentId : UUID)
  | named (documentId : UUID)
deriving DecidableEq

def ChunkScope.covers : ChunkScope → KnowledgeChunk → Bool
  | .ofBase tenantId knowledgeBaseId, chunk =>
    chunk.tenantId == tenantId && chunk.knowledgeBaseId == knowledgeBaseId
  | .ofDocument tenantId knowledgeBaseId documentId, chunk =>
    chunk.tenantId == tenantId && chunk.knowledgeBaseId == knowledgeBaseId &&
      chunk.documentId == documentId
  | .named documentId, chunk => chunk.documentId == documentId

inductive KnowledgeStatement
  | getBase (id : UUID)
  | departmentIdsOf (userId tenantId : UUID)
  | getDocument (id : UUID)
  | documentsOf (tenantId knowledgeBaseId : UUID)
  | countDocuments (tenantId knowledgeBaseId : UUID)
  | licenseStatus (tenantId : UUID)
  | storedBytes (tenantId : UUID)
  | schemaReady
  | deleteChunks (scope : ChunkScope)
  | flush
  | updateChunk (write : KnowledgeWrite)
  | vectorRows (tenantId knowledgeBaseId : UUID) (vector : List ℚ) (limit : Nat)
  | ftsRows (tenantId knowledgeBaseId : UUID) (ftsQuery : String) (limit : Nat)
  | chunkRows (tenantId knowledgeBaseId : UUID) (limit : Nat)
deriving DecidableEq

abbrev KnowledgeRow : KnowledgeStatement → Type
  | .getBase _ => Option KnowledgeBase
  | .departmentIdsOf _ _ => List UUID
  | .getDocument _ => Option KnowledgeDocument
  | .documentsOf _ _ => List (UUID × KnowledgeDocument)
  | .countDocuments _ _ => Nat
  | .licenseStatus _ => LicenseStatusResponse
  | .storedBytes _ => Nat
  | .schemaReady => Bool
  | .deleteChunks _ => List UUID
  | .flush => Unit
  | .updateChunk _ => Unit
  | .vectorRows _ _ _ _ => List ((UUID × KnowledgeChunk) × ℚ)
  | .ftsRows _ _ _ _ => List ((UUID × KnowledgeChunk) × ℚ)
  | .chunkRows _ _ _ => List (UUID × KnowledgeChunk)

inductive OutsideService
  | prepareUpload (documentId : UUID)
  | putObject (documentId : UUID) (data : Bytes)
  | getObject (documentId : UUID)
  | deleteObject (documentId : UUID)
  | embedText (text : String)
  | rerank (query : String) (texts : List String)
  | ragIngest (documentId : UUID)
  | ragDelete (documentId : UUID)
  | ragRetrieve (query : String)
deriving DecidableEq

abbrev OutsideRow : OutsideService → Type
  | .prepareUpload _ => Unit
  | .putObject _ _ => StoredObject
  | .getObject _ => Bytes
  | .deleteObject _ => Bool
  | .embedText _ => EmbeddingResult
  | .rerank _ _ => RerankResponse
  | .ragIngest _ => IngestResult
  | .ragDelete _ => Bool
  | .ragRetrieve _ => List RAGChunk

inductive KnowledgeEffect
  | ask (statement : KnowledgeStatement)
  | service (service : OutsideService)
  | utcNow
  | newIds (count : Nat)
  | commit (writes : List KnowledgeWrite)
  | rollback
deriving DecidableEq

abbrev KnowledgeAnswer : KnowledgeEffect → Type
  | .ask statement => Except Exc (KnowledgeRow statement)
  | .service service => Except Exc (OutsideRow service)
  | .utcNow => Instant
  | .newIds _ => List UUID
  | .commit _ => Except Exc Unit
  | .rollback => Except Exc Unit

abbrev KnowledgeEvent := Process.Event KnowledgeEffect KnowledgeAnswer

/-- What the database holds beside the knowledge tables, and the functions of its
vector and text search. -/
structure KnowledgeDatabase where
  license : UUID → LicenseStatusResponse
  memberships : UUID → UUID → List UUID
  schemaReady : Bool
  /-- `embedding <=> vector`. -/
  distance : List ℚ → List ℚ → ℚ
  /-- `to_tsvector(text) @@ to_tsquery(query)` and its `ts_rank`. -/
  tsMatches : String → String → Bool
  tsRank : String → String → ℚ

namespace KnowledgeTables

variable (database : KnowledgeDatabase) (tables : KnowledgeTables)

def documentsOf (tenantId knowledgeBaseId : UUID) : List (UUID × KnowledgeDocument) :=
  tables.documents.entries.filter fun e =>
    e.2.tenantId == tenantId && e.2.knowledgeBaseId == knowledgeBaseId && decide e.2.Live

def storedBytes (tenantId : UUID) : Nat :=
  ((tables.documents.entries.filter fun e => e.2.tenantId == tenantId && decide e.2.Live).map
    fun e => e.2.sizeBytes.getD 0).sum

def chunksOf (tenantId knowledgeBaseId : UUID) : List (UUID × KnowledgeChunk) :=
  tables.chunks.entries.filter fun e =>
    e.2.tenantId == tenantId && e.2.knowledgeBaseId == knowledgeBaseId

def vectorRows (tenantId knowledgeBaseId : UUID) (vector : List ℚ) (limit : Nat) :
    List ((UUID × KnowledgeChunk) × ℚ) :=
  let measured := (tables.chunksOf tenantId knowledgeBaseId).filterMap fun e =>
    e.2.embedding.map fun embedding => (e, database.distance embedding.vector vector)
  let sorted := measured.insertionSort fun a b => a.2 ≤ b.2
  (sorted.take limit).map fun e => (e.1, max 0 (1 - e.2))

def ftsRows (tenantId knowledgeBaseId : UUID) (ftsQuery : String) (limit : Nat) :
    List ((UUID × KnowledgeChunk) × ℚ) :=
  let ranked := (tables.chunksOf tenantId knowledgeBaseId).filterMap fun e =>
    (e.2.ftsText.filter fun text => database.tsMatches text ftsQuery).map fun text =>
      (e, database.tsRank text ftsQuery)
  (ranked.insertionSort fun a b => b.2 ≤ a.2).take limit

def chunkRows (tenantId knowledgeBaseId : UUID) (limit : Nat) : List (UUID × KnowledgeChunk) :=
  ((tables.chunksOf tenantId knowledgeBaseId).insertionSort fun a b =>
    b.2.createdAt < a.2.createdAt ∨
      a.2.createdAt = b.2.createdAt ∧ a.2.chunkIndex ≤ b.2.chunkIndex).take limit

def read : (statement : KnowledgeStatement) → KnowledgeRow statement
  | .getBase id => tables.bases.get id
  | .departmentIdsOf userId tenantId => database.memberships userId tenantId
  | .getDocument id => tables.documents.get id
  | .documentsOf tenantId knowledgeBaseId => tables.documentsOf tenantId knowledgeBaseId
  | .countDocuments tenantId knowledgeBaseId =>
    (tables.documentsOf tenantId knowledgeBaseId).length
  | .licenseStatus tenantId => database.license tenantId
  | .storedBytes tenantId => tables.storedBytes tenantId
  | .schemaReady => database.schemaReady
  | .deleteChunks scope =>
    (tables.chunks.entries.filter fun e => scope.covers e.2).map Prod.fst
  | .flush => ()
  | .updateChunk _ => ()
  | .vectorRows tenantId knowledgeBaseId vector limit =>
    tables.vectorRows database tenantId knowledgeBaseId vector limit
  | .ftsRows tenantId knowledgeBaseId ftsQuery limit =>
    tables.ftsRows database tenantId knowledgeBaseId ftsQuery limit
  | .chunkRows tenantId knowledgeBaseId limit => tables.chunkRows tenantId knowledgeBaseId limit

/-- A statement may fail, and a service may answer or fail as it likes. A commit
is carried out whole, or it fails and stores nothing. -/
def Answers (e : KnowledgeEffect) (r : KnowledgeAnswer e) (after : KnowledgeTables) : Prop :=
  match e with
  | .ask statement => after = tables ∧ ∀ row, r = .ok row → row = tables.read database statement
  | .newIds count => after = tables ∧ r.length = count
  | .commit writes =>
    (r = .ok () ∧ tables.write writes = some after) ∨ (∃ x, r = .error x) ∧ after = tables
  | .service _ | .utcNow | .rollback => after = tables

end KnowledgeTables

def knowledgeEnvironment (database : KnowledgeDatabase) :
    Process.Environment KnowledgeEffect KnowledgeAnswer KnowledgeTables where
  answers := KnowledgeTables.Answers database
  drifts := fun _ _ => False

structure KnowledgeTransaction where
  writes : List KnowledgeWrite := []
  failed : Bool := false
deriving DecidableEq

abbrev KnowledgeSession (α : Type) : Type :=
  Action KnowledgeEffect KnowledgeAnswer KnowledgeTransaction Exc α

namespace KnowledgeSession

def lost : Exc :=
  .sqlAlchemy "DBAPIError" "current transaction is aborted, commands ignored until end of block"

def settle {α : Type} : Except Exc α → KnowledgeSession α
  | .ok a => pure a
  | .error x => do
    Action.modify fun transaction => { transaction with failed := true }
    Action.throw x

def whileAlive {α : Type} (body : KnowledgeTransaction → KnowledgeSession α) :
    KnowledgeSession α := do
  let transaction ← Action.get
  if transaction.failed then Action.throw lost else body transaction

def ask (statement : KnowledgeStatement) : KnowledgeSession (KnowledgeRow statement) :=
  whileAlive fun _ => do
    let answer ← Action.perform (.ask statement)
    settle answer

def service (s : OutsideService) : KnowledgeSession (OutsideRow s) := do
  let answer ← Action.perform (.service s)
  Action.ofExcept answer

def utcNow : KnowledgeSession Instant := Action.perform KnowledgeEffect.utcNow

def newIds (count : Nat) : KnowledgeSession (List UUID) :=
  Action.perform (KnowledgeEffect.newIds count)

def add (writes : List KnowledgeWrite) : KnowledgeSession Unit :=
  Action.modify fun transaction => { transaction with writes := transaction.writes ++ writes }

def commit : KnowledgeSession Unit :=
  whileAlive fun transaction => do
    let answer ← Action.perform (.commit transaction.writes)
    settle answer
    Action.modify fun _ => {}

def rollbackQuietly : KnowledgeSession Unit := do
  let _ ← Action.perform .rollback
  Action.modify fun _ => {}

def fail {α : Type} (statusCode : Nat) (detail : String) : KnowledgeSession α :=
  Action.throw (.http statusCode (.text detail))

def refuse (condition : Prop) [Decidable condition] (statusCode : Nat) (detail : String) :
    KnowledgeSession Unit :=
  if condition then fail statusCode detail else pure ()

/-- Run a handler for what `except Exception` catches. -/
def tryExcept {α : Type} (body : KnowledgeSession α) (handler : Exc → KnowledgeSession α) :
    KnowledgeSession α :=
  Action.tryCatch body fun x => if x.isException then handler x else Action.throw x

/-- Run a handler for what `except (OSError, SQLAlchemyError)` catches. -/
def tryStorage {α : Type} (body : KnowledgeSession α) (handler : Exc → KnowledgeSession α) :
    KnowledgeSession α :=
  Action.tryCatch body fun x =>
    match x with
    | .os _ _ | .sqlAlchemy _ _ => handler x
    | _ => Action.throw x

def storageUnavailable {α : Type} : KnowledgeSession α :=
  fail 503 "Knowledge metadata storage is unavailable."

def guarded {α : Type} (body : KnowledgeSession α) : KnowledgeSession α :=
  tryStorage body fun _ => do
    rollbackQuietly
    storageUnavailable

def requireKnowledgePermission (principal : Principal) (permission : Permission) :
    KnowledgeSession Unit :=
  refuse (principal.hasPermission permission = false) 403
    ("Permission required: " ++ permission.value)

end KnowledgeSession
end AgentHive
