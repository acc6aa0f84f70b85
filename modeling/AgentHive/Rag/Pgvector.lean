import AgentHive.Knowledge.DocumentProcessing
import AgentHive.Rag.Schemas
import AgentHive.Services.KnowledgeTables
import AgentHive.Store.TtlCache
import Mathlib.Data.List.Infix

/-!
The vector store adapter: its searches with the two caches of the process, and the
writes of its chunk table.
-/

namespace AgentHive.Rag

structure ChunkRow where
  id : UUID
  tenantId : UUID
  knowledgeBaseId : UUID
  documentId : UUID
  chunkIndex : Nat
  text : String
  tokenCount : Int
  sourceName : Option String
  searchText : String
  metadataJson : JsonDict
  updatedAt : Instant
  embedding : Option EmbeddingResult

structure VectorUpsertRequest where
  tenantId : UUID
  knowledgeBaseId : UUID
  documentId : UUID
  chunks : List RAGChunk
  metadata : JsonDict := []

/-- `query.strip().lower()`, `value.lower().split()`, `int(str(value))`, the texts of
values, and the distance of vectors. -/
structure VectorLibrary extends TextLibrary where
  normalizeQuery : String → String
  lowerWords : String → List String
  intOf : String → Option Int
  uuidText : UUID → String
  distance : List ℚ → List ℚ → ℚ

structure FixedEmbeddings where
  modelKey : String
  embedText : String → EmbeddingResult

inductive HashKey
  | none
  | num (q : ℚ)
  | str (s : String)
deriving DecidableEq

def hashKey : Json → Option HashKey
  | .null => some .none
  | .bool b => some (.num (if b then 1 else 0))
  | .num q => some (.num q)
  | .str s => some (.str s)
  | .arr _ | .obj _ => none

structure RetrievalKey where
  tenantId : UUID
  knowledgeBaseId : UUID
  query : String
  topK : Nat
  documentId : HashKey
deriving DecidableEq

structure VectorStore where
  rows : List ChunkRow
  retrievalCache : TtlCache RetrievalKey RetrieveResult ℚ
  embeddingCache : TtlCache (String × String) EmbeddingResult ℚ

def freshStore (rows : List ChunkRow) : VectorStore where
  rows := rows
  retrievalCache := { maxsize := 256, ttl := 180, data := .empty }
  embeddingCache := { maxsize := 1024, ttl := 600, data := .empty }

def clearRagCaches (store : VectorStore) : VectorStore :=
  { store with
    retrievalCache := store.retrievalCache.clear
    embeddingCache := store.embeddingCache.clear }

open DocumentProcessing (round4)

theorem round4_nonneg {q : ℚ} (h : 0 ≤ q) : 0 ≤ round4 q := by
  have units : (0 : ℤ) ≤ Numeric.roundHalfEven (q * 10000) :=
    Numeric.roundHalfEven_nonneg (mul_nonneg h (by norm_num))
  exact div_nonneg (by exact_mod_cast units) (by norm_num)

theorem finite_nonneg {q : ℚ} (h : 0 ≤ q) :
    ∀ value ∈ some (PyFloat.finite q), value.isNegative = false := by
  intro value same
  cases same
  exact decide_eq_false (not_lt.mpr h)

namespace Pgvector

section Search

variable (lib : VectorLibrary)

def matchesFilters (row : ChunkRow) (filters : JsonDict) : Bool :=
  filters.isEmpty ||
    (!(filters.get "document_id").truthy ||
        lib.uuidText row.documentId == lib.str (filters.get "document_id")) &&
      (!(filters.get "source_name").truthy ||
        row.sourceName == some (lib.str (filters.get "source_name"))) &&
      filters.all fun e =>
        e.1 == "document_id" || e.1 == "source_name" ||
          lib.str (row.metadataJson.get e.1) == lib.str e.2

def normalizeSearchText (value : String) : String := " ".intercalate (lib.lowerWords value)

def occursIn (term searchText : String) : Bool := term.toList <:+: searchText.toList

def scoreText (searchText : String) (query : String) : ℚ :=
  let terms := lib.lowerWords query
  if terms = [] then 1 / 10
  else
    let found : ℚ := (terms.filter fun term => occursIn term searchText).length
    let exactBonus : ℚ := if occursIn (normalizeSearchText lib query) searchText then 1 else 0
    round4 (found / terms.length + exactBonus)

theorem scoreText_nonneg (searchText query : String) : 0 ≤ scoreText lib searchText query := by
  simp only [scoreText]
  split
  · norm_num
  · refine round4_nonneg (add_nonneg (div_nonneg (Nat.cast_nonneg _) (Nat.cast_nonneg _)) ?_)
    split
    · norm_num
    · exact le_refl 0

def toChunk (row : ChunkRow) (score : ℚ) (nonneg : 0 ≤ score) : RAGChunk where
  chunkId := lib.uuidText row.id
  documentId := some row.documentId
  text := row.text
  score := some (.finite score)
  sourceName := row.sourceName
  metadata := (row.metadataJson.set "chunk_index" (.num row.chunkIndex)).set "token_count"
    (.num row.tokenCount)
  score_nonneg := finite_nonneg nonneg

def knowledgeRows (rows : List ChunkRow) (tenantId knowledgeBaseId : UUID) : List ChunkRow :=
  rows.filter fun row => row.tenantId == tenantId && row.knowledgeBaseId == knowledgeBaseId

def nearest (rows : List ChunkRow) (vector : List ℚ) (limit : Nat) : List (ChunkRow × ℚ) :=
  let scored := rows.filterMap fun row =>
    row.embedding.map fun embedding => (row, lib.distance embedding.vector vector)
  (scored.insertionSort fun a b => a.2 ≤ b.2).take limit

/-- `_vector_search`, on the rows of the knowledge base. -/
def vectorSearch (rows : List ChunkRow) (embedding : EmbeddingResult) (elapsedMs : Nat)
    (request : VectorSearchRequest) : RetrieveResult :=
  let candidates := nearest lib rows embedding.vector (max (request.topK * 5) request.topK)
  let kept := (candidates.filter fun c => matchesFilters lib c.1 request.filters).take request.topK
  { chunks := kept.map fun c =>
      toChunk lib c.1 (round4 (max 0 (1 - c.2))) (round4_nonneg (le_max_left ..))
    engine := .pgvector
    elapsedMs := elapsedMs
    diagnostics := [("retrieval_mode", .str "vector_similarity"),
      ("embedding_status", .str "ready"), ("embedding_model_key", .str embedding.modelKey),
      ("embedding_mode", .str embedding.mode), ("candidate_count", .num candidates.length),
      ("vector_schema_ready", .bool true), ("adapter", .str "pgvector")] }

/-- `_text_fallback_search`, on the rows of the knowledge base. -/
def textFallbackSearch (rows : List ChunkRow) (elapsedMs : Nat) (request : VectorSearchRequest) :
    RetrieveResult :=
  let recent := (rows.insertionSort fun a b =>
    b.updatedAt < a.updatedAt ∨ a.updatedAt = b.updatedAt ∧ a.chunkIndex ≤ b.chunkIndex).take 1000
  let scored := recent.filter fun row =>
    matchesFilters lib row request.filters &&
      (0 < scoreText lib row.searchText request.query || lib.lowerWords request.query == [])
  let best := scored.insertionSort fun a b =>
    let p := scoreText lib a.searchText request.query
    let q := scoreText lib b.searchText request.query
    q < p ∨ q = p ∧ b.updatedAt ≤ a.updatedAt
  { chunks := (best.take request.topK).map fun row =>
      toChunk lib row (scoreText lib row.searchText request.query) (scoreText_nonneg ..)
    engine := .pgvector
    elapsedMs := elapsedMs
    diagnostics := [("retrieval_mode", .str "text_chunk_fallback"),
      ("embedding_status", .str "ready_no_vector_hits"),
      ("candidate_count", .num scored.length),
      ("query_terms", .arr ((lib.lowerWords request.query).map Json.str)),
      ("adapter", .str "pgvector")] }

def chooseResult (schemaReady : Bool) (rows : List ChunkRow) (embedding : EmbeddingResult)
    (elapsedMs : Nat) (request : VectorSearchRequest) : RetrieveResult :=
  let result := vectorSearch lib rows embedding elapsedMs request
  if schemaReady && !result.chunks.isEmpty then result
  else textFallbackSearch lib rows elapsedMs request

/-- The key of a request in `RETRIEVAL_CACHE`. -/
def retrievalKey (request : VectorSearchRequest) : Option RetrievalKey :=
  (hashKey (request.filters.get "document_id")).map fun documentId =>
    { tenantId := request.tenantId
      knowledgeBaseId := request.knowledgeBaseId
      query := lib.normalizeQuery request.query
      topK := request.topK
      documentId := documentId }

/-- The embedding of the query, from `EMBEDDING_CACHE` where it is kept. -/
def queryEmbedding (service : FixedEmbeddings) (clock : Nat → ℚ) (store : VectorStore)
    (query : String) : EmbeddingResult × VectorStore :=
  let key := (service.modelKey, lib.normalizeQuery query)
  match store.embeddingCache.get (clock 1) key with
  | (some embedding, cache) => (embedding, { store with embeddingCache := cache })
  | (none, cache) =>
    (service.embedText query,
      { store with embeddingCache := cache.set (clock 2) key (service.embedText query) })

def remember (clock : Nat → ℚ) (store : VectorStore) (key : RetrievalKey)
    (result : RetrieveResult) : VectorStore :=
  if result.chunks.isEmpty then store
  else { store with retrievalCache := store.retrievalCache.set (clock 3) key result }

/-- The body of `search` where the cache has no answer. -/
def searchRows (service : FixedEmbeddings) (schemaReady : Bool) (clock : Nat → ℚ)
    (elapsedMs : Nat) (store : VectorStore) (request : VectorSearchRequest) :
    RetrieveResult × VectorStore :=
  let rows := knowledgeRows store.rows request.tenantId request.knowledgeBaseId
  if schemaReady then
    let embedded := queryEmbedding lib service clock store request.query
    (chooseResult lib true rows embedded.1 elapsedMs request, embedded.2)
  else (textFallbackSearch lib rows elapsedMs request, store)

/-- `PGVectorAdapter.search`. A filter that is no part of a key is a `TypeError`. -/
def search (service : FixedEmbeddings) (schemaReady : Bool) (clock : Nat → ℚ) (elapsedMs : Nat)
    (store : VectorStore) (request : VectorSearchRequest) :
    Except Exc RetrieveResult × VectorStore :=
  match retrievalKey lib request with
  | none => (.error (.other "TypeError" ""), store)
  | some key =>
    match store.retrievalCache.get (clock 0) key with
    | (some result, cache) => (.ok result, { store with retrievalCache := cache })
    | (none, cache) =>
      let searched := searchRows lib service schemaReady clock elapsedMs
        { store with retrievalCache := cache } request
      (.ok searched.1, remember clock searched.2 key searched.1)

def uncachedChunks (service : FixedEmbeddings) (schemaReady : Bool) (rows : List ChunkRow)
    (request : VectorSearchRequest) : List RAGChunk :=
  (chooseResult lib schemaReady
    (knowledgeRows rows request.tenantId request.knowledgeBaseId)
    (service.embedText request.query) 0 request).chunks

end Search

section Writes

variable (lib : VectorLibrary)

/-- The row that `upsert_chunks` writes for a chunk. -/
def upsertedRow (service : FixedEmbeddings) (now : Instant) (request : VectorUpsertRequest)
    (index : Nat) (newId : UUID) (chunk : RAGChunk) : ChunkRow where
  id := newId
  tenantId := request.tenantId
  knowledgeBaseId := request.knowledgeBaseId
  documentId := request.documentId
  chunkIndex := index
  text := chunk.text
  tokenCount := (lib.intOf (lib.str (JsonDict.get chunk.metadata "token_count"))).getD 0
  sourceName := chunk.sourceName
  searchText := normalizeSearchText lib chunk.text
  metadataJson := JsonDict.merge (JsonDict.merge request.metadata chunk.metadata)
    [("embedding_status", .str "ready"),
      ("embedding_model_key", .str (service.embedText chunk.text).modelKey),
      ("embedding_mode", .str (service.embedText chunk.text).mode),
      ("embedding_dimensions", .num (service.embedText chunk.text).dimensions),
      ("vector_store", .str "pgvector")]
  updatedAt := now
  embedding := some (service.embedText chunk.text)

def upsertChunks (service : FixedEmbeddings) (now : Instant) (newIds : Nat → UUID)
    (store : VectorStore) (request : VectorUpsertRequest) : VectorStore :=
  { store with
    rows := (store.rows.filter fun row => row.documentId != request.documentId) ++
      request.chunks.mapIdx fun index chunk =>
        upsertedRow lib service now request index (newIds index) chunk }

def deleteDocument (store : VectorStore) (knowledgeBaseId documentId : UUID) : VectorStore :=
  { store with
    rows := store.rows.filter fun row =>
      !(row.knowledgeBaseId == knowledgeBaseId && row.documentId == documentId) }

/-- `RAGRouter.ingest`, as far as the store goes. -/
def routeIngest (store : VectorStore) : RAGEngineType → VectorStore
  | .ragflow => clearRagCaches store
  | .pgvector => store

/-- `RAGRouter.delete_document`, as far as the store goes. -/
def routeDelete (store : VectorStore) (knowledgeBaseId documentId : UUID) :
    RAGEngineType → VectorStore
  | .ragflow => clearRagCaches store
  | .pgvector => clearRagCaches (deleteDocument store knowledgeBaseId documentId)

end Writes

end Pgvector
end AgentHive.Rag
