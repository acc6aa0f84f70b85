import AgentHive.Rag.Pgvector

/-!
When the caches of the vector store cannot be seen: a search answers with the chunks
that it would find without them.
-/

namespace AgentHive.Rag
namespace Pgvector

inductive VectorStep
  | search (clock : Nat → ℚ) (elapsedMs : Nat) (request : VectorSearchRequest)
  | upsert (now : Instant) (newIds : Nat → UUID) (request : VectorUpsertRequest)
  | deleteDocument (knowledgeBaseId documentId : UUID)
  | routeIngest (engine : RAGEngineType)
  | routeDelete (knowledgeBaseId documentId : UUID) (engine : RAGEngineType)

section Run

variable (lib : VectorLibrary) (service : FixedEmbeddings) (schemaReady : Bool)

namespace VectorStep

def after (store : VectorStore) : VectorStep → VectorStore
  | .search clock elapsedMs request =>
    (Pgvector.search lib service schemaReady clock elapsedMs store request).2
  | .upsert now newIds request => upsertChunks lib service now newIds store request
  | .deleteDocument knowledgeBaseId documentId =>
    Pgvector.deleteDocument store knowledgeBaseId documentId
  | .routeIngest engine => Pgvector.routeIngest store engine
  | .routeDelete knowledgeBaseId documentId engine =>
    Pgvector.routeDelete store knowledgeBaseId documentId engine

/-- A search answers with the chunks that it would find without caches. -/
def Transparent (store : VectorStore) : VectorStep → Prop
  | .search clock elapsedMs request =>
    ∃ result,
      (Pgvector.search lib service schemaReady clock elapsedMs store request).1 = .ok result ∧
        result.chunks = uncachedChunks lib service schemaReady store.rows request
  | _ => True

def Touches (store : VectorStore) (tenantId knowledgeBaseId : UUID) : VectorStep → Prop
  | .upsert _ _ request =>
    request.tenantId = tenantId ∧ request.knowledgeBaseId = knowledgeBaseId ∧
        request.chunks ≠ [] ∨
      ∃ row ∈ knowledgeRows store.rows tenantId knowledgeBaseId,
        row.documentId = request.documentId
  | .deleteDocument knowledgeBase documentId =>
    knowledgeBase = knowledgeBaseId ∧
      ∃ row ∈ knowledgeRows store.rows tenantId knowledgeBaseId, row.documentId = documentId
  | _ => False

def Calm (store : VectorStore) (step : VectorStep) : Prop :=
  ∀ e ∈ store.retrievalCache.data.entries,
    ¬ step.Touches store e.1.tenantId e.1.knowledgeBaseId

def request? : VectorStep → Option VectorSearchRequest
  | .search _ _ request => some request
  | _ => none

end VectorStep

def Transparent (store : VectorStore) : List VectorStep → Prop
  | [] => True
  | step :: steps =>
    step.Transparent lib service schemaReady store ∧
      Transparent (step.after lib service schemaReady store) steps

def Calm (store : VectorStore) : List VectorStep → Prop
  | [] => True
  | step :: steps => step.Calm store ∧ Calm (step.after lib service schemaReady store) steps

/-- What the caches make no difference between is the same request, and every request has
a key. -/
structure Distinguished (requests : VectorSearchRequest → Prop) : Prop where
  keyed : ∀ r, requests r → (retrievalKey lib r).isSome
  query : ∀ r s, requests r → requests s →
    lib.normalizeQuery r.query = lib.normalizeQuery s.query → r.query = s.query
  request : ∀ r s, requests r → requests s → retrievalKey lib r = retrievalKey lib s → r = s

structure Warm (requests : VectorSearchRequest → Prop) (store : VectorStore) : Prop where
  answers : store.retrievalCache.Holds fun key result =>
    ∀ r, requests r → retrievalKey lib r = some key →
      result.chunks = uncachedChunks lib service schemaReady store.rows r
  embeddings : store.embeddingCache.Holds fun key embedding =>
    ∀ r, requests r → key = (service.modelKey, lib.normalizeQuery r.query) →
      embedding = service.embedText r.query

end Run

variable {lib : VectorLibrary} {service : FixedEmbeddings} {schemaReady : Bool}
  {requests : VectorSearchRequest → Prop} {store : VectorStore} {request : VectorSearchRequest}
  {clock : Nat → ℚ} {elapsedMs : Nat}

theorem warm_freshStore (rows : List ChunkRow) :
    Warm lib service schemaReady requests (freshStore rows) where
  answers := fun _ mem => nomatch mem
  embeddings := fun _ mem => nomatch mem

theorem warm_clearRagCaches : Warm lib service schemaReady requests (clearRagCaches store) where
  answers := TtlCache.holds_clear
  embeddings := TtlCache.holds_clear

theorem chunks_chooseResult (rows : List ChunkRow) (embedding : EmbeddingResult) :
    (chooseResult lib schemaReady rows embedding elapsedMs request).chunks =
      (chooseResult lib schemaReady rows embedding 0 request).chunks := by
  have found : (vectorSearch lib rows embedding elapsedMs request).chunks =
    (vectorSearch lib rows embedding 0 request).chunks := rfl
  rw [chooseResult, chooseResult, found]
  split
  · rfl
  · rfl

theorem queryEmbedding_spec (distinguished : Distinguished lib requests) (asked : requests request)
    (warm : Warm lib service schemaReady requests store) :
    (queryEmbedding lib service clock store request.query).1 = service.embedText request.query ∧
      (queryEmbedding lib service clock store request.query).2.rows = store.rows ∧
      Warm lib service schemaReady requests
        (queryEmbedding lib service clock store request.query).2 := by
  have hit : ∀ embedding, (store.embeddingCache.get (clock 1)
      (service.modelKey, lib.normalizeQuery request.query)).1 = some embedding →
        embedding = service.embedText request.query :=
    fun embedding found => warm.embeddings.of_get found request asked rfl
  have kept := @TtlCache.Holds.get _ _ _ _ _ _ _ _ (clock 1)
    (service.modelKey, lib.normalizeQuery request.query) warm.embeddings
  rw [queryEmbedding]
  cases looked : store.embeddingCache.get (clock 1)
      (service.modelKey, lib.normalizeQuery request.query) with
  | mk answer cache =>
    rw [looked] at hit kept
    cases answer with
    | some embedding => exact ⟨hit embedding rfl, rfl, warm.answers, kept⟩
    | none =>
      refine ⟨rfl, rfl, warm.answers, kept.set ?_⟩
      intro r among same
      have sameQuery := distinguished.query request r asked among (Prod.mk.inj same).2
      rw [sameQuery]

theorem searchRows_spec (distinguished : Distinguished lib requests) (asked : requests request)
    (warm : Warm lib service schemaReady requests store) :
    (searchRows lib service schemaReady clock elapsedMs store request).1.chunks =
        uncachedChunks lib service schemaReady store.rows request ∧
      (searchRows lib service schemaReady clock elapsedMs store request).2.rows = store.rows ∧
      Warm lib service schemaReady requests
        (searchRows lib service schemaReady clock elapsedMs store request).2 := by
  rw [searchRows, uncachedChunks]
  cases schemaReady with
  | true =>
    obtain ⟨embedded, rows, stays⟩ := @queryEmbedding_spec lib service true requests store request
      clock distinguished asked warm
    rw [if_pos rfl]
    refine ⟨?_, rows, stays⟩
    rw [← embedded]
    exact chunks_chooseResult _ _
  | false => exact ⟨rfl, rfl, warm⟩

theorem search_spec (distinguished : Distinguished lib requests) (asked : requests request)
    (warm : Warm lib service schemaReady requests store) :
    (∃ result, (search lib service schemaReady clock elapsedMs store request).1 = .ok result ∧
      result.chunks = uncachedChunks lib service schemaReady store.rows request) ∧
    (search lib service schemaReady clock elapsedMs store request).2.rows = store.rows ∧
    Warm lib service schemaReady requests
      (search lib service schemaReady clock elapsedMs store request).2 := by
  obtain ⟨key, keyed⟩ := Option.isSome_iff_exists.mp (distinguished.keyed request asked)
  have hit : ∀ result, (store.retrievalCache.get (clock 0) key).1 = some result →
      result.chunks = uncachedChunks lib service schemaReady store.rows request :=
    fun result found => warm.answers.of_get found request asked keyed
  have kept := @TtlCache.Holds.get _ _ _ _ _ _ _ _ (clock 0) key warm.answers
  rw [search, keyed]
  dsimp only
  cases looked : store.retrievalCache.get (clock 0) key with
  | mk answer cache =>
    rw [looked] at hit kept
    cases answer with
    | some result => exact ⟨⟨result, rfl, hit result rfl⟩, rfl, kept, warm.embeddings⟩
    | none =>
      obtain ⟨chunks, rows, stays⟩ := @searchRows_spec lib service schemaReady requests
        { store with retrievalCache := cache } request clock elapsedMs distinguished asked
        ⟨kept, warm.embeddings⟩
      dsimp only
      generalize searchRows lib service schemaReady clock elapsedMs
        { store with retrievalCache := cache } request = searched at chunks rows stays
      refine ⟨⟨_, rfl, chunks⟩, ?_⟩
      rw [remember]
      split
      · exact ⟨rows, stays⟩
      · refine ⟨rows, stays.answers.set ?_, stays.embeddings⟩
        intro r among same
        rw [← distinguished.request request r asked among (keyed.trans same.symm), rows]
        exact chunks

theorem uncachedChunks_congr {rows : List ChunkRow}
    (same : knowledgeRows rows request.tenantId request.knowledgeBaseId =
      knowledgeRows store.rows request.tenantId request.knowledgeBaseId) :
    uncachedChunks lib service schemaReady rows request =
      uncachedChunks lib service schemaReady store.rows request := by
  rw [uncachedChunks, same, uncachedChunks]

theorem warm_of_rows {rows : List ChunkRow} (warm : Warm lib service schemaReady requests store)
    (same : ∀ e ∈ store.retrievalCache.data.entries,
      knowledgeRows rows e.1.tenantId e.1.knowledgeBaseId =
        knowledgeRows store.rows e.1.tenantId e.1.knowledgeBaseId) :
    Warm lib service schemaReady requests { store with rows := rows } where
  answers := by
    refine warm.answers.mono fun e mem right r among keyed => ?_
    obtain ⟨documentId, hashed, made⟩ := Option.map_eq_some_iff.mp keyed
    have ofEntry := same e mem
    rw [← made] at ofEntry
    rw [uncachedChunks_congr ofEntry]
    exact right r among keyed
  embeddings := warm.embeddings

theorem knowledgeRows_delete {t kb knowledgeBaseId documentId : UUID}
    (calm : ¬ (VectorStep.deleteDocument knowledgeBaseId documentId).Touches store t kb) :
    knowledgeRows (deleteDocument store knowledgeBaseId documentId).rows t kb =
      knowledgeRows store.rows t kb := by
  rw [knowledgeRows, deleteDocument, List.filter_filter, knowledgeRows]
  refine List.filter_congr fun row mem => ?_
  by_cases own : (row.tenantId == t && row.knowledgeBaseId == kb) = true
  · rw [own, Bool.true_and]
    have stays : ¬ (row.knowledgeBaseId = knowledgeBaseId ∧ row.documentId = documentId) := by
      intro ⟨base, document⟩
      have inBase : row.knowledgeBaseId = kb := by
        simp only [Bool.and_eq_true, beq_iff_eq] at own
        exact own.2
      exact calm ⟨base.symm.trans inBase, row, List.mem_filter.mpr ⟨mem, own⟩, document⟩
    simpa [not_and_or] using not_and_or.mp stays
  · rw [Bool.not_eq_true] at own
    rw [own, Bool.false_and]

theorem knowledgeRows_upsert {t kb : UUID} {now : Instant} {newIds : Nat → UUID}
    {upserted : VectorUpsertRequest}
    (calm : ¬ (VectorStep.upsert now newIds upserted).Touches store t kb) :
    knowledgeRows (upsertChunks lib service now newIds store upserted).rows t kb =
      knowledgeRows store.rows t kb := by
  rw [VectorStep.Touches, not_or] at calm
  obtain ⟨elsewhere, spared⟩ := calm
  have old : knowledgeRows (store.rows.filter fun row => row.documentId != upserted.documentId) t
      kb = knowledgeRows store.rows t kb := by
    rw [knowledgeRows, List.filter_filter, knowledgeRows]
    refine List.filter_congr fun row mem => ?_
    by_cases own : (row.tenantId == t && row.knowledgeBaseId == kb) = true
    · rw [own, Bool.true_and, bne_iff_ne]
      exact fun same => spared ⟨row, List.mem_filter.mpr ⟨mem, own⟩, same⟩
    · rw [Bool.not_eq_true] at own
      rw [own, Bool.false_and]
  have new : knowledgeRows (upserted.chunks.mapIdx fun index chunk =>
      upsertedRow lib service now upserted index (newIds index) chunk) t kb = [] := by
    rw [knowledgeRows, List.filter_eq_nil_iff]
    intro row mem own
    obtain ⟨index, inside, made⟩ := List.mem_mapIdx.mp mem
    subst made
    simp only [upsertedRow, Bool.and_eq_true, beq_iff_eq] at own
    refine elsewhere ⟨own.1, own.2, ?_⟩
    intro empty
    rw [empty] at inside
    exact Nat.not_lt_zero index inside
  rw [upsertChunks, knowledgeRows, List.filter_append]
  rw [knowledgeRows] at old new
  rw [old, new, List.append_nil]

theorem warm_step (distinguished : Distinguished lib requests)
    (warm : Warm lib service schemaReady requests store) {step : VectorStep}
    (among : ∀ r ∈ step.request?, requests r) (calm : step.Calm store) :
    step.Transparent lib service schemaReady store ∧
      Warm lib service schemaReady requests (step.after lib service schemaReady store) := by
  cases step with
  | search clock elapsedMs request =>
    obtain ⟨answered, _, stays⟩ := @search_spec lib service schemaReady requests store request
      clock elapsedMs distinguished (among request rfl) warm
    exact ⟨answered, stays⟩
  | upsert now newIds request =>
    exact ⟨trivial, warm_of_rows warm fun e mem => knowledgeRows_upsert (calm e mem)⟩
  | deleteDocument knowledgeBaseId documentId =>
    exact ⟨trivial, warm_of_rows warm fun e mem => knowledgeRows_delete (calm e mem)⟩
  | routeIngest engine =>
    cases engine with
    | ragflow => exact ⟨trivial, warm_clearRagCaches⟩
    | pgvector => exact ⟨trivial, warm⟩
  | routeDelete knowledgeBaseId documentId engine =>
    cases engine with
    | ragflow => exact ⟨trivial, warm_clearRagCaches⟩
    | pgvector => exact ⟨trivial, warm_clearRagCaches⟩

theorem transparent_of_warm (distinguished : Distinguished lib requests) {steps : List VectorStep}
    (warm : Warm lib service schemaReady requests store)
    (among : ∀ step ∈ steps, ∀ r ∈ step.request?, requests r)
    (calm : Calm lib service schemaReady store steps) :
    Transparent lib service schemaReady store steps := by
  induction steps generalizing store with
  | nil => trivial
  | cons step steps ih =>
    obtain ⟨answered, stays⟩ :=
      warm_step distinguished warm (among step (List.mem_cons_self ..)) calm.1
    refine ⟨answered, ih stays ?_ calm.2⟩
    intro other mem
    exact among other (List.mem_cons_of_mem step mem)

/-- From empty caches on, every search answers as it would without them, where no two
requests share what the caches tell them apart by, and no rows are changed under a kept
answer. -/
theorem retrieval_cache_transparent (lib : VectorLibrary) (service : FixedEmbeddings)
    (schemaReady : Bool) (rows : List ChunkRow) {steps : List VectorStep}
    (distinguished : Distinguished lib fun r => ∃ step ∈ steps, r ∈ step.request?)
    (calm : Calm lib service schemaReady (freshStore rows) steps) :
    Transparent lib service schemaReady (freshStore rows) steps :=
  transparent_of_warm distinguished (warm_freshStore rows)
    (fun step mem _ request => ⟨step, mem, request⟩) calm

def plainTexts : VectorLibrary where
  str := fun value =>
    match value with
    | .str s => s
    | _ => "None"
  uuidOf _ := none
  floatOf _ := none
  normalizeQuery := id
  lowerWords text := if text = "" then [] else [text]
  intOf _ := none
  uuidText id := toString id
  distance _ _ := 0

def flatEmbeddings : FixedEmbeddings := ⟨"flat", fun _ => ⟨"flat", 1, [1], "flat"⟩⟩

def priceRow : ChunkRow where
  id := 4
  tenantId := 1
  knowledgeBaseId := 2
  documentId := 3
  chunkIndex := 0
  text := "price"
  tokenCount := 1
  sourceName := none
  searchText := "price"
  metadataJson := []
  updatedAt := 0
  embedding := none

def priceRequest : VectorSearchRequest where
  tenantId := 1
  knowledgeBaseId := 2
  query := "price"

def priceSearch : VectorStep := .search (fun _ => 0) 0 priceRequest

theorem repeated_search_transparent :
    Transparent plainTexts flatEmbeddings false (freshStore [priceRow])
      [priceSearch, priceSearch] := by
  refine retrieval_cache_transparent plainTexts flatEmbeddings false [priceRow] ?_ ?_
  · have same : ∀ r, (∃ step ∈ [priceSearch, priceSearch], r ∈ step.request?) →
        r = priceRequest := by
      intro r ⟨step, mem, asked⟩
      have own : step = priceSearch := by simpa using mem
      rw [own] at asked
      exact (Option.some.inj asked).symm
    refine ⟨?_, ?_, ?_⟩
    · intro r among
      rw [same r among]
      rfl
    · intro r s first second _
      rw [same r first, same s second]
    · intro r s first second _
      rw [same r first, same s second]
  · exact ⟨fun _ _ touched => touched, fun _ _ touched => touched, trivial⟩

theorem deleted_chunk_answered :
    ¬ ∀ (lib : VectorLibrary) (service : FixedEmbeddings) (schemaReady : Bool)
      (rows : List ChunkRow) (steps : List VectorStep),
      Transparent lib service schemaReady (freshStore rows) steps := by
  intro claimed
  have run := claimed plainTexts flatEmbeddings false [priceRow]
    [priceSearch, .deleteDocument 2 3, priceSearch]
  obtain ⟨_, _, ⟨result, answered, right⟩, _⟩ := run
  have stale : (search plainTexts flatEmbeddings false (fun _ => 0) 0
      (VectorStep.after plainTexts flatEmbeddings false
        (VectorStep.after plainTexts flatEmbeddings false (freshStore [priceRow]) priceSearch)
        (.deleteDocument 2 3)) priceRequest).1.toOption.map (fun r => r.chunks.length) =
      some 1 := by
    decide +kernel
  rw [answered] at stale
  have one : result.chunks.length = 1 := Option.some.inj stale
  rw [right] at one
  exact absurd one (by decide +kernel)

end Pgvector

end AgentHive.Rag
