import AgentHive.Rag.Pgvector
import AgentHive.Services.CalmRuns
import AgentHive.Services.RetrievedRows

/-!
Retrieval by vectors alone: what comes back is the best of the chunks that match among
those nearest to the query. Chunks that are farther away are not looked at.
-/

namespace AgentHive

open Process (Action Keeping Leads)

namespace KnowledgeService

open KnowledgeSession DocumentProcessing

variable (database : KnowledgeDatabase) (tables : KnowledgeTables) (settings : RetrievalSettings)
  (request : RetrieveRequest)

def embeddedChunks (vector : List ℚ) : List ((UUID × KnowledgeChunk) × ℚ) :=
  (tables.chunksOf request.tenantId request.knowledgeBaseId).filterMap fun e =>
    e.2.embedding.map fun embedding => (e, database.distance embedding.vector vector)

def matching (row : (UUID × KnowledgeChunk) × ℚ) : Option RAGChunk :=
  vectorCandidate settings request (row.1, max 0 (1 - row.2))

def IsNearer {α : Type} (a b : α × ℚ) : Prop := a.2 ≤ b.2

def IsBetter (a b : RAGChunk) : Prop :=
  b.score < a.score ∨ a.score = b.score ∧ a.metadata.chunkIndex ≤ b.metadata.chunkIndex

/-- The best matching chunks among the nearest of the base. -/
def BestOfNearest (vector : List ℚ) (chunks : List RAGChunk) : Prop :=
  ∃ near, BestOf IsNearer (candidateLimit request) (embeddedChunks database tables request vector)
      near ∧
    BestOf IsBetter request.topK (near.filterMap (matching settings request)) chunks

def AnsweredWith (embedding : EmbeddingResult) : KnowledgeEvent → Prop
  | ⟨.service (.embedText _), r⟩ => r = .ok embedding
  | e => tables.Answers database e.1 e.2 tables

instance {α : Type} : DecidableRel (IsNearer (α := α)) := fun a b =>
  inferInstanceAs (Decidable (a.2 ≤ b.2))

instance {α : Type} : Std.Total (IsNearer (α := α)) := ⟨fun a b => le_total a.2 b.2⟩

instance {α : Type} : IsTrans (α × ℚ) IsNearer := ⟨fun _ _ _ => le_trans⟩

instance : DecidableRel IsBetter := fun a b =>
  inferInstanceAs (Decidable (b.score < a.score ∨ _))

theorem isBetter_total (a b : RAGChunk) : IsBetter a b ∨ IsBetter b a := by
  rcases lt_trichotomy a.score b.score with less | same | more
  · exact .inr (.inl less)
  · cases Nat.le_total a.metadata.chunkIndex b.metadata.chunkIndex with
    | inl first => exact .inl (.inr ⟨same, first⟩)
    | inr first => exact .inr (.inr ⟨same.symm, first⟩)
  · exact .inl (.inl more)

theorem isBetter_trans (a b c : RAGChunk) (first : IsBetter a b) (second : IsBetter b c) :
    IsBetter a c := by
  cases first with
  | inl less =>
    cases second with
    | inl more => exact .inl (lt_trans more less)
    | inr same => exact .inl (same.1 ▸ less)
  | inr same =>
    cases second with
    | inl more => exact .inl (same.1.symm ▸ more)
    | inr again => exact .inr ⟨same.1.trans again.1, Nat.le_trans same.2 again.2⟩

instance : Std.Total IsBetter := ⟨isBetter_total⟩

instance : IsTrans RAGChunk IsBetter := ⟨isBetter_trans⟩

theorem vectorCandidates_eq (rows : List ((UUID × KnowledgeChunk) × ℚ)) :
    vectorCandidates settings request rows =
      (rows.filterMap (vectorCandidate settings request)).insertionSort IsBetter := rfl

theorem bestOfNearest_vectorRows (vector : List ℚ) :
    BestOfNearest database tables settings request vector
      ((vectorCandidates settings request (tables.vectorRows database request.tenantId
        request.knowledgeBaseId vector (candidateLimit request))).take request.topK) := by
  refine ⟨((embeddedChunks database tables request vector).insertionSort IsNearer).take _,
    BestOf.take_insertionSort, ?_⟩
  have rows : (tables.vectorRows database request.tenantId request.knowledgeBaseId vector
      (candidateLimit request)).filterMap (vectorCandidate settings request) =
        (((embeddedChunks database tables request vector).insertionSort IsNearer).take
          (candidateLimit request)).filterMap (matching settings request) := List.filterMap_map ..
  rw [vectorCandidates_eq, rows]
  exact BestOf.take_insertionSort

variable {database tables settings request}

theorem retrieveEmbeddingChunks_best {embedding : EmbeddingResult}
    {good : KnowledgeWrite → Prop} (vectorOnly : settings.hybridRetrievalEnabled = false)
    (unranked : rerankerOn settings = false) :
    Told (AnsweredWith database tables embedding) good (retrieveEmbeddingChunks settings request)
      (BestOfNearest database tables settings request embedding.vector) := by
  refine .bind writes_service fun answered told => ?_
  cases told
  refine .bind writes_ask fun rows told => ?_
  have known : rows = tables.vectorRows database request.tenantId request.knowledgeBaseId
      embedding.vector (candidateLimit request) := told.2 rows rfl
  have best := bestOfNearest_vectorRows database tables settings request embedding.vector
  rw [← known] at best
  refine .bind (Q := fun selected => selected =
    (vectorCandidates settings request rows).take request.topK) ?_ fun selected same => ?_
  · exact .ite (fun on => by simp [vectorOnly] at on) fun _ => .pure rfl
  · refine .bind (Q := fun chunks => chunks = selected) ?_ fun chunks eq => ?_
    · exact .ite (fun on => by simp [unranked] at on) fun _ => .pure rfl
    · rw [eq, same, List.take_take, Nat.min_self]
      exact .pure best

end KnowledgeService

namespace Rag.Pgvector

open KnowledgeService (IsNearer)
open DocumentProcessing (round4)

variable (lib : VectorLibrary) (rows : List ChunkRow) (request : VectorSearchRequest)

theorem score_nonneg (distance : ℚ) : round4 (max 0 (1 - distance)) ≥ 0 :=
  round4_nonneg (le_max_left ..)

def NearestMatching (vector : List ℚ) (chunks : List RAGChunk) : Prop :=
  ∃ near kept, BestOf IsNearer (max (request.topK * 5) request.topK)
      (rows.filterMap fun row =>
        row.embedding.map fun embedding => (row, lib.distance embedding.vector vector)) near ∧
    BestOf IsNearer request.topK (near.filter fun c => matchesFilters lib c.1 request.filters)
      kept ∧
    chunks = kept.map fun c : ChunkRow × ℚ =>
      toChunk lib c.1 (round4 (max 0 (1 - c.2))) (score_nonneg c.2)

theorem vectorSearch_nearest (embedding : EmbeddingResult) (elapsedMs : Nat) :
    NearestMatching lib rows request embedding.vector
      (vectorSearch lib rows embedding elapsedMs request).chunks := by
  have near : BestOf IsNearer (max (request.topK * 5) request.topK)
      (rows.filterMap fun row => row.embedding.map fun e =>
        (row, lib.distance e.vector embedding.vector)) _ := BestOf.take_insertionSort
  exact ⟨_, _, near, .take (near.ordered.filter _), rfl⟩

end Rag.Pgvector

namespace KnowledgeService

open KnowledgeSession

/-- Without full-text search and reranker, the chunks are the best matching ones among the
nearest of the base; those of the adapter are so as well. -/
theorem vectors_give_best_of_nearest {database : KnowledgeDatabase} {tables : KnowledgeTables}
    {settings : RetrievalSettings} {request : RetrieveRequest} {embedding : EmbeddingResult}
    (vectorOnly : settings.hybridRetrievalEnabled = false)
    (unranked : rerankerOn settings = false) :
    Told (AnsweredWith database tables embedding) (fun _ => False)
        (retrieveEmbeddingChunks settings request)
        (BestOfNearest database tables settings request embedding.vector) ∧
      ∀ (lib : Rag.VectorLibrary) (rows : List Rag.ChunkRow) (embedding : EmbeddingResult)
        (elapsedMs : Nat) (search : Rag.VectorSearchRequest),
        Rag.Pgvector.NearestMatching lib rows search embedding.vector
          (Rag.Pgvector.vectorSearch lib rows embedding elapsedMs search).chunks := by
  refine ⟨retrieveEmbeddingChunks_best vectorOnly unranked, ?_⟩
  intro lib rows embedding elapsedMs search
  exact Rag.Pgvector.vectorSearch_nearest lib rows search embedding elapsedMs

def shelfEmbedding : EmbeddingResult :=
  { modelKey := "", dimensions := 1, vector := [1], mode := "" }

def shelfChunk (documentId : UUID) (chunkIndex : Nat) : KnowledgeChunk where
  tenantId := 1
  knowledgeBaseId := 2
  documentId := documentId
  chunkIndex := chunkIndex
  text := "shelf"
  searchText := "shelf"
  embedding := some shelfEmbedding

def shelfTables : KnowledgeTables where
  bases := .empty
  documents := .empty
  chunks := .ofEntries [(1, shelfChunk 7 0), (2, shelfChunk 7 1), (3, shelfChunk 7 2),
    (4, shelfChunk 7 3), (5, shelfChunk 7 4), (6, shelfChunk 8 0)]

def shelfSettings : RetrievalSettings where
  classes := { lower := id, isWord := fun c => c.isAlpha }
  str
    | .uuid id => toString id
    | _ => ""

def shelfRequest : RetrieveRequest where
  tenantId := 1
  knowledgeBaseId := 2
  query := "shelf"
  topK := 1
  filters := [("document_id", .uuid 8)]

theorem matching_chunk_is_not_returned :
    ComesTo plainDatabase (retrieveEmbeddingChunks shelfSettings shelfRequest) {} shelfTables []
        {} shelfTables ∧
      ((embeddedChunks plainDatabase shelfTables shelfRequest [1]).filterMap
        (matching shelfSettings shelfRequest)).length = 1 := by
  refine ⟨?_, by decide +kernel⟩
  have none : (vectorCandidates shelfSettings shelfRequest (shelfTables.vectorRows plainDatabase
      1 2 [1] 5)).take 1 = [] := by decide +kernel
  refine Leads.bind (comesTo_service (s := .embedText "shelf") shelfEmbedding)
    (Leads.bind (comesTo_ask rfl) ?_)
  refine Leads.bind (Leads.ite_neg (by decide) Leads.pure) ?_
  refine Leads.bind (Leads.ite_neg (by decide +kernel) Leads.pure) ?_
  change Leads _ (pure (List.take 1 (List.take 1 (vectorCandidates shelfSettings shelfRequest
    (shelfTables.vectorRows plainDatabase 1 2 [1] 5))))) _ _ _ _ _
  rw [none]
  exact Leads.pure

theorem default_settings_give_best_of_nearest :
    Told (AnsweredWith plainDatabase shelfTables shelfEmbedding) (fun _ => False)
        (retrieveEmbeddingChunks shelfSettings shelfRequest)
        (BestOfNearest plainDatabase shelfTables shelfSettings shelfRequest [1]) :=
  (vectors_give_best_of_nearest rfl rfl).1

end KnowledgeService
end AgentHive
