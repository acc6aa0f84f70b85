import AgentHive.Knowledge.DocumentProcessing
import AgentHive.Store.OrderedDict
import AgentHive.Store.StableSort

/-!
What retrieval makes of its candidates: the filters of a request, reciprocal rank
fusion of two rankings, and the new order a reranker gives.
-/

namespace AgentHive

structure ChunkMetadata where
  chunkIndex : Nat
  tokenCount : Nat
  vectorScore : Option ℚ := none
  lexicalScore : Option ℚ := none
  ftsScore : Option ℚ := none
  rrfScore : Option ℚ := none
  rerankScore : Option ℚ := none
deriving DecidableEq

structure RAGChunk where
  chunkId : UUID
  documentId : UUID
  text : String
  score : ℚ
  sourceName : Option String
  metadata : ChunkMetadata
deriving DecidableEq

structure FtsRow where
  chunkId : UUID
  documentId : UUID
  text : String
  sourceName : Option String
  chunkIndex : Nat
  tokenCount : Nat
  score : ℚ
deriving DecidableEq

structure RerankItem where
  index : Except Exc Int
  score : Except Exc ℚ
deriving DecidableEq

/-- The body of a reranker's answer: what going through its `results` gives. -/
abbrev RerankResponse : Type := Except Exc (List RerankItem)

namespace RetrievalPostprocessing

open DocumentProcessing

structure Fusion where
  scores : OrderedDict UUID ℚ := .empty
  chunksById : OrderedDict UUID RAGChunk := .empty

def reciprocalRank (k rank : Nat) : ℚ := 1 / ((k + rank + 1 : Nat) : ℚ)

def Fusion.addScore (fusion : Fusion) (chunkId : UUID) (amount : ℚ) : OrderedDict UUID ℚ :=
  fusion.scores.set chunkId ((fusion.scores.get chunkId).getD 0 + amount)

def addVector (k : Nat) (fusion : Fusion) (ranked : RAGChunk × Nat) : Fusion where
  scores := fusion.addScore ranked.1.chunkId (reciprocalRank k ranked.2)
  chunksById := fusion.chunksById.set ranked.1.chunkId ranked.1

def ftsChunk (row : FtsRow) : RAGChunk where
  chunkId := row.chunkId
  documentId := row.documentId
  text := row.text
  score := 0
  sourceName := row.sourceName
  metadata :=
    { chunkIndex := row.chunkIndex
      tokenCount := row.tokenCount
      ftsScore := some (round4 row.score) }

def addFts (k : Nat) (fusion : Fusion) (ranked : FtsRow × Nat) : Fusion where
  scores := fusion.addScore ranked.1.chunkId (reciprocalRank k ranked.2)
  chunksById :=
    if ranked.1.chunkId ∈ fusion.chunksById.keys then fusion.chunksById
    else fusion.chunksById.set ranked.1.chunkId (ftsChunk ranked.1)

def fusion (k : Nat) (vectorChunks : List RAGChunk) (ftsRows : List FtsRow) : Fusion :=
  ftsRows.zipIdx.foldl (addFts k) (vectorChunks.zipIdx.foldl (addVector k) {})

def Fusion.best (fusion : Fusion) (topK : Nat) : List UUID :=
  (fusion.scores.keys.insertionSort fun a b =>
    (fusion.scores.get b).getD 0 ≤ (fusion.scores.get a).getD 0).take topK

def Fusion.chunk (fusion : Fusion) (chunkId : UUID) : Option RAGChunk :=
  (fusion.chunksById.get chunkId).map fun chunk =>
    { chunk with
      metadata :=
        { chunk.metadata with
          rrfScore := some (round4 ((fusion.scores.get chunkId).getD 0)) } }

def rrfFuse (vectorChunks : List RAGChunk) (ftsRows : List FtsRow) (topK : Nat) (k : Nat := 60) :
    List RAGChunk :=
  let fused := fusion k vectorChunks ftsRows
  (fused.best topK).filterMap fused.chunk

/-- `chunk_matches_filters`; `str` is the function of that name. -/
def chunkMatchesFilters (str : PyValue → String) (documentId : UUID) (sourceName : Option String)
    (filters : Dict) : Bool :=
  if filters.isEmpty then true
  else
    let requestedDocumentId := filters.get "document_id"
    if requestedDocumentId.truthy && str (.uuid documentId) != str requestedDocumentId then false
    else
      let requestedSourceName := filters.get "source_name"
      !requestedSourceName.truthy || PyValue.ofOption sourceName == requestedSourceName

structure Reranked where
  chunks : List RAGChunk
  taken : List Nat := []

def rescored (chunk : RAGChunk) (score : ℚ) : RAGChunk :=
  { chunk with
    score := score
    metadata := { chunk.metadata with rerankScore := some score } }

/-- One turn of the loop over the `results`. -/
def takeItem (state : Reranked) (item : RerankItem) : Except Exc Reranked := do
  let index ← item.index
  if 0 ≤ index ∧ index < state.chunks.length then do
    let score ← item.score
    pure
      { chunks := state.chunks.modify index.toNat fun chunk => rescored chunk (round4 score)
        taken := state.taken ++ [index.toNat] }
  else pure state

/-- What `_rerank_chunks` makes of an answer. -/
def applyRerank (chunks : List RAGChunk) (response : RerankResponse) :
    Except Exc (List RAGChunk) := do
  let items ← response
  let state ← items.foldlM takeItem { chunks := chunks }
  pure
    (if state.taken.isEmpty then chunks
      else state.taken.filterMap fun index => state.chunks[index]?)

def rankShare (k : Nat) (ranking : List UUID) (id : UUID) : ℚ :=
  if id ∈ ranking then reciprocalRank k (ranking.idxOf id) else 0

def fusedScore (k : Nat) (vectorIds ftsIds : List UUID) (id : UUID) : ℚ :=
  rankShare k vectorIds id + rankShare k ftsIds id

def candidateIds (vectorIds ftsIds : List UUID) : List UUID :=
  vectorIds ++ ftsIds.filter (· ∉ vectorIds)

def RankedAtLeast (ranking : List UUID) (a b : UUID) : Prop :=
  b ∈ ranking → a ∈ ranking ∧ ranking.idxOf a ≤ ranking.idxOf b

section

variable {k : Nat} {ids vectorIds ftsIds : List UUID} {scores : OrderedDict UUID ℚ}
  {vectorChunks : List RAGChunk} {ftsRows : List FtsRow}

theorem mem_candidateIds {id : UUID} :
    id ∈ candidateIds vectorIds ftsIds ↔ id ∈ vectorIds ∨ id ∈ ftsIds := by
  by_cases first : id ∈ vectorIds <;> simp [candidateIds, first]

def addRank (k : Nat) (scores : OrderedDict UUID ℚ) (ranked : UUID × Nat) : OrderedDict UUID ℚ :=
  scores.set ranked.1 ((scores.get ranked.1).getD 0 + reciprocalRank k ranked.2)

theorem get_addRanks (once : ids.Nodup) (first : Nat) (id : UUID) :
    (((ids.zipIdx first).foldl (addRank k) scores).get id).getD 0 =
      (scores.get id).getD 0 +
        if id ∈ ids then reciprocalRank k (first + ids.idxOf id) else 0 := by
  induction ids generalizing first scores with
  | nil => simp
  | cons c rest ih =>
    obtain ⟨new, once⟩ := List.nodup_cons.mp once
    rw [List.zipIdx_cons, List.foldl_cons, ih once, addRank, OrderedDict.get_set]
    by_cases same : id = c
    · subst same
      simp [new]
    · have next : first + 1 + rest.idxOf id = first + (c :: rest).idxOf id := by
        rw [List.idxOf_cons_ne _ (Ne.symm same)]
        omega
      simp [same, next]

theorem keys_addRanks (once : ids.Nodup) (first : Nat) :
    ((ids.zipIdx first).foldl (addRank k) scores).keys =
      scores.keys ++ ids.filter (· ∉ scores.keys) := by
  induction ids generalizing first scores with
  | nil => simp
  | cons c rest ih =>
    obtain ⟨new, once⟩ := List.nodup_cons.mp once
    rw [List.zipIdx_cons, List.foldl_cons, ih once, addRank, OrderedDict.keys_set]
    by_cases known : c ∈ scores.keys
    · simp [known]
    · have others : rest.filter (fun id => id ∉ scores.keys ++ [c]) =
          rest.filter fun id => id ∉ scores.keys := by
        refine List.filter_congr fun id mem => ?_
        have other : id ≠ c := fun same => new (same ▸ mem)
        simp [other]
      rw [if_neg known, others, List.filter_cons_of_pos (by simpa using known),
        List.append_assoc, List.singleton_append]

theorem scores_foldl {α : Type} {add : Fusion → α → Fusion} (ranked : α → UUID × Nat)
    (adds : ∀ fused item, addRank k fused.scores (ranked item) = (add fused item).scores)
    (items : List α) (fused : Fusion) : (items.foldl add fused).scores =
      (items.map ranked).foldl (addRank k) fused.scores := by
  rw [List.foldl_map]
  exact (List.foldl_hom _ adds).symm

theorem scores_fusion (k : Nat) (vectorChunks : List RAGChunk) (ftsRows : List FtsRow) :
    (fusion k vectorChunks ftsRows).scores =
      (ftsRows.map FtsRow.chunkId).zipIdx.foldl (addRank k)
        ((vectorChunks.map RAGChunk.chunkId).zipIdx.foldl (addRank k) .empty) := by
  rw [List.zipIdx_map, List.zipIdx_map, fusion,
    scores_foldl (Prod.map FtsRow.chunkId id) fun _ _ => rfl,
    scores_foldl (Prod.map RAGChunk.chunkId id) fun _ _ => rfl]

def Fusion.Owned (fused : Fusion) : Prop :=
  ∀ id, id ∈ fused.scores.keys ∨ id ∈ fused.chunksById.keys →
    (fused.chunksById.get id).map RAGChunk.chunkId = some id

theorem owned_fusion (k : Nat) (vectorChunks : List RAGChunk) (ftsRows : List FtsRow) :
    (fusion k vectorChunks ftsRows).Owned := by
  refine List.foldlRecOn _ _ (List.foldlRecOn _ _ (fun id mem => ?_) ?_) ?_
  · cases mem <;> contradiction
  · intro fused owned ranked _ id mem
    rw [addVector, Fusion.addScore, OrderedDict.mem_keys_set, OrderedDict.mem_keys_set] at mem
    rw [addVector, OrderedDict.get_set]
    split
    · rename_i same
      rw [same]
      rfl
    · rename_i other
      exact owned id (mem.imp (Or.resolve_left · other) (Or.resolve_left · other))
  · intro fused owned ranked _ id mem
    simp only [addFts, Fusion.addScore, OrderedDict.mem_keys_set] at mem ⊢
    split at mem
    · rename_i known
      rw [if_pos known]
      rcases mem with (same | scored) | kept
      · exact owned id (.inr (same ▸ known))
      · exact owned id (.inl scored)
      · exact owned id (.inr kept)
    · rename_i unknown
      rw [if_neg unknown, OrderedDict.get_set]
      rw [OrderedDict.mem_keys_set] at mem
      split
      · rename_i same
        rw [same]
        rfl
      · rename_i other
        exact owned id (mem.imp (Or.resolve_left · other) (Or.resolve_left · other))

theorem ids_rrfFuse (topK : Nat) :
    (rrfFuse vectorChunks ftsRows topK k).map RAGChunk.chunkId =
      (fusion k vectorChunks ftsRows).best topK := by
  rw [rrfFuse, List.map_filterMap]
  refine (List.filterMap_congr fun id mem => ?_).trans List.filterMap_some
  have listed := (List.mem_insertionSort _).mp (List.mem_of_mem_take mem)
  have own := owned_fusion k vectorChunks ftsRows id (.inl listed)
  obtain ⟨chunk, found, same⟩ := Option.map_eq_some_iff.mp own
  rw [Fusion.chunk, found]
  exact congrArg some same

theorem rankShare_lt {ranking : List UUID} {a b : UUID} (above : RankedAtLeast ranking a b)
    (other : a ≠ b) (ranked : b ∈ ranking) : rankShare k ranking b < rankShare k ranking a := by
  obtain ⟨listed, le⟩ := above ranked
  have apart : ranking.idxOf a ≠ ranking.idxOf b := fun same =>
    other ((List.idxOf_inj listed).mp same)
  rw [rankShare, rankShare, if_pos listed, if_pos ranked, reciprocalRank, reciprocalRank]
  refine one_div_lt_one_div_of_lt (by exact_mod_cast Nat.succ_pos _) ?_
  exact_mod_cast by omega

theorem rankShare_mono {ranking : List UUID} {a b : UUID} (above : RankedAtLeast ranking a b)
    (other : a ≠ b) : rankShare k ranking b ≤ rankShare k ranking a := by
  by_cases ranked : b ∈ ranking
  · exact (rankShare_lt above other ranked).le
  · rw [rankShare, if_neg ranked, rankShare, reciprocalRank]
    split
    · positivity
    · exact le_rfl

/-- The ids are the first in the order by the exact scores, in which ties stay as the vector
ranking and then the text ranking have them. What is ranked at least as high stands before. -/
structure FusesRanks (k topK : Nat) (vectorIds ftsIds ids : List UUID) : Prop where
  best : ∃ order, SortsStably (fun a b => fusedScore k vectorIds ftsIds b ≤
    fusedScore k vectorIds ftsIds a) (candidateIds vectorIds ftsIds) order ∧ order.Nodup ∧
      ids = order.take topK
  above : ∀ a b, a ≠ b → RankedAtLeast vectorIds a b → RankedAtLeast ftsIds a b →
    ∀ before after, ids = before ++ b :: after → a ∈ before

theorem rrfFuse_ranks (vectorChunks : List RAGChunk) (ftsRows : List FtsRow) (k topK : Nat)
    (vectorOnce : (vectorChunks.map RAGChunk.chunkId).Nodup)
    (ftsOnce : (ftsRows.map FtsRow.chunkId).Nodup) :
    FusesRanks k topK (vectorChunks.map RAGChunk.chunkId) (ftsRows.map FtsRow.chunkId)
      ((rrfFuse vectorChunks ftsRows topK k).map RAGChunk.chunkId) := by
  let vectorIds := vectorChunks.map RAGChunk.chunkId
  let ftsIds := ftsRows.map FtsRow.chunkId
  let below (a b : UUID) : Prop :=
    fusedScore k vectorIds ftsIds b ≤ fusedScore k vectorIds ftsIds a
  have score (id : UUID) : ((fusion k vectorChunks ftsRows).scores.get id).getD 0 =
      fusedScore k vectorIds ftsIds id := by
    rw [scores_fusion, get_addRanks ftsOnce, get_addRanks vectorOnce]
    simp only [OrderedDict.get_empty, Option.getD_none, zero_add, fusedScore, rankShare]
    rfl
  have keys : (fusion k vectorChunks ftsRows).scores.keys = candidateIds vectorIds ftsIds := by
    rw [scores_fusion, keys_addRanks ftsOnce, keys_addRanks vectorOnce]
    simp [OrderedDict.keys, OrderedDict.empty, candidateIds, vectorIds, ftsIds]
  have total : Std.Total below := ⟨fun a b => le_total _ _⟩
  have trans : IsTrans UUID below := ⟨fun a b c first second => second.trans first⟩
  let order := (candidateIds vectorIds ftsIds).insertionSort below
  have taken : (rrfFuse vectorChunks ftsRows topK k).map RAGChunk.chunkId =
      order.take topK := by
    rw [ids_rrfFuse, Fusion.best, keys]
    simp only [score]
    rfl
  have sorted : SortsStably below (candidateIds vectorIds ftsIds) order :=
    SortsStably.insertionSort _
  have once : order.Nodup := by
    refine sorted.perm.nodup_iff.mpr (vectorOnce.append (ftsOnce.filter _) ?_)
    intro id inVector inFts
    exact of_decide_eq_true (List.mem_filter.mp inFts).2 inVector
  refine ⟨⟨order, sorted, once, taken⟩, ?_⟩
  intro a b other inVector inFts before after eq
  have whole : order = before ++ b :: (after ++ order.drop topK) := by
    conv_lhs => rw [← List.take_append_drop topK order, ← taken, eq]
    rw [List.append_assoc, List.cons_append]
  have listed : b ∈ order := by
    rw [whole]
    exact List.mem_append_right _ List.mem_cons_self
  have ranked := mem_candidateIds.mp (sorted.perm.mem_iff.mp listed)
  have above : fusedScore k vectorIds ftsIds b < fusedScore k vectorIds ftsIds a := by
    rw [fusedScore, fusedScore]
    cases ranked with
    | inl first =>
      have more := rankShare_lt (k := k) inVector other first
      exact add_lt_add_of_lt_of_le more (rankShare_mono inFts other)
    | inr second =>
      have more := rankShare_lt (k := k) inFts other second
      exact add_lt_add_of_le_of_lt (rankShare_mono inVector other) more
  have mem : a ∈ order := sorted.perm.mem_iff.mpr (mem_candidateIds.mpr
    (ranked.imp (fun first => (inVector first).1) fun second => (inFts second).1))
  have ordered : order.Pairwise below := sorted.ordered
  rw [whole, List.pairwise_append, List.pairwise_cons] at ordered
  rw [whole] at mem
  rcases List.mem_append.mp mem with before | here
  · exact before
  · rcases List.mem_cons.mp here with same | later
    · exact absurd same other
    · exact absurd (ordered.2.1.1 a later) (not_le.mpr above)

def plainRow (chunkId : UUID) : FtsRow := ⟨chunkId, 1, "", none, 0, 0, 0⟩

def plainChunk (chunkId : UUID) : RAGChunk := ftsChunk (plainRow chunkId)

theorem rrfFuse_ranks_two : FusesRanks 60 2 [1, 2] [2, 3]
    ((rrfFuse [plainChunk 1, plainChunk 2] [plainRow 2, plainRow 3] 2 60).map
      RAGChunk.chunkId) :=
  rrfFuse_ranks [plainChunk 1, plainChunk 2] [plainRow 2, plainRow 3] 60 2 (by decide) (by decide)

end

end RetrievalPostprocessing
end AgentHive
