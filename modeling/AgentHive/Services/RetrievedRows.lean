import AgentHive.Services.ChannelOutbound
import AgentHive.Services.KnowledgeWrites

/-!
The rows that retrieved chunks are made of. Fusion, reranking and truncation give
a chunk new scores and a new place, and leave the rest as its row has it.
-/

namespace AgentHive

open Process (Action Keeping)
open Process.Fallible (bind_ok foldlM_keeps)

structure RAGChunk.MadeOf (chunk : RAGChunk) (row : UUID × KnowledgeChunk) : Prop where
  chunkId : chunk.chunkId = row.1
  documentId : chunk.documentId = row.2.documentId
  text : chunk.text = row.2.text
  sourceName : chunk.sourceName = row.2.sourceName

def MadeOfRows (rows : UUID × KnowledgeChunk → Prop) (chunks : List RAGChunk) : Prop :=
  ∀ chunk ∈ chunks, ∃ row, rows row ∧ chunk.MadeOf row

variable {rows : UUID × KnowledgeChunk → Prop} {chunks : List RAGChunk}

theorem MadeOfRows.take (made : MadeOfRows rows chunks) (count : Nat) :
    MadeOfRows rows (chunks.take count) :=
  fun chunk mem => made chunk (List.mem_of_mem_take mem)

namespace RetrievalPostprocessing

open DocumentProcessing

def Fusion.Holds (P : RAGChunk → Prop) (fused : Fusion) : Prop :=
  ∀ id chunk, fused.chunksById.get id = some chunk → P chunk

section Fusion

variable {P : RAGChunk → Prop} {fused : Fusion} {k : Nat}

theorem holds_addVector {ranked : RAGChunk × Nat} (held : fused.Holds P) (own : P ranked.1) :
    (addVector k fused ranked).Holds P := by
  intro id chunk found
  rw [addVector, OrderedDict.get_set] at found
  split at found
  · cases found
    exact own
  · exact held id chunk found

theorem holds_addFts {ranked : FtsRow × Nat} (held : fused.Holds P) (own : P (ftsChunk ranked.1)) :
    (addFts k fused ranked).Holds P := by
  intro id chunk found
  simp only [addFts] at found
  split at found
  · exact held id chunk found
  · rw [OrderedDict.get_set] at found
    split at found
    · cases found
      exact own
    · exact held id chunk found

variable {vectorChunks : List RAGChunk}

theorem holds_fusion {ftsRows : List FtsRow} (ofVector : ∀ chunk ∈ vectorChunks, P chunk)
    (ofFts : ∀ row ∈ ftsRows, P (ftsChunk row)) : (fusion k vectorChunks ftsRows).Holds P := by
  refine List.foldlRecOn _ _ (List.foldlRecOn _ _ ?_ ?_) ?_
  · intro id chunk found
    cases found
  · intro fused held ranked mem
    exact holds_addVector held (ofVector _ (List.fst_mem_of_mem_zipIdx mem))
  · intro fused held ranked mem
    exact holds_addFts held (ofFts _ (List.fst_mem_of_mem_zipIdx mem))

theorem rrfFuse_forall {ftsRows : List FtsRow} {topK : Nat}
    (ofVector : ∀ chunk ∈ vectorChunks, P chunk) (ofFts : ∀ row ∈ ftsRows, P (ftsChunk row))
    (restamp : ∀ chunk metadata, P chunk → P { chunk with metadata := metadata }) :
    ∀ chunk ∈ rrfFuse vectorChunks ftsRows topK k, P chunk := by
  intro chunk mem
  obtain ⟨id, _, found⟩ := List.mem_filterMap.mp mem
  obtain ⟨kept, stored, rfl⟩ := Option.map_eq_some_iff.mp found
  exact restamp _ _ (holds_fusion ofVector ofFts id kept stored)

end Fusion

section Rerank

variable {P : RAGChunk → Prop}

theorem takeItem_ok {state after : Reranked} {item : RerankItem} :
    takeItem state item = .ok after ↔ ∃ index, item.index = .ok index ∧
      if 0 ≤ index ∧ index < state.chunks.length then ∃ score, item.score = .ok score ∧
        after =
          { chunks := state.chunks.modify index.toNat fun chunk => rescored chunk (round4 score)
            taken := state.taken ++ [index.toNat] }
      else after = state := by
  rw [takeItem, bind_ok]
  refine exists_congr fun index => and_congr_right fun _ => ?_
  split
  · rw [bind_ok]
    refine exists_congr fun score => and_congr_right fun _ => ?_
    exact ⟨fun eq => (Except.ok.inj eq).symm, fun eq => congrArg Except.ok eq.symm⟩
  · exact ⟨fun eq => (Except.ok.inj eq).symm, fun eq => congrArg Except.ok eq.symm⟩

theorem takeItem_forall {state after : Reranked} {item : RerankItem}
    (rescore : ∀ chunk score, P chunk → P (rescored chunk score))
    (took : takeItem state item = .ok after) (held : ∀ chunk ∈ state.chunks, P chunk) :
    ∀ chunk ∈ after.chunks, P chunk := by
  obtain ⟨index, _, taken⟩ := takeItem_ok.mp took
  split at taken
  · obtain ⟨score, _, rfl⟩ := taken
    intro chunk mem
    obtain ⟨place, inside, rfl⟩ := List.mem_iff_getElem.mp mem
    rw [List.getElem_modify]
    split
    · exact rescore _ _ (held _ (List.getElem_mem _))
    · exact held _ (List.getElem_mem _)
  · rw [taken]
    exact held

theorem applyRerank_forall {chunks result : List RAGChunk} {response : RerankResponse}
    (rescore : ∀ chunk score, P chunk → P (rescored chunk score))
    (applied : applyRerank chunks response = .ok result) (held : ∀ chunk ∈ chunks, P chunk) :
    ∀ chunk ∈ result, P chunk := by
  obtain ⟨items, _, folded⟩ := bind_ok.mp applied
  obtain ⟨state, went, eq⟩ := bind_ok.mp folded
  have kept : ∀ chunk ∈ state.chunks, P chunk :=
    foldlM_keeps (P := fun state => ∀ chunk ∈ state.chunks, P chunk) went
      (fun _ _ _ _ took => takeItem_forall rescore took) held
  cases eq
  intro chunk mem
  split at mem
  · exact held chunk mem
  · obtain ⟨index, _, found⟩ := List.mem_filterMap.mp mem
    exact kept chunk (List.mem_of_getElem? found)

open Rag (Json)
open ChannelOutbound (bodyFields typeName)

/-- `int(value)` and `float(value)` of what is decoded from JSON. -/
structure NumberReaders where
  int : Json → Except Exc Int
  float : Json → Except Exc ℚ

inductive RerankAnswer
  | failed
  | received (status : Nat) (body : Option Json)

/-- What `response.json()` gives within the handler that fails open. -/
def RerankAnswer.data : RerankAnswer → Option Json
  | failed => none
  | received status body => if 200 ≤ status ∧ status < 300 then body else none

variable (readers : NumberReaders)

/-- What the loop reads of an item: `item.get("index", -1)` and `item["score"]`. -/
def rerankItem (item : Json) : RerankItem where
  index := do
    let fields ← bodyFields item
    readers.int ((fields.lookup "index").getD (.num (-1)))
  score := do
    let fields ← bodyFields item
    match fields.lookup "score" with
    | some score => readers.float score
    | none => .error (.other "KeyError" "'score'")

/-- What the loop goes through: the items of a list, the characters of a text, the keys
of a dictionary. -/
def rerankResponse (data : Json) : RerankResponse := do
  let fields ← bodyFields data
  match (fields.lookup "results").getD (.arr []) with
  | .arr items => pure (items.map (rerankItem readers))
  | .str text => pure (text.toList.map fun c => rerankItem readers (.str (.singleton c)))
  | .obj entries => pure (entries.map fun e => rerankItem readers (.str e.1))
  | value => .error (.other "TypeError" ("'" ++ typeName value ++ "' object is not iterable"))

def rerank (chunks : List RAGChunk) (answer : RerankAnswer) : Except Exc (List RAGChunk) :=
  match answer.data with
  | none => .ok chunks
  | some data => applyRerank chunks (rerankResponse readers data)

variable {readers} {count : Nat} {item : RerankItem} {items : List RerankItem}
  {state after : Reranked} {chunks : List RAGChunk} {response : RerankResponse}

def namedPlace (count : Nat) (item : RerankItem) : Option Nat :=
  match item.index with
  | .ok index => if 0 ≤ index ∧ index < count then some index.toNat else none
  | .error _ => none

def Readable (count : Nat) (item : RerankItem) : Prop :=
  ∃ index, item.index = .ok index ∧
    (0 ≤ index ∧ index < count → ∃ score, item.score = .ok score)

def ReadsOnce (count : Nat) (response : RerankResponse) : Prop :=
  ∃ items, response = .ok items ∧ (∀ item ∈ items, Readable count item) ∧
    (items.filterMap (namedPlace count)).Nodup

def NamesNone (count : Nat) (response : RerankResponse) : Prop :=
  ∀ items, response = .ok items → items.filterMap (namedPlace count) = []

def KeepsAnswers (readers : NumberReaders) (chunks : List RAGChunk) (answer : RerankAnswer) :
    Prop :=
  ∃ result, rerank readers chunks answer = .ok result ∧ (result.map RAGChunk.chunkId).Nodup ∧
    (∀ chunk ∈ result, chunk.chunkId ∈ chunks.map RAGChunk.chunkId) ∧
    ((∀ data, answer.data = some data → NamesNone chunks.length (rerankResponse readers data)) →
      result.map RAGChunk.chunkId = chunks.map RAGChunk.chunkId)

theorem chunkIds_rescored (chunks : List RAGChunk) (place : Nat) (score : ℚ) :
    (chunks.modify place fun chunk => rescored chunk score).map RAGChunk.chunkId =
      chunks.map RAGChunk.chunkId := by
  refine List.ext_getElem? fun index => ?_
  rw [List.getElem?_map, List.getElem?_map, List.getElem?_modify]
  cases chunks[index]? with
  | none => rfl
  | some chunk => by_cases here : place = index <;> simp [here, rescored]

theorem takeItem_names (took : takeItem state item = .ok after) :
    Readable state.chunks.length item ∧
      after.taken = state.taken ++ (namedPlace state.chunks.length item).toList ∧
      after.chunks.map RAGChunk.chunkId = state.chunks.map RAGChunk.chunkId := by
  obtain ⟨index, read, taken⟩ := takeItem_ok.mp took
  split at taken
  · rename_i inside
    obtain ⟨score, scored, rfl⟩ := taken
    refine ⟨⟨index, read, fun _ => ⟨score, scored⟩⟩, ?_, chunkIds_rescored _ _ _⟩
    simp [namedPlace, read, inside]
  · rename_i outside
    rw [taken]
    refine ⟨⟨index, read, fun inside => absurd inside outside⟩, ?_, rfl⟩
    simp [namedPlace, read, outside]

theorem takeItem_of_readable (readable : Readable state.chunks.length item) :
    ∃ after, takeItem state item = .ok after := by
  obtain ⟨index, read, scored⟩ := readable
  by_cases inside : 0 ≤ index ∧ index < state.chunks.length
  · obtain ⟨score, eq⟩ := scored inside
    exact ⟨_, takeItem_ok.mpr ⟨index, read, by rw [if_pos inside]; exact ⟨score, eq, rfl⟩⟩⟩
  · exact ⟨state, takeItem_ok.mpr ⟨index, read, by rw [if_neg inside]⟩⟩

theorem takeItems_names (went : items.foldlM takeItem state = .ok after) :
    (∀ item ∈ items, Readable state.chunks.length item) ∧
      after.taken = state.taken ++ items.filterMap (namedPlace state.chunks.length) ∧
      after.chunks.map RAGChunk.chunkId = state.chunks.map RAGChunk.chunkId := by
  induction items generalizing state with
  | nil =>
    cases went
    simp
  | cons item rest ih =>
    obtain ⟨next, first, later⟩ := bind_ok.mp went
    obtain ⟨readable, taken, ids⟩ := takeItem_names first
    obtain ⟨readables, takens, others⟩ := ih later
    have same : next.chunks.length = state.chunks.length := by
      simpa using congrArg List.length ids
    rw [same] at readables takens
    refine ⟨List.forall_mem_cons.mpr ⟨readable, readables⟩, ?_, others.trans ids⟩
    rw [takens, taken, List.append_assoc, List.filterMap_cons]
    cases namedPlace state.chunks.length item <;> rfl

theorem takeItems_of_readable (readable : ∀ item ∈ items, Readable state.chunks.length item) :
    ∃ after, items.foldlM takeItem state = .ok after := by
  induction items generalizing state with
  | nil => exact ⟨state, rfl⟩
  | cons item rest ih =>
    obtain ⟨first, later⟩ := List.forall_mem_cons.mp readable
    obtain ⟨next, took⟩ := takeItem_of_readable first
    have same : next.chunks.length = state.chunks.length := by
      simpa using congrArg List.length (takeItem_names took).2.2
    obtain ⟨after, went⟩ := ih (same ▸ later)
    exact ⟨after, bind_ok.mpr ⟨next, took, went⟩⟩

theorem nodup_getElem? {α : Type} {list : List α} (once : list.Nodup) {places : List Nat}
    (inside : ∀ place ∈ places, place < list.length) :
    (places.filterMap fun place => list[place]?).Nodup ↔ places.Nodup := by
  induction places with
  | nil => simp
  | cons place rest ih =>
    obtain ⟨first, later⟩ := List.forall_mem_cons.mp inside
    rw [List.filterMap_cons_some (List.getElem?_eq_getElem first), List.nodup_cons,
      List.nodup_cons, ih later]
    refine and_congr_left fun _ => not_congr ?_
    rw [List.mem_filterMap]
    constructor
    · intro ⟨other, mem, found⟩
      have same := (List.getElem?_inj (later other mem) once).mp
        (found.trans (List.getElem?_eq_getElem first).symm)
      exact same ▸ mem
    · exact fun mem => ⟨place, mem, List.getElem?_eq_getElem first⟩

theorem namedPlace_lt {place : Nat} (named : place ∈ items.filterMap (namedPlace count)) :
    place < count := by
  obtain ⟨item, _, found⟩ := List.mem_filterMap.mp named
  rw [namedPlace] at found
  split at found
  · split at found
    · cases found
      omega
    · cases found
  · cases found

theorem applyRerank_keeps_iff (distinct : (chunks.map RAGChunk.chunkId).Nodup) :
    (∃ result, applyRerank chunks response = .ok result ∧
      (result.map RAGChunk.chunkId).Nodup ∧
      (∀ chunk ∈ result, chunk.chunkId ∈ chunks.map RAGChunk.chunkId) ∧
      (NamesNone chunks.length response →
        result.map RAGChunk.chunkId = chunks.map RAGChunk.chunkId)) ↔
      ReadsOnce chunks.length response := by
  have ids {items : List RerankItem} {after : Reranked}
      (went : items.foldlM takeItem { chunks := chunks } = .ok after) :
      (after.taken.filterMap fun place => after.chunks[place]?).map RAGChunk.chunkId =
        (items.filterMap (namedPlace chunks.length)).filterMap
          fun place => (chunks.map RAGChunk.chunkId)[place]? := by
    obtain ⟨_, taken, same⟩ := takeItems_names went
    rw [List.map_filterMap, taken, List.nil_append, ← same]
    refine List.filterMap_congr fun place _ => ?_
    rw [List.getElem?_map]
  have inside {items : List RerankItem} (place : Nat)
      (named : place ∈ items.filterMap (namedPlace chunks.length)) :
      place < (chunks.map RAGChunk.chunkId).length := by
    rw [List.length_map]
    exact namedPlace_lt named
  constructor
  · intro ⟨result, applied, once, _⟩
    obtain ⟨items, read, folded⟩ := bind_ok.mp applied
    obtain ⟨after, went, eq⟩ := bind_ok.mp folded
    obtain ⟨readable, taken, _⟩ := takeItems_names went
    refine ⟨items, read, readable, ?_⟩
    cases eq
    rw [List.nil_append] at taken
    split at once
    · rename_i none
      rw [← taken, List.isEmpty_iff.mp none]
      exact List.nodup_nil
    · rw [ids went] at once
      exact (nodup_getElem? distinct inside).mp once
  · intro ⟨items, read, readable, once⟩
    obtain ⟨after, went⟩ : ∃ after, items.foldlM takeItem { chunks := chunks } = .ok after :=
      takeItems_of_readable readable
    obtain ⟨_, taken, _⟩ := takeItems_names went
    rw [List.nil_append] at taken
    refine ⟨_, bind_ok.mpr ⟨items, read,
      bind_ok.mpr ⟨after, went, rfl⟩⟩, ?_⟩
    by_cases none : after.taken = []
    · simp only [none, List.isEmpty_nil, if_true]
      exact ⟨distinct, fun chunk mem => List.mem_map_of_mem mem, fun _ => trivial⟩
    · rw [if_neg (by simpa using none)]
      refine ⟨?_, ?_, ?_⟩
      · rw [ids went]
        exact (nodup_getElem? distinct inside).mpr once
      · intro chunk mem
        have listed := List.mem_map_of_mem (f := RAGChunk.chunkId) mem
        rw [ids went] at listed
        obtain ⟨place, _, found⟩ := List.mem_filterMap.mp listed
        exact List.mem_of_getElem? found
      · exact fun names => absurd (taken.trans (names items read)) none

/-- Reranking loses no answer exactly where every item of the response can be read and none
names the chunk of another. -/
theorem rerank_keepsAnswers_iff (readers : NumberReaders) (answer : RerankAnswer)
    (distinct : (chunks.map RAGChunk.chunkId).Nodup) :
    KeepsAnswers readers chunks answer ↔
      ∀ data, answer.data = some data →
        ReadsOnce chunks.length (rerankResponse readers data) := by
  rw [KeepsAnswers, rerank]
  cases answer.data with
  | none =>
    refine iff_of_true ⟨chunks, rfl, distinct, ?_, fun _ => rfl⟩ fun _ eq => nomatch eq
    exact fun chunk mem => List.mem_map_of_mem mem
  | some data =>
    simp only [Option.some.injEq, forall_eq']
    exact applyRerank_keeps_iff distinct

def plainReaders : NumberReaders where
  int
    | .num q => .ok q.num
    | _ => .error (.other "TypeError" "")
  float
    | .num q => .ok q
    | _ => .error (.other "TypeError" "")

theorem rerank_keepsAnswers_plain :
    KeepsAnswers plainReaders [plainChunk 1, plainChunk 2] .failed ↔ ∀ data,
      RerankAnswer.failed.data = some data → ReadsOnce 2 (rerankResponse plainReaders data) :=
  rerank_keepsAnswers_iff plainReaders .failed (by decide)

theorem rerank_raises_of_list :
    ¬ KeepsAnswers plainReaders [plainChunk 1, plainChunk 2]
      (.received 200 (some (.arr []))) := by
  intro ⟨result, returned, _⟩
  cases returned

end Rerank

end RetrievalPostprocessing

namespace KnowledgeService

open KnowledgeSession RetrievalPostprocessing

variable (settings : RetrievalSettings) (request : RetrieveRequest)

theorem madeOf_ragChunk (row : UUID × KnowledgeChunk) (score : ℚ)
    (vectorScore lexicalScore : Option ℚ) :
    (ragChunk row score vectorScore lexicalScore).MadeOf row := ⟨rfl, rfl, rfl, rfl⟩

theorem madeOf_ftsChunk (row : (UUID × KnowledgeChunk) × ℚ) :
    (ftsChunk (ftsRow row)).MadeOf row.1 := ⟨rfl, rfl, rfl, rfl⟩

variable {found : List ((UUID × KnowledgeChunk) × ℚ)}

theorem vectorCandidates_made (ofRows : ∀ row ∈ found, rows row.1) :
    MadeOfRows rows (vectorCandidates settings request found) := by
  intro chunk mem
  obtain ⟨row, inFound, candidate⟩ := List.mem_filterMap.mp ((List.mem_insertionSort _).mp mem)
  refine ⟨row.1, ofRows row inFound, ?_⟩
  simp only [vectorCandidate] at candidate
  split at candidate
  · cases candidate
  · cases candidate
    exact madeOf_ragChunk _ _ _ _

theorem fuseFts_made {candidates : List RAGChunk} (made : MadeOfRows rows candidates)
    (ofRows : ∀ row ∈ found, rows row.1) :
    MadeOfRows rows (fuseFts settings request candidates (found.map ftsRow)) := by
  refine rrfFuse_forall made (fun row mem => ?_) fun chunk metadata own => ?_
  · obtain ⟨source, inFound, rfl⟩ := List.mem_map.mp (List.mem_of_mem_filter mem)
    exact ⟨source.1, ofRows source inFound, madeOf_ftsChunk source⟩
  · obtain ⟨row, ofRow, of⟩ := own
    exact ⟨row, ofRow, ⟨of.chunkId, of.documentId, of.text, of.sourceName⟩⟩

theorem applyRerank_made {result : List RAGChunk} {response : RerankResponse}
    (applied : applyRerank chunks response = .ok result) (made : MadeOfRows rows chunks) :
    MadeOfRows rows result := by
  refine applyRerank_forall (fun chunk score own => ?_) applied made
  obtain ⟨row, ofRow, of⟩ := own
  exact ⟨row, ofRow, ⟨of.chunkId, of.documentId, of.text, of.sourceName⟩⟩

theorem textChunks_made {found : List (UUID × KnowledgeChunk)} (ofRows : ∀ row ∈ found, rows row) :
    MadeOfRows rows (textChunks settings request found) := by
  intro chunk mem
  obtain ⟨scored, inScored, rfl⟩ := List.mem_map.mp mem
  have candidate := (List.mem_insertionSort _).mp (List.mem_of_mem_take inScored)
  obtain ⟨row, inFound, scores⟩ := List.mem_filterMap.mp candidate
  simp only [textCandidate] at scores
  split at scores
  · cases scores
  · split at scores
    · cases scores
      exact ⟨row, ofRows row inFound, madeOf_ragChunk _ _ _ _⟩
    · cases scores

section Tables

variable {database : KnowledgeDatabase} {tables after : KnowledgeTables}
  {tenantId knowledgeBaseId : UUID} {row : (UUID × KnowledgeChunk) × ℚ}

theorem of_mem_vectorRows {vector : List ℚ} {limit : Nat}
    (mem : row ∈ tables.vectorRows database tenantId knowledgeBaseId vector limit) :
    row.1 ∈ tables.chunksOf tenantId knowledgeBaseId := by
  obtain ⟨measured, inSorted, rfl⟩ := List.mem_map.mp mem
  have inMeasured := (List.mem_insertionSort _).mp (List.mem_of_mem_take inSorted)
  obtain ⟨e, inBase, found⟩ := List.mem_filterMap.mp inMeasured
  obtain ⟨embedding, _, rfl⟩ := Option.map_eq_some_iff.mp found
  exact inBase

theorem of_mem_ftsRows {ftsQuery : String} {limit : Nat}
    (mem : row ∈ tables.ftsRows database tenantId knowledgeBaseId ftsQuery limit) :
    row.1 ∈ tables.chunksOf tenantId knowledgeBaseId := by
  have inRanked := (List.mem_insertionSort _).mp (List.mem_of_mem_take mem)
  obtain ⟨e, inBase, found⟩ := List.mem_filterMap.mp inRanked
  obtain ⟨text, _, rfl⟩ := Option.map_eq_some_iff.mp found
  exact inBase

theorem of_mem_chunkRows {limit : Nat} {row : UUID × KnowledgeChunk}
    (mem : row ∈ tables.chunkRows tenantId knowledgeBaseId limit) :
    row ∈ tables.chunksOf tenantId knowledgeBaseId :=
  (List.mem_insertionSort _).mp (List.mem_of_mem_take mem)

end Tables

def FindsOf (rows : UUID → UUID → UUID × KnowledgeChunk → Prop) : KnowledgeEvent → Prop
  | ⟨.ask (.vectorRows tenantId knowledgeBaseId _ _), .ok found⟩ =>
    ∀ row ∈ found, rows tenantId knowledgeBaseId row.1
  | ⟨.ask (.ftsRows tenantId knowledgeBaseId _ _), .ok found⟩ =>
    ∀ row ∈ found, rows tenantId knowledgeBaseId row.1
  | ⟨.ask (.chunkRows tenantId knowledgeBaseId _), .ok found⟩ =>
    ∀ row ∈ found, rows tenantId knowledgeBaseId row
  | _ => True

theorem findsOf_answered {database : KnowledgeDatabase} {tables after : KnowledgeTables}
    {allowed : UUID → UUID → UUID × KnowledgeChunk → Prop} {event : KnowledgeEvent}
    (rows : ∀ tenantId knowledgeBaseId, ∀ row ∈ tables.chunksOf tenantId knowledgeBaseId,
      allowed tenantId knowledgeBaseId row)
    (answered : tables.Answers database event.1 event.2 after) : FindsOf allowed event := by
  unfold FindsOf
  split
  · intro row mem
    rw [answered.2 _ rfl] at mem
    exact rows _ _ _ (of_mem_vectorRows mem)
  · intro row mem
    rw [answered.2 _ rfl] at mem
    exact rows _ _ _ (of_mem_ftsRows mem)
  · intro row mem
    rw [answered.2 _ rfl] at mem
    exact rows _ _ _ (of_mem_chunkRows mem)
  · trivial

section Session

variable {T : KnowledgeEvent → Prop} {good : KnowledgeWrite → Prop}
  {allowed : UUID → UUID → UUID × KnowledgeChunk → Prop} (tells : ∀ e, T e → FindsOf allowed e)

include tells

theorem selectChunks_made {candidates : List RAGChunk}
    (made : MadeOfRows (allowed request.tenantId request.knowledgeBaseId) candidates) :
    Told T good (selectChunks settings request candidates)
      (MadeOfRows (allowed request.tenantId request.knowledgeBaseId)) := by
  rw [selectChunks]
  refine .ite (fun _ => ?_) fun _ => .pure (made.take _)
  refine .bind (Q := fun ftsRows => ∃ found : List ((UUID × KnowledgeChunk) × ℚ),
    ftsRows = found.map ftsRow ∧
      ∀ row ∈ found, allowed request.tenantId request.knowledgeBaseId row.1) ?_ ?_
  · simp only [retrieveFtsChunks]
    refine .ite (fun _ => .pure ⟨[], rfl, fun _ mem => by cases mem⟩) fun _ => ?_
    exact .bind writes_ask fun found told => .pure ⟨found, rfl, tells _ told⟩
  · intro ftsRows known
    obtain ⟨found, rfl, ofRows⟩ := known
    exact .pure (fuseFts_made settings request made ofRows)

omit tells in
theorem rerankChunks_made (made : MadeOfRows rows chunks) :
    Told T good (rerankChunks settings request chunks) (MadeOfRows rows) := by
  rw [rerankChunks]
  refine .ite (fun _ => ?_) fun _ => .pure made
  refine .bind (Q := fun _ => True) ?_ fun response _ => ?_
  · refine writes_tryExcept ?_ fun _ => .pure trivial
    exact .bind writes_service fun _ _ => .pure trivial
  · cases response with
    | none => exact .pure made
    | some response => exact .ofExcept fun result applied => applyRerank_made applied made

theorem retrievePgvectorChunks_made :
    Told T good (retrievePgvectorChunks settings request)
      (MadeOfRows (allowed request.tenantId request.knowledgeBaseId)) := by
  refine .bind (told_of_writes pgvectorChunkSchemaReady_writes) fun ready _ => ?_
  refine .bind (Q := MadeOfRows (allowed request.tenantId request.knowledgeBaseId)) ?_ ?_
  · refine .ite (fun _ => ?_) fun _ => .pure fun _ mem => by cases mem
    refine .bind writes_service fun embedding _ => .bind writes_ask ?_
    intro found told
    refine .bind (selectChunks_made settings request tells
      (vectorCandidates_made settings request (tells _ told))) fun selected made => ?_
    exact .bind (rerankChunks_made settings request made) fun _ made =>
      Keeping.pure (made.take _)
  · intro chunks made
    refine .ite (fun _ => ?_) fun _ => .pure made
    refine .bind writes_ask fun found told => .pure ?_
    exact textChunks_made settings request (tells _ told)

theorem runRetrievalTest_made {principal : Principal}
    (engine : ∀ base, T ⟨.ask (.getBase request.knowledgeBaseId), .ok (some base)⟩ →
      base.ragEngine = .pgvector) :
    Told T good (runRetrievalTest settings request principal)
      (MadeOfRows (allowed principal.tenantId request.knowledgeBaseId)) := by
  refine .bind writes_requirePermission fun _ _ => ?_
  refine .bind (Q := fun base => base.ragEngine = .pgvector) ?_ fun base ofTable => ?_
  · refine writes_tryStorage (getAccessibleBase_writes.mono fun base known => ?_) fun _ => writes_fail
    exact engine base known.1
  · rw [ofTable]
    exact writes_tryStorage (retrievePgvectorChunks_made settings _ tells) fun _ => writes_fail

end Session

end KnowledgeService
end AgentHive
