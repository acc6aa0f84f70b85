import AgentHive.Services.KnowledgeMemory

/-!
Documents in memory do not overwrite one another as long as an ingestion finds
its document where it has left it. Positions shift when a document is deleted.
-/

namespace AgentHive.KnowledgeMemory

def MemoryStore.ids (s : MemoryStore) (knowledgeBaseId : UUID) : List UUID :=
  (s.stored knowledgeBaseId).map Prod.fst

def MemoryStore.others (s : MemoryStore) (own : Option (UUID × UUID)) (knowledgeBaseId : UUID) :
    List (UUID × KnowledgeDocument) :=
  (s.stored knowledgeBaseId).filter fun row => own ≠ some (knowledgeBaseId, row.1)

def MemoryStore.Counted (s : MemoryStore) : Prop :=
  ∀ knowledgeBaseId base, s.bases.get knowledgeBaseId = some base →
    base.documentCount = (s.stored knowledgeBaseId).length

def MemoryStore.Distinct (s : MemoryStore) : Prop :=
  ∀ knowledgeBaseId, (s.ids knowledgeBaseId).Nodup

structure MemoryStore.Sound (s : MemoryStore) : Prop where
  counted : s.Counted
  distinct : s.Distinct
  live : ∀ knowledgeBaseId, ∀ row ∈ s.stored knowledgeBaseId, isStored row = true

structure Respects (before after : MemoryStore) (own : Option (UUID × UUID)) : Prop where
  others : ∀ knowledgeBaseId, after.others own knowledgeBaseId = before.others own knowledgeBaseId
  distinct : after.Distinct
  counted : after.Counted

section Stores

variable {s s' s'' : MemoryStore} {knowledgeBaseId documentId other : UUID} {index : Nat}

theorem stored_setStored (s : MemoryStore) (knowledgeBaseId other : UUID)
    (rows : List (UUID × KnowledgeDocument)) :
    (s.setStored knowledgeBaseId rows).stored other =
      if other = knowledgeBaseId then rows else s.stored other := by
  simp only [MemoryStore.stored, MemoryStore.setStored, OrderedDict.get_set]
  split
  · rfl
  · rfl

theorem others_eq (s : MemoryStore) (knowledgeBaseId documentId other : UUID) :
    s.others (some (knowledgeBaseId, documentId)) other =
      if other = knowledgeBaseId then KeyedRows.others documentId (s.stored other)
      else s.stored other := by
  by_cases same : other = knowledgeBaseId
  · subst same
    rw [if_pos rfl]
    refine List.filter_congr fun row _ => ?_
    simp [eq_comm]
  · rw [if_neg same]
    refine List.filter_eq_self.mpr fun row _ => ?_
    have apart : ¬ knowledgeBaseId = other := fun eq => same eq.symm
    simp [apart]

theorem MemoryStore.Sound.respects_self (sound : s.Sound) (own : Option (UUID × UUID)) :
    Respects s s own :=
  ⟨fun _ => rfl, sound.distinct, sound.counted⟩

structure Rewrites (knowledgeBaseId documentId : UUID) (s s' : MemoryStore) : Prop where
  bases : s'.bases = s.bases
  ids : ∀ other, s'.ids other = s.ids other
  others : ∀ other, s'.others (some (knowledgeBaseId, documentId)) other =
    s.others (some (knowledgeBaseId, documentId)) other
  live : (∀ other, ∀ row ∈ s.stored other, isStored row = true) →
    ∀ other, ∀ row ∈ s'.stored other, isStored row = true

namespace Rewrites

theorem refl (s : MemoryStore) : Rewrites knowledgeBaseId documentId s s :=
  ⟨rfl, fun _ => rfl, fun _ => rfl, fun live => live⟩

theorem trans (first : Rewrites knowledgeBaseId documentId s s')
    (second : Rewrites knowledgeBaseId documentId s' s'') :
    Rewrites knowledgeBaseId documentId s s'' where
  bases := second.bases.trans first.bases
  ids other := (second.ids other).trans (first.ids other)
  others other := (second.others other).trans (first.others other)
  live live := second.live (first.live live)

variable (rewrites : Rewrites knowledgeBaseId documentId s s')

include rewrites

theorem length_stored (other : UUID) :
    (s'.stored other).length = (s.stored other).length := by
  have lengths := congrArg List.length (rewrites.ids other)
  rwa [MemoryStore.ids, MemoryStore.ids, List.length_map, List.length_map] at lengths

theorem counted (counted : s.Counted) :
    s'.Counted := by
  intro other base there
  rw [rewrites.bases] at there
  rw [rewrites.length_stored]
  exact counted other base there

theorem distinct (distinct : s.Distinct) :
    s'.Distinct := by
  intro other
  rw [rewrites.ids]
  exact distinct other

theorem sound (sound : s.Sound) : s'.Sound :=
  ⟨rewrites.counted sound.counted, rewrites.distinct sound.distinct, rewrites.live sound.live⟩

theorem respects (sound : s.Sound) :
    Respects s s' (some (knowledgeBaseId, documentId)) :=
  ⟨rewrites.others, rewrites.distinct sound.distinct, rewrites.counted sound.counted⟩

end Rewrites

theorem setStored_self_rewrites (s : MemoryStore) :
    Rewrites knowledgeBaseId documentId s
    (s.setStored knowledgeBaseId (s.stored knowledgeBaseId)) := by
  have same : ∀ other,
      (s.setStored knowledgeBaseId (s.stored knowledgeBaseId)).stored other = s.stored other := by
    intro other
    rw [stored_setStored]
    split
    · rename_i eq
      rw [eq]
    · rfl
  refine ⟨rfl, fun other => ?_, fun other => ?_, fun live other => ?_⟩
  · rw [MemoryStore.ids, same, MemoryStore.ids]
  · rw [MemoryStore.others, same, MemoryStore.others]
  · rw [same]
    exact live other

def HoldsOwn (s : MemoryStore) (knowledgeBaseId documentId : UUID) (index : Nat) : Prop :=
  ∀ id, (s.ids knowledgeBaseId)[index]? = some id → id = documentId

theorem Rewrites.holdsOwn (rewrites : Rewrites knowledgeBaseId documentId s s')
    (holds : HoldsOwn s knowledgeBaseId documentId index) :
    HoldsOwn s' knowledgeBaseId documentId index := by
  intro id there
  rw [rewrites.ids] at there
  exact holds id there

theorem replaceDocument_cases (s : MemoryStore) (knowledgeBaseId : UUID) (index : Nat)
    (entry : UUID × KnowledgeDocument) :
    (∃ row, (s.stored knowledgeBaseId)[index]? = some row ∧
      replaceDocument s knowledgeBaseId index entry =
        (.ok (), s.setStored knowledgeBaseId ((s.stored knowledgeBaseId).set index entry))) ∨
    (∃ x, (s.stored knowledgeBaseId)[index]? = none ∧
      replaceDocument s knowledgeBaseId index entry =
        (.error x, s.setStored knowledgeBaseId (s.stored knowledgeBaseId))) := by
  by_cases bound : index < (s.stored knowledgeBaseId).length
  · exact .inl ⟨_, List.getElem?_eq_getElem bound, if_pos bound⟩
  · exact .inr ⟨_, List.getElem?_eq_none (Nat.le_of_not_lt bound), if_neg bound⟩

theorem set_rewrites {row : UUID × KnowledgeDocument} {document : KnowledgeDocument}
    (there : (s.stored knowledgeBaseId)[index]? = some row) (own : row.1 = documentId)
    (kept : isStored (documentId, document) = true) :
    Rewrites knowledgeBaseId documentId s
      (s.setStored knowledgeBaseId
        ((s.stored knowledgeBaseId).set index (documentId, document))) := by
  refine ⟨rfl, fun other => ?_, fun other => ?_, fun live other => ?_⟩
  · rw [MemoryStore.ids, stored_setStored]
    split
    · rename_i same
      rw [KeyedRows.keys_set there own, same, MemoryStore.ids]
    · rfl
  · rw [others_eq, others_eq, stored_setStored]
    by_cases same : other = knowledgeBaseId
    · rw [if_pos same, if_pos same, if_pos same, KeyedRows.others_set_own there own, same]
    · rw [if_neg same, if_neg same, if_neg same]
  · rw [stored_setStored]
    split
    · intro written mem
      rcases List.mem_or_eq_of_mem_set mem with old | new
      · exact live knowledgeBaseId written old
      · rw [new]
        exact kept
    · exact live other

theorem replaceDocument_rewrites (document : KnowledgeDocument)
    (holds : HoldsOwn s knowledgeBaseId documentId index)
    (kept : isStored (documentId, document) = true) :
    Rewrites knowledgeBaseId documentId s
      (replaceDocument s knowledgeBaseId index (documentId, document)).2 := by
  rcases replaceDocument_cases s knowledgeBaseId index (documentId, document) with
    ⟨row, there, written⟩ | ⟨_, _, written⟩
  · rw [written]
    have own : row.1 = documentId :=
      holds row.1 (by rw [MemoryStore.ids, List.getElem?_map, there]; rfl)
    exact set_rewrites there own kept
  · rw [written]
    exact setStored_self_rewrites s

end Stores

structure InPlace (knowledgeBaseId documentId : UUID) (s : MemoryStore) (segment : Segment) :
    Prop where
  rewrites : Rewrites knowledgeBaseId documentId s segment.store
  pending : ∀ pending, segment.pending = some pending → ∃ index document,
    pending = .ingesting knowledgeBaseId documentId index document ∧
      (s.ids knowledgeBaseId)[index]? = some documentId

section Segments

variable {s s' : MemoryStore} {knowledgeBaseId documentId : UUID} {index : Nat}
  {document : KnowledgeDocument} {excText : Exc → String} {principal : Principal}

theorem InPlace.of_rewrites {segment : Segment}
    (rewrites : Rewrites knowledgeBaseId documentId s segment.store)
    (done : segment.pending = none) : InPlace knowledgeBaseId documentId s segment := by
  refine ⟨rewrites, fun pending waits => ?_⟩
  rw [done] at waits
  cases waits

theorem InPlace.raise (knowledgeBaseId documentId : UUID) (s : MemoryStore) (x : Exc) :
    InPlace knowledgeBaseId documentId s (raise s x) :=
  .of_rewrites (.refl s) rfl

theorem InPlace.after {segment : Segment} (rewrites : Rewrites knowledgeBaseId documentId s s')
    (rest : InPlace knowledgeBaseId documentId s' segment) :
    InPlace knowledgeBaseId documentId s segment := by
  refine ⟨rewrites.trans rest.rewrites, fun pending waits => ?_⟩
  obtain ⟨index, document, same, place⟩ := rest.pending pending waits
  rw [rewrites.ids] at place
  exact ⟨index, document, same, place⟩

theorem storeIngestFailure_inPlace (holds : HoldsOwn s knowledgeBaseId documentId index) (x : Exc) :
    InPlace knowledgeBaseId documentId s
      (storeIngestFailure excText s knowledgeBaseId documentId index document x) := by
  have rewrites := replaceDocument_rewrites
    { document with status := .failed, errorMessage := some (excText x) } holds rfl
  rw [storeIngestFailure]
  split
  · rename_i y s' written
    rw [written] at rewrites
    exact .after rewrites (.raise _ _ s' y)
  · rename_i s' written
    rw [written] at rewrites
    exact .of_rewrites rewrites rfl

theorem isStored_ingested (document : KnowledgeDocument) (result : IngestResult) :
    isStored (documentId, KnowledgeService.ingestedDocument document result) = true := by
  have kept : KnowledgeService.mapIngestStatus result.status ≠ .deleted := by
    cases result.status <;> decide
  exact decide_eq_true kept

theorem finishIngestion_inPlace (holds : HoldsOwn s knowledgeBaseId documentId index)
    (answer : Except Exc IngestResult) :
    InPlace knowledgeBaseId documentId s
      (finishIngestion excText s knowledgeBaseId documentId index document answer) := by
  cases answer with
  | error x =>
    rw [finishIngestion]
    split
    · exact storeIngestFailure_inPlace holds x
    · exact .raise _ _ s x
  | ok result =>
    have rewrites := replaceDocument_rewrites _ holds (isStored_ingested document result)
    rw [finishIngestion]
    split
    · rename_i y s' written
      rw [written] at rewrites
      exact .after rewrites (storeIngestFailure_inPlace (rewrites.holdsOwn holds) y)
    · rename_i s' written
      rw [written] at rewrites
      exact .of_rewrites rewrites rfl

section

variable (there : (s.ids knowledgeBaseId)[index]? = some documentId)

include there

theorem holdsOwn_of_there :
    HoldsOwn s knowledgeBaseId documentId index :=
  fun _ found => Option.some.inj (found.symm.trans there)

theorem beginIngestion_inPlace :
    InPlace knowledgeBaseId documentId s
      (beginIngestion excText s knowledgeBaseId documentId index document) := by
  have holds := holdsOwn_of_there there
  have rewrites := replaceDocument_rewrites { document with status := .ingesting } holds rfl
  rw [beginIngestion]
  split
  · rename_i y s' written
    rw [written] at rewrites
    exact .after rewrites (.raise _ _ s' y)
  · rename_i s' written
    rw [written] at rewrites
    split
    · refine ⟨rewrites, fun pending waits => ?_⟩
      cases waits
      exact ⟨index, _, rfl, there⟩
    · exact .after rewrites (storeIngestFailure_inPlace (rewrites.holdsOwn holds) _)

theorem completeFound_inPlace (payload : DocumentUploadCompleteRequest) :
    InPlace knowledgeBaseId documentId s
      (completeFound excText s knowledgeBaseId documentId payload document index) := by
  have rewrites := replaceDocument_rewrites (KnowledgeService.uploadedDocument document payload)
    (holdsOwn_of_there there) rfl
  rw [completeFound]
  split
  · exact .raise _ _ s _
  · rcases written : replaceDocument s knowledgeBaseId index
      (documentId, KnowledgeService.uploadedDocument document payload) with ⟨y | _, s'⟩
    · rw [written] at rewrites
      simp only [written]
      exact .after rewrites (.raise _ _ s' y)
    · rw [written] at rewrites
      simp only [written]
      split
      · refine .after rewrites (beginIngestion_inPlace ?_)
        rw [rewrites.ids]
        exact there
      · exact .of_rewrites rewrites rfl

end

theorem getDocumentForTenant_stored {tenantId : UUID}
    (found : getDocumentForTenant s knowledgeBaseId documentId tenantId = .ok (document, index)) :
    (s.stored knowledgeBaseId)[index]? = some (documentId, document) := by
  rw [getDocumentForTenant] at found
  split at found
  · cases found
  · rename_i entry isFirst
    cases found
    have asked := List.find?_some isFirst
    have there := List.mem_zipIdx_iff_getElem?.mp (List.mem_of_find?_eq_some isFirst)
    rw [there, ← (of_decide_eq_true asked).1]

theorem findDocument_stored
    (found : findDocument s principal knowledgeBaseId documentId = .ok (document, index)) :
    (s.stored knowledgeBaseId)[index]? = some (documentId, document) := by
  obtain ⟨base, _, found⟩ := Process.Fallible.bind_ok.mp found
  exact getDocumentForTenant_stored found

theorem ids_of_stored (there : (s.stored knowledgeBaseId)[index]? = some (documentId, document)) :
    (s.ids knowledgeBaseId)[index]? = some documentId := by
  rw [MemoryStore.ids, List.getElem?_map, there]
  rfl

theorem completeDocumentUpload_inPlace (payload : DocumentUploadCompleteRequest) :
    InPlace knowledgeBaseId documentId s
      (completeDocumentUpload excText s principal knowledgeBaseId documentId payload) := by
  rw [completeDocumentUpload]
  split
  · exact .raise _ _ s _
  · rename_i found
    exact completeFound_inPlace (ids_of_stored (findDocument_stored found)) payload

theorem reingestKnowledgeDocument_inPlace :
    InPlace knowledgeBaseId documentId s
      (reingestKnowledgeDocument excText s principal knowledgeBaseId documentId) := by
  rw [reingestKnowledgeDocument]
  split
  · exact .raise _ _ s _
  · rename_i document index found
    have holds := holdsOwn_of_there (ids_of_stored (findDocument_stored found))
    have rewrites := replaceDocument_rewrites (KnowledgeService.resetDocument document) holds rfl
    rw [reingestFound]
    split
    · exact .raise _ _ s _
    · split
      · rename_i y s' written
        rw [written] at rewrites
        exact .after rewrites (.raise _ _ s' y)
      · rename_i s' written
        rw [written] at rewrites
        exact .after rewrites (completeDocumentUpload_inPlace {})

end Segments

section ComeAndGo

variable {s s' : MemoryStore} {knowledgeBaseId documentId : UUID} {index : Nat}
  {document : KnowledgeDocument} {principal : Principal}

theorem stored_countBase (s : MemoryStore) (knowledgeBaseId other : UUID) :
    (countBase s knowledgeBaseId).stored other = s.stored other := by
  rw [countBase]
  split
  · rfl
  · rfl

theorem countBase_counted (counted : s.Counted) (bases : s'.bases = s.bases)
    (rest : ∀ other, other ≠ knowledgeBaseId → s'.stored other = s.stored other) :
    (countBase s' knowledgeBaseId).Counted := by
  intro other base there
  rw [stored_countBase]
  by_cases same : other = knowledgeBaseId
  · subst same
    rw [countBase] at there
    split at there
    · rename_i missing
      rw [missing] at there
      cases there
    · rw [OrderedDict.get_set_self] at there
      cases there
      rfl
  · rw [rest other same]
    refine counted other base ?_
    rw [countBase] at there
    split at there
    · rwa [← bases]
    · rwa [OrderedDict.get_set_of_ne _ _ same, bases] at there

theorem deleteFound_cases
    (there : (s.stored knowledgeBaseId)[index]? = some (documentId, document)) :
    ∃ s', s'.bases = s.bases ∧
      (∀ other, s'.stored other =
        if other = knowledgeBaseId then
          ((s.stored knowledgeBaseId).set index
            (documentId, { document with status := .deleted })).filter isStored
        else s.stored other) ∧
      deleteFound s knowledgeBaseId documentId document index =
        respond (countBase s' knowledgeBaseId) (.deleted documentId) := by
  rcases replaceDocument_cases s knowledgeBaseId index
      (documentId, { document with status := .deleted }) with ⟨row, _, written⟩ | ⟨_, missing, _⟩
  · simp only [deleteFound, written]
    refine ⟨_, ?_, fun other => ?_, rfl⟩
    · rfl
    · simp only [stored_setStored, if_true]
      split
      · rfl
      · rfl
  · rw [there] at missing
    cases missing

structure Advances (own : UUID × UUID) (before after : MemoryStore) : Prop where
  others : ∀ other, after.others (some own) other = before.others (some own) other
  sound : after.Sound

theorem Advances.respects {own : UUID × UUID} (advances : Advances own s s') :
    Respects s s' (some own) :=
  ⟨advances.others, advances.sound.distinct, advances.sound.counted⟩

theorem others_idem (s : MemoryStore) (own : Option (UUID × UUID)) (other : UUID) :
    (s.others own other).filter (fun row => own ≠ some (other, row.1)) = s.others own other := by
  rw [MemoryStore.others, List.filter_filter]
  simp only [Bool.and_self]

theorem deleteFound_removes (sound : s.Sound)
    (there : (s.stored knowledgeBaseId)[index]? = some (documentId, document)) :
    Advances (knowledgeBaseId, documentId) s
        (deleteFound s knowledgeBaseId documentId document index).store ∧
      ∀ other, (deleteFound s knowledgeBaseId documentId document index).store.stored other =
        s.others (some (knowledgeBaseId, documentId)) other := by
  obtain ⟨s', bases, lists, done⟩ := deleteFound_cases there
  have removed : ∀ other, s'.stored other = s.others (some (knowledgeBaseId, documentId)) other :=
    by
    intro other
    rw [lists, others_eq]
    by_cases same : other = knowledgeBaseId
    · rw [if_pos same, if_pos same, same]
      exact KeyedRows.filter_set_eq_others (sound.distinct knowledgeBaseId) there rfl
        (sound.live knowledgeBaseId) rfl
    · rw [if_neg same, if_neg same]
  have stored : ∀ other, (countBase s' knowledgeBaseId).stored other =
      s.others (some (knowledgeBaseId, documentId)) other :=
    fun other => (stored_countBase s' knowledgeBaseId other).trans (removed other)
  rw [done]
  refine ⟨⟨fun other => ?_, ⟨?_, fun other => ?_, fun other row mem => ?_⟩⟩, stored⟩
  · change ((countBase s' knowledgeBaseId).stored other).filter _ = _
    rw [stored]
    exact others_idem s _ other
  · exact countBase_counted sound.counted bases fun other apart => by rw [lists, if_neg apart]
  · change (((countBase s' knowledgeBaseId).stored other).map Prod.fst).Nodup
    rw [stored]
    exact (sound.distinct other).sublist (List.filter_sublist.map Prod.fst)
  · change row ∈ (countBase s' knowledgeBaseId).stored other at mem
    rw [stored] at mem
    exact sound.live other row (List.mem_of_mem_filter mem)

theorem finishPrepare_appends (principal : Principal) (base : KnowledgeBase)
    (payload : DocumentUploadPrepareRequest) (sound : s.Sound)
    (new : documentId ∉ s.ids knowledgeBaseId) (answer : Except Exc Unit) :
    Advances (knowledgeBaseId, documentId) s
        (finishPrepare s principal knowledgeBaseId base documentId payload answer).store ∧
      ∀ other, ∃ rows, (∀ row ∈ rows, other = knowledgeBaseId ∧ row.1 = documentId) ∧
        (finishPrepare s principal knowledgeBaseId base documentId payload answer).store.stored other =
          s.stored other ++ rows := by
  cases answer with
  | error x => exact ⟨⟨fun _ => rfl, sound⟩, fun other => ⟨[], by simp, (List.append_nil _).symm⟩⟩
  | ok answer =>
    have stored : ∀ other,
        (finishPrepare s principal knowledgeBaseId base documentId payload (.ok answer)).store.stored
          other =
        if other = knowledgeBaseId then
          s.stored knowledgeBaseId ++
            [(documentId, KnowledgeService.preparedDocument principal knowledgeBaseId payload)]
        else s.stored other := by
      intro other
      simp only [finishPrepare, respond, MemoryStore.stored, OrderedDict.get_set]
      split
      · rfl
      · rfl
    refine ⟨⟨fun other => ?_, ⟨fun other found there => ?_, fun other => ?_,
      fun other row mem => ?_⟩⟩, fun other => ?_⟩
    · rw [others_eq, others_eq, stored]
      by_cases same : other = knowledgeBaseId
      · rw [if_pos same, if_pos same, if_pos same, KeyedRows.others_concat_own, same]
      · rw [if_neg same, if_neg same, if_neg same]
    · rw [stored]
      simp only [finishPrepare, respond, OrderedDict.get_set] at there
      by_cases same : other = knowledgeBaseId
      · rw [if_pos same] at there ⊢
        cases there
        rfl
      · rw [if_neg same] at there ⊢
        exact sound.counted other found there
    · rw [MemoryStore.ids, stored]
      by_cases same : other = knowledgeBaseId
      · rw [if_pos same, List.map_append, List.map_singleton, ← List.concat_eq_append]
        exact List.Nodup.concat new (sound.distinct knowledgeBaseId)
      · rw [if_neg same]
        exact sound.distinct other
    · rw [stored] at mem
      by_cases same : other = knowledgeBaseId
      · rw [if_pos same] at mem
        rcases List.mem_append.mp mem with old | last
        · exact sound.live knowledgeBaseId row old
        · cases List.mem_singleton.mp last
          rfl
      · rw [if_neg same] at mem
        exact sound.live other row mem
    · rw [stored]
      by_cases same : other = knowledgeBaseId
      · rw [if_pos same, same]
        exact ⟨_, by simp, rfl⟩
      · rw [if_neg same]
        exact ⟨[], by simp, (List.append_nil _).symm⟩

end ComeAndGo

def Pending.document : Pending → UUID × UUID
  | .preparing _ knowledgeBaseId _ documentId _ => (knowledgeBaseId, documentId)
  | .ingesting knowledgeBaseId documentId _ _ => (knowledgeBaseId, documentId)

def Pending.newDocument : Pending → Option (UUID × UUID)
  | .preparing _ knowledgeBaseId _ documentId _ => some (knowledgeBaseId, documentId)
  | .ingesting _ _ _ _ => none

variable {ι : Type} [DecidableEq ι]

def MemoryState.own (s : MemoryState ι) : MemoryEvent ι → Option (UUID × UUID)
  | .prepare _ _ knowledgeBaseId documentId _ => some (knowledgeBaseId, documentId)
  | .complete _ _ knowledgeBaseId documentId _ => some (knowledgeBaseId, documentId)
  | .reingest _ _ knowledgeBaseId documentId => some (knowledgeBaseId, documentId)
  | .delete _ _ knowledgeBaseId documentId => some (knowledgeBaseId, documentId)
  | .prepared call _ => (s.calls.get call).map Pending.document
  | .ingested call _ => (s.calls.get call).map Pending.document

/-- The id drawn for a new document is neither stored in its base nor drawn for
another document that is still being prepared. -/
def DrawsNew (s : MemoryState ι) : MemoryEvent ι → Prop
  | .prepare _ _ knowledgeBaseId documentId _ =>
    documentId ∉ s.store.ids knowledgeBaseId ∧
      ∀ entry ∈ s.calls.entries, entry.2.newDocument ≠ some (knowledgeBaseId, documentId)
  | _ => True

instance (s : MemoryState ι) (event : MemoryEvent ι) : Decidable (DrawsNew s event) := by
  cases event
  case prepare => exact inferInstanceAs (Decidable (_ ∧ ∀ entry ∈ _, _))
  all_goals exact .isTrue trivial

def isWritten : Except Exc IngestResult → Bool
  | .ok _ => true
  | .error x => x.isException

/-- An ingestion that comes back finds its document, or nothing, at its old position. -/
def FindsOwn (s : MemoryState ι) : MemoryEvent ι → Prop
  | .ingested call answer =>
    ∀ knowledgeBaseId documentId index document,
      s.calls.get call = some (.ingesting knowledgeBaseId documentId index document) →
      isWritten answer = true → HoldsOwn s.store knowledgeBaseId documentId index
  | _ => True

/-- What a step makes of the documents is as it should be. -/
def StepRespects (excText : Exc → String) (s : MemoryState ι) (event : MemoryEvent ι) : Prop :=
  Respects s.store ((memory excText).next s event).store (s.own event)

/-- Between the steps of a run: the dictionaries are in order, and every document
that is being prepared is new in its base. -/
structure MemoryState.Sound (s : MemoryState ι) : Prop where
  store : s.store.Sound
  new : ∀ call pending place, s.calls.get call = some pending →
    pending.newDocument = some place → place.2 ∉ s.store.ids place.1
  once : ∀ first second pending pending' place, s.calls.get first = some pending →
    s.calls.get second = some pending' → pending.newDocument = some place →
    pending'.newDocument = some place → first = second

section Steps

variable {s : MemoryState ι} {excText : Exc → String} {call : ι}

theorem get_settle (s : MemoryState ι) (call other : ι) (segment : Segment) :
    (s.settle call segment).2.calls.get other =
      if other = call then segment.pending else s.calls.get other := by
  rw [MemoryState.settle]
  cases pending : segment.pending with
  | some pending => exact OrderedDict.get_set _ _ _ _
  | none => exact OrderedDict.get_erase _ _ _

variable {segment : Segment}

variable (sound : s.Sound)

include sound

theorem MemoryState.Sound.settle (stored : segment.store.Sound)
    (grown : ∀ place : UUID × UUID, place.2 ∈ segment.store.ids place.1 →
      place.2 ∈ s.store.ids place.1 ∨
        ∃ pending, s.calls.get call = some pending ∧ pending.newDocument = some place)
    (asks : ∀ pending place, segment.pending = some pending → pending.newDocument = some place →
      place.2 ∉ segment.store.ids place.1 ∧
        ∀ other pending', s.calls.get other = some pending' →
          pending'.newDocument ≠ some place) : (s.settle call segment).2.Sound := by
  refine ⟨stored, fun other pending place there isNew => ?_,
    fun first second pending pending' place there there' isNew isNew' => ?_⟩
  · rw [get_settle] at there
    split at there
    · exact (asks pending place there isNew).1
    · rename_i apart
      intro mem
      rcases grown place mem with old | ⟨own, here, mine⟩
      · exact sound.new other pending place there isNew old
      · exact apart (sound.once other call pending own place there here isNew mine)
  · rw [get_settle] at there there'
    split at there
    · rename_i same
      split at there'
      · rename_i same'
        rw [same, same']
      · exact absurd isNew' ((asks pending place there isNew).2 second pending' there')
    · split at there'
      · exact absurd isNew ((asks pending' place there' isNew').2 first pending there)
      · exact sound.once first second pending pending' place there there' isNew isNew'

variable {knowledgeBaseId documentId : UUID}

theorem MemoryState.Sound.settle_inPlace
    (inPlace : InPlace knowledgeBaseId documentId s.store segment) :
    (s.settle call segment).2.Sound := by
  refine sound.settle (inPlace.rewrites.sound sound.store) (fun place mem => ?_)
    fun pending place waits isNew => ?_
  · rw [inPlace.rewrites.ids] at mem
    exact .inl mem
  · obtain ⟨index, document, same, _⟩ := inPlace.pending pending waits
    rw [same] at isNew
    cases isNew

omit sound in
theorem enter_cases (s : MemoryState ι) (call : ι) (segment : Segment) :
    (s.enter call segment).2 = s ∨
      s.calls.get call = none ∧ s.enter call segment = s.settle call segment := by
  rw [MemoryState.enter]
  cases there : s.calls.get call with
  | none => exact .inr ⟨rfl, rfl⟩
  | some pending => exact .inl rfl

structure Keeps (own : Option (UUID × UUID)) (before after : MemoryState ι) : Prop where
  respects : Respects before.store after.store own
  sound : after.Sound

theorem MemoryState.Sound.keeps_self (own : Option (UUID × UUID)) :
    Keeps own s s :=
  ⟨sound.store.respects_self own, sound⟩

theorem MemoryState.Sound.keeps_inPlace
    (inPlace : InPlace knowledgeBaseId documentId s.store segment) :
    Keeps (some (knowledgeBaseId, documentId)) s (s.settle call segment).2 :=
  ⟨inPlace.rewrites.respects sound.store, sound.settle_inPlace inPlace⟩

theorem MemoryState.Sound.keeps_enter {own : Option (UUID × UUID)}
    (begins : Keeps own s (s.settle call segment).2) : Keeps own s (s.enter call segment).2 := by
  rcases enter_cases s call segment with same | ⟨_, entered⟩
  · rw [same]
    exact sound.keeps_self own
  · rw [entered]
    exact begins

variable {principal : Principal}

theorem prepareDocumentUpload_keeps {payload : DocumentUploadPrepareRequest}
    (new : DrawsNew s (.prepare call principal knowledgeBaseId documentId payload)) :
    Keeps (some (knowledgeBaseId, documentId)) s
      (s.settle call
        (prepareDocumentUpload s.store principal knowledgeBaseId documentId payload)).2 := by
  rw [prepareDocumentUpload]
  cases getAccessibleBase s.store knowledgeBaseId principal true with
  | error x => exact sound.keeps_inPlace (.raise _ _ s.store x)
  | ok base =>
    refine ⟨sound.store.respects_self _, sound.settle sound.store (fun _ old => .inl old) ?_⟩
    intro pending place waits isNew
    cases waits
    cases isNew
    refine ⟨new.1, fun other pending there => ?_⟩
    exact new.2 (other, pending) (OrderedDict.mem_entries_of_get there)

theorem deleteKnowledgeDocument_keeps :
    Keeps (some (knowledgeBaseId, documentId)) s
      (s.settle call
        (deleteKnowledgeDocument s.store principal knowledgeBaseId documentId)).2 := by
  rw [deleteKnowledgeDocument]
  split
  · exact sound.keeps_inPlace (.raise _ _ s.store _)
  · rename_i document index found
    obtain ⟨advances, removed⟩ := deleteFound_removes sound.store (findDocument_stored found)
    refine ⟨advances.respects, sound.settle advances.sound (fun place mem => .inl ?_) ?_⟩
    · obtain ⟨row, there, same⟩ := List.mem_map.mp mem
      rw [removed] at there
      rw [← same]
      exact List.mem_map_of_mem (List.mem_of_mem_filter there)
    · intro pending place waits
      obtain ⟨s', _, _, done⟩ := deleteFound_cases (findDocument_stored found)
      rw [done] at waits
      cases waits

theorem finishPrepare_keeps {base : KnowledgeBase}
    {payload : DocumentUploadPrepareRequest} (waits : s.calls.get call =
      some (.preparing principal knowledgeBaseId base documentId payload))
    (answer : Except Exc Unit) :
    Keeps (some (knowledgeBaseId, documentId)) s
      (s.settle call
        (finishPrepare s.store principal knowledgeBaseId base documentId payload answer)).2 := by
  obtain ⟨advances, appended⟩ := finishPrepare_appends principal base payload sound.store
    (sound.new call _ _ waits rfl) answer
  refine ⟨advances.respects, sound.settle advances.sound (fun place mem => ?_) ?_⟩
  · obtain ⟨rows, own, grown⟩ := appended place.1
    rw [MemoryStore.ids, grown, List.map_append] at mem
    rcases List.mem_append.mp mem with old | last
    · exact .inl old
    · obtain ⟨row, there, same⟩ := List.mem_map.mp last
      obtain ⟨base, id⟩ := own row there
      exact .inr ⟨_, waits, congrArg some (Prod.ext base.symm (id.symm.trans same))⟩
  · intro pending place none_
    cases answer with
    | error x => cases none_
    | ok answer => cases none_

end Steps

section Runs

variable (excText : Exc → String) {s : MemoryState ι} {event : MemoryEvent ι}

theorem step_keeps (sound : s.Sound) (new : DrawsNew s event) (finds : FindsOwn s event) :
    Keeps (s.own event) s ((memory excText).next s event) := by
  cases event with
  | prepare call principal knowledgeBaseId documentId payload =>
    exact sound.keeps_enter (prepareDocumentUpload_keeps sound new)
  | complete call principal knowledgeBaseId documentId payload =>
    exact sound.keeps_enter (sound.keeps_inPlace (completeDocumentUpload_inPlace payload))
  | reingest call principal knowledgeBaseId documentId =>
    exact sound.keeps_enter (sound.keeps_inPlace reingestKnowledgeDocument_inPlace)
  | delete call principal knowledgeBaseId documentId =>
    exact sound.keeps_enter (deleteKnowledgeDocument_keeps sound)
  | prepared call answer =>
    simp only [Process.Machine.next, memory, step, MemoryState.own]
    split
    · rename_i principal knowledgeBaseId base documentId payload waits
      rw [waits]
      exact finishPrepare_keeps sound waits answer
    · exact sound.keeps_self _
  | ingested call answer =>
    simp only [Process.Machine.next, memory, step, MemoryState.own]
    split
    · rename_i knowledgeBaseId documentId index document waits
      rw [waits]
      refine sound.keeps_inPlace ?_
      cases written : isWritten answer with
      | true => exact finishIngestion_inPlace (finds _ _ _ _ waits written) answer
      | false =>
        cases answer with
        | ok result => cases written
        | error x =>
          rw [finishIngestion, if_neg (by rw [show x.isException = false from written]; simp)]
          exact .raise _ _ s.store x
    · exact sound.keeps_self _

variable {knowledgeBaseId : UUID}

theorem finishIngestion_writes {store : MemoryStore} {index : Nat} {row : UUID × KnowledgeDocument}
    (documentId : UUID) (document : KnowledgeDocument)
    (there : (store.stored knowledgeBaseId)[index]? = some row) {answer : Except Exc IngestResult}
    (written : isWritten answer = true) :
    ∃ stored, (finishIngestion excText store knowledgeBaseId documentId index document answer).store =
      store.setStored knowledgeBaseId
        ((store.stored knowledgeBaseId).set index (documentId, stored)) := by
  have replaced : ∀ stored, replaceDocument store knowledgeBaseId index (documentId, stored) =
      (.ok (), store.setStored knowledgeBaseId
        ((store.stored knowledgeBaseId).set index (documentId, stored))) :=
    fun stored => if_pos (List.getElem?_eq_some_iff.mp there).1
  cases answer with
  | ok result =>
    refine ⟨KnowledgeService.ingestedDocument document result, ?_⟩
    simp only [finishIngestion, replaced, respond]
  | error x =>
    have caught : x.isException = true := written
    refine ⟨{ document with status := .failed, errorMessage := some (excText x) }, ?_⟩
    rw [finishIngestion, if_pos caught]
    simp only [storeIngestFailure, replaced, respond]

theorem findsOwn_of_respects (respects : StepRespects excText s event) : FindsOwn s event := by
  cases event with
  | ingested call answer =>
    intro knowledgeBaseId documentId index document waits written id there
    rw [MemoryStore.ids, List.getElem?_map, Option.map_eq_some_iff] at there
    obtain ⟨row, there, same⟩ := there
    rw [← same]
    by_contra other
    have kept := respects.others knowledgeBaseId
    obtain ⟨stored, lists⟩ := finishIngestion_writes excText documentId document there
      written
    simp only [Process.Machine.next, memory, step, MemoryState.own, waits, MemoryState.settle,
      Option.map_some, Pending.document, lists, others_eq, stored_setStored, if_true] at kept
    exact KeyedRows.others_set_other there other stored kept
  | prepare => trivial
  | complete => trivial
  | reingest => trivial
  | delete => trivial
  | prepared => trivial

/-- In a run the documents do not overwrite one another, and every base has the
number of its documents, if and only if every ingestion that comes back finds
its document, or nothing, at the position it had. -/
theorem respects_iff_finds_own (sound : s.Sound) {events : List (MemoryEvent ι)}
    (new : (memory excText).Along DrawsNew s events) :
    (memory excText).Along (StepRespects excText) s events ↔
      (memory excText).Along FindsOwn s events := by
  induction events generalizing s with
  | nil => exact Iff.rfl
  | cons event rest ih =>
    constructor
    · intro respects
      have finds := findsOwn_of_respects excText respects.1
      exact ⟨finds, (ih (step_keeps excText sound new.1 finds).sound new.2).mp respects.2⟩
    · intro finds
      have keeps := step_keeps excText sound new.1 finds.1
      exact ⟨keeps.respects, (ih keeps.sound new.2).mpr finds.2⟩

instance (s : MemoryState ι) (event : MemoryEvent ι) : Decidable (FindsOwn s event) :=
  match event with
  | .ingested call answer =>
    match waits : s.calls.get call with
    | some (.ingesting base documentId index document) =>
      decidable_of_iff
        (isWritten answer = true → ∀ id ∈ (s.store.ids base)[index]?, id = documentId)
        ⟨fun own => fun _ _ _ _ same written => by
          cases waits.symm.trans same
          exact own written, fun finds => finds _ _ _ _ waits⟩
    | some (.preparing _ _ _ _ _) | none =>
      .isTrue fun _ _ _ _ same => nomatch waits.symm.trans same
  | .prepare .. | .complete .. | .reingest .. | .delete .. | .prepared .. => .isTrue trivial

def MemoryState.ofBases (bases : OrderedDict UUID KnowledgeBase) : MemoryState ι :=
  { store := { bases := bases, documents := .empty }
    calls := .empty }

theorem ofBases_sound {bases : OrderedDict UUID KnowledgeBase}
    (empty : ∀ entry ∈ bases.entries, entry.2.documentCount = 0) :
    (MemoryState.ofBases bases : MemoryState ι).Sound := by
  refine ⟨⟨fun id base there => ?_, fun id => List.nodup_nil, fun id row mem => ?_⟩,
    fun call pending place there => ?_, fun first second pending pending' place there => ?_⟩
  · exact empty (id, base) (OrderedDict.mem_entries_of_get there)
  · cases mem
  · cases there
  · cases there

end Runs

def oneBase : OrderedDict UUID KnowledgeBase := OrderedDict.empty.set 1 { tenantId := 7 }

def administrator : Principal where
  userId := 3
  tenantId := 7
  permissions := [.tenantAdmin]

def uploadOf (id : UUID) : List (MemoryEvent Nat) :=
  [.prepare id administrator 1 id { filename := "notes.txt" }, .prepared id (.ok ())]

def deletedMeanwhile (id : UUID) : List (MemoryEvent Nat) :=
  [10, 11, 12].flatMap uploadOf ++
    [.complete 1 administrator 1 11 {}, .delete 2 administrator 1 id]

def ingestedThen : MemoryEvent Nat :=
  .ingested 1 (.ok { status := .indexed, message := "Indexed." })

theorem later_document_deleted :
    (memory fun _ => "").Along (StepRespects fun _ => "") (.ofBases oneBase)
      (deletedMeanwhile 12 ++ [ingestedThen]) := by
  have sound : (MemoryState.ofBases oneBase : MemoryState Nat).Sound :=
    ofBases_sound (by decide)
  have new : (memory fun _ => "").Along DrawsNew (.ofBases oneBase)
      (deletedMeanwhile 12 ++ [ingestedThen]) := by
    decide +kernel
  exact (respects_iff_finds_own _ sound new).mpr (by decide +kernel)

theorem last_document_overwritten :
    (memory fun _ => "").Along DrawsNew (.ofBases oneBase)
        (deletedMeanwhile 10 ++ [ingestedThen]) ∧
      ¬ (memory fun _ => "").Along (StepRespects fun _ => "") (.ofBases oneBase)
        (deletedMeanwhile 10 ++ [ingestedThen]) := by
  refine ⟨by decide +kernel, fun respects => ?_⟩
  have last := ((Process.Machine.along_append _ _ _).mp respects).2.1
  -- The last document is stored before the ingestion comes back, and no longer after it.
  have lost :
      (((memory fun _ => "").after (.ofBases oneBase)
        (deletedMeanwhile 10 ++ [ingestedThen])).store.others (some (1, 11)) 1).length ≠
      (((memory fun _ => "").after (.ofBases oneBase)
        (deletedMeanwhile 10)).store.others (some (1, 11)) 1).length := by
    decide +kernel
  have kept := last.others 1
  rw [Process.Machine.after_append] at lost
  exact lost (congrArg List.length kept)

end AgentHive.KnowledgeMemory
