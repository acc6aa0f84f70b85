import AgentHive.Services.CalmRuns
import AgentHive.Services.KnowledgeWrites

/-!
Documents that can still be indexed, and those that are stuck.
-/

namespace AgentHive

open Process (Keeping Interleaved)

def KnowledgeOperation.Ingests : KnowledgeOperation → Prop
  | .prepare _ | .complete _ _ | .reingest _ => True
  | _ => False

inductive CalmRun (installation : KnowledgeInstallation) (database : KnowledgeDatabase) :
    KnowledgeTables → KnowledgeTables → Prop
  | refl (tables : KnowledgeTables) : CalmRun installation database tables tables
  | call {tables middle after : KnowledgeTables} {call : KnowledgeCall}
      {result : Except Exc KnowledgeResponse} (ingests : call.operation.Ingests)
      (run : Process.Program.Alone (calmEnvironment database) (call.program installation) tables
        result middle) (rest : CalmRun installation database middle after) :
      CalmRun installation database tables after

def CanBeIndexed (installation : KnowledgeInstallation) (database : KnowledgeDatabase)
    (tables : KnowledgeTables) (documentId : UUID) : Prop :=
  ∃ after row, CalmRun installation database tables after ∧
    after.documents.get documentId = some row ∧ row.status = .indexed

def Ingestible (lib : KnowledgeLibrary) (tables : KnowledgeTables) (row : KnowledgeDocument) :
    Prop :=
  ∃ base, tables.bases.get row.knowledgeBaseId = some base ∧
    (base.ragEngine = .ragflow ∨ KnowledgeService.Extractable lib row)

open KnowledgeSession KnowledgeService

theorem CalmRun.keeps {installation : KnowledgeInstallation} {database : KnowledgeDatabase}
    {tables after : KnowledgeTables} {J : KnowledgeTables → Prop} {T : KnowledgeEvent → Prop}
    {good : KnowledgeWrite → Prop} (run : CalmRun installation database tables after)
    (admissible : ∀ s e r s', J s → s.Answers database e r s' → T ⟨e, r⟩)
    (told : ∀ call : KnowledgeCall, call.operation.Ingests →
      Told T good (call.endpoint installation) fun _ => True)
    (step : ∀ tables after w, good w → tables.apply w = some after → J tables → J after)
    (start : J tables) : J after := by
  induction run with
  | refl tables => exact start
  | @call tables middle after call result ingests run rest ih =>
    refine ih ?_
    have kept : (call.endpoint installation).From (calmEnvironment database) {} tables
        fun r left after => J after ∧ (∀ w ∈ left.writes, good w) ∧ ∀ a, r = .ok a → True := by
      refine (told call ingests).alone ?_ ?_ (fun w mem => by cases mem) start
      · intro s e r s' held answered
        exact admissible s e r s' held answered.1
      · intro s e r s' promised answered held
        exact promised.keeps step answered.1 held
    exact Process.Action.From.of_alone (kept.mono fun _ _ _ post => post.1) run

section Ingesting

variable {installation : KnowledgeInstallation} {database : KnowledgeDatabase}
  {tables after : KnowledgeTables} {documentId : UUID}

def IsIngesting (documentId : UUID) (tables : KnowledgeTables) : Prop :=
  ∃ row, tables.documents.get documentId = some row ∧ row.status = .ingesting

def ReadsIngesting (documentId : UUID) : KnowledgeEvent → Prop
  | ⟨.ask (.getDocument id), .ok (some row)⟩ => id = documentId → row.status = .ingesting
  | _ => True

def LeavesDocument (documentId : UUID) : KnowledgeWrite → Prop
  | .updateDocument id _ _ => id ≠ documentId
  | _ => True

theorem IsIngesting.apply {w : KnowledgeWrite} (leaves : LeavesDocument documentId w)
    (applied : tables.apply w = some after) (ingesting : IsIngesting documentId tables) :
    IsIngesting documentId after := by
  refine KnowledgeTables.document_kept applied (fun loaded new row eq _ => ?_) ingesting
  cases eq
  exact absurd rfl leaves

theorem readsIngesting {e : KnowledgeEffect} {r : KnowledgeAnswer e}
    (ingesting : IsIngesting documentId tables) (answered : tables.Answers database e r after) :
    ReadsIngesting documentId ⟨e, r⟩ := by
  obtain ⟨row, stored, status⟩ := ingesting
  unfold ReadsIngesting
  split
  · rename_i id found eq
    cases eq
    intro same
    have honest := answered.2 _ rfl
    rw [same, KnowledgeTables.read, stored] at honest
    cases honest
    exact status
  · trivial

theorem endpoint_refuses (call : KnowledgeCall) (ingests : call.operation.Ingests) :
    Told (ReadsIngesting documentId) (LeavesDocument documentId) (call.endpoint installation)
      fun _ => True := by
  obtain ⟨principal, knowledgeBaseId, operation⟩ := call
  cases operation with
  | prepare payload =>
    refine .bind (prepareDocumentUpload_writes _ ?_) fun _ _ => .pure trivial
    intro _ _ _ _ w own
    cases own <;> trivial
  | complete id payload =>
    refine .bind (Q := fun _ => True) ?_ fun _ _ => .pure trivial
    by_cases same : id = documentId
    · refine .bind writes_requirePermission fun _ _ => writes_guarded ?_
      refine .bind getAccessibleBase_writes fun _ _ => ?_
      refine .bind getDocumentForTenant_writes fun row known => ?_
      refine .bind writes_refuse fun _ _ => .bind writes_refuse fun _ passed => ?_
      rw [known.1 same] at passed
      exact absurd (by decide) passed
    · refine completeDocumentUpload_writes _ fun _ _ _ w own => ?_
      cases own <;> first | exact same | trivial
  | reingest id =>
    refine .bind (Q := fun _ => True) ?_ fun _ _ => .pure trivial
    by_cases same : id = documentId
    · refine .bind writes_requirePermission fun _ _ => writes_guarded ?_
      refine .bind getAccessibleBase_writes fun _ _ => ?_
      refine .bind getDocumentForTenant_writes fun row known => ?_
      refine .bind writes_refuse fun _ passed => ?_
      rw [known.1 same] at passed
      exact absurd (by decide) passed
    · refine reingestKnowledgeDocument_writes _ fun _ _ _ w own => ?_
      cases own <;> first | exact same | trivial
  | _ => exact ingests.elim

theorem CalmRun.ingesting (run : CalmRun installation database tables after)
    (start : IsIngesting documentId tables) : IsIngesting documentId after :=
  run.keeps (fun _ _ _ _ held answered => readsIngesting held answered) endpoint_refuses
    (fun _ _ _ leaves applied held => held.apply leaves applied) start

end Ingesting

section Unreadable

variable {installation : KnowledgeInstallation} {database : KnowledgeDatabase}
  {tables after : KnowledgeTables} {documentId : UUID} {file : KnowledgeDocument}

structure IsOfFile (documentId : UUID) (file : KnowledgeDocument) (tables : KnowledgeTables) :
    Prop where
  document : ∃ row, tables.documents.get documentId = some row ∧ file.SameFile row ∧
    row.status ≠ .indexed
  base : ∃ base, tables.bases.get file.knowledgeBaseId = some base ∧ base.ragEngine = .pgvector

def ReadsFile (documentId : UUID) (file : KnowledgeDocument) : KnowledgeEvent → Prop
  | ⟨.ask (.getDocument id), .ok (some row)⟩ => id = documentId → file.SameFile row
  | ⟨.ask (.getBase id), .ok (some base)⟩ => id = file.knowledgeBaseId → base.ragEngine = .pgvector
  | _ => True

def LeavesUnindexed (documentId : UUID) : KnowledgeWrite → Prop
  | .updateDocument id _ row => id = documentId → row.status ≠ .indexed
  | _ => True

variable {row : KnowledgeDocument}

theorem sameFile_update {loaded changed : KnowledgeDocument} (same : file.SameFile row) :
    file.SameFile (row.update loaded changed) :=
  ⟨same.tenantId, same.knowledgeBaseId, same.filename, same.contentType⟩

theorem IsOfFile.apply {w : KnowledgeWrite} (leaves : LeavesUnindexed documentId w)
    (applied : tables.apply w = some after) (held : IsOfFile documentId file tables) :
    IsOfFile documentId file after := by
  refine ⟨?_, KnowledgeTables.base_kept applied (fun _ _ _ _ same => same) held.base⟩
  refine KnowledgeTables.document_kept applied (fun loaded new row eq known => ?_) held.document
  cases eq
  refine ⟨sameFile_update known.1, ?_⟩
  simp only [KnowledgeDocument.update, column]
  split
  · exact known.2
  · exact leaves rfl

theorem readsFile {e : KnowledgeEffect} {r : KnowledgeAnswer e}
    (held : IsOfFile documentId file tables) (answered : tables.Answers database e r after) :
    ReadsFile documentId file ⟨e, r⟩ := by
  obtain ⟨⟨row, stored, same, status⟩, base, baseStored, engine⟩ := held
  unfold ReadsFile
  split
  · rename_i id found eq
    cases eq
    intro own
    have honest := answered.2 _ rfl
    rw [own, KnowledgeTables.read, stored] at honest
    cases honest
    exact same
  · rename_i id found eq
    cases eq
    intro own
    have honest := answered.2 _ rfl
    rw [own, KnowledgeTables.read, baseStored] at honest
    cases honest
    exact engine
  · trivial

abbrev KeepsUnindexed {α : Type} (documentId : UUID) (file : KnowledgeDocument)
    (m : KnowledgeSession α) (Q : α → Prop) : Prop :=
  Told (ReadsFile documentId file) (LeavesUnindexed documentId) m Q

variable (lib : KnowledgeLibrary)

theorem ingest_unindexed (unreadable : ¬ Extractable lib file) {base : KnowledgeBase}
    (engine : base.ragEngine = .pgvector) (same : file.SameFile row) :
    KeepsUnindexed documentId file (ingest lib base documentId row) fun _ => False := by
  rw [ingest, engine]
  refine .bind (told_of_writes pgvectorChunkSchemaReady_writes) fun ready _ => ?_
  refine .bind writes_service fun raw _ => ?_
  refine .bind (Q := fun _ => True) (.ofExcept fun _ _ => trivial) fun config _ => ?_
  refine .bind (Q := fun _ => False) (.ofExcept fun chunks parsed => ?_)
    fun _ none => none.elim
  rw [parseDocumentChunks] at parsed
  cases decoded : lib.decodeDocumentText raw row.contentType row.filename with
  | error x =>
    rw [decoded] at parsed
    cases parsed
  | ok text =>
    rw [same.contentType, same.filename] at decoded
    exact unreadable ⟨raw, text, decoded⟩

theorem ingestUploaded_unindexed (unreadable : ¬ Extractable lib file) {base : KnowledgeBase}
    (engine : base.ragEngine = .pgvector) :
    KeepsUnindexed documentId file (ingestUploaded lib base documentId row) fun _ => True := by
  refine addCommit_writes (fun _ eq => by cases eq) ?_
  refine .bind refreshDocument_writes fun row told => writes_tryExcept ?_ fun x => ?_
  · refine .bind (Q := fun _ => True) ?_ fun _ _ => ?_
    · exact .ite (fun _ => .pure trivial) fun _ => .throw _
    · exact .bind (ingest_unindexed lib unreadable engine (told rfl)) fun _ none => none.elim
  · refine addCommit_writes (fun _ eq => by cases eq) ?_
    exact .bind refreshDocument_writes fun _ _ => .pure trivial

variable {payload : DocumentUploadCompleteRequest}

theorem completeDocumentRow_unindexed (unreadable : ¬ Extractable lib file) :
    KeepsUnindexed documentId file
      (completeDocumentRow lib file.knowledgeBaseId documentId row payload) fun _ => True := by
  refine .bind writes_refuse fun _ _ => .bind writes_refuse fun _ _ => ?_
  refine addCommit_writes (fun _ eq => by cases eq) ?_
  refine .bind refreshDocument_writes fun row _ => ?_
  refine .bind refreshBase_writes fun base told => .ite (fun _ => ?_) fun _ => ?_
  · exact ingestUploaded_unindexed lib unreadable (told rfl)
  · exact .pure trivial

theorem completeDocumentUpload_unindexed (unreadable : ¬ Extractable lib file)
    {principal : Principal} {knowledgeBaseId : UUID} :
    KeepsUnindexed documentId file
      (completeDocumentUpload lib principal knowledgeBaseId documentId payload) fun _ => True := by
  refine .bind writes_requirePermission fun _ _ => writes_guarded ?_
  refine .bind getAccessibleBase_writes fun _ _ => ?_
  refine .bind getDocumentForTenant_writes fun row known => ?_
  obtain ⟨told, _, ofBase, _⟩ := known
  have same : knowledgeBaseId = file.knowledgeBaseId := ofBase.symm.trans (told rfl).knowledgeBaseId
  subst same
  exact completeDocumentRow_unindexed lib unreadable

theorem reingestKnowledgeDocument_unindexed (unreadable : ¬ Extractable lib file)
    {principal : Principal} {knowledgeBaseId : UUID} :
    KeepsUnindexed documentId file
      (reingestKnowledgeDocument lib principal knowledgeBaseId documentId) fun _ => True := by
  refine .bind writes_requirePermission fun _ _ => writes_guarded ?_
  refine .bind getAccessibleBase_writes fun base _ => ?_
  refine .bind getDocumentForTenant_writes fun row known => .bind writes_refuse ?_
  intro _ _
  obtain ⟨told, _, ofBase, _⟩ := known
  have same : knowledgeBaseId = file.knowledgeBaseId := ofBase.symm.trans (told rfl).knowledgeBaseId
  subst same
  refine .bind (told_of_writes (cleanupDocumentIndexes_writes lib fun _ => trivial)) ?_
  intro cleanup _
  refine .bind (Q := fun _ => True) ?_ fun _ _ => ?_
  · refine .ite (fun _ => .pure trivial) fun _ => ?_
    exact .bind writes_rollbackQuietly fun _ _ => .throw _
  refine addCommit_writes (fun _ eq => by cases eq) ?_
  refine .bind refreshDocument_writes fun row _ => ?_
  refine .bind refreshBase_writes fun _ _ => ?_
  refine .bind (completeDocumentRow_unindexed lib unreadable) fun response _ => ?_
  exact .bind writes_commit fun _ _ => .pure trivial

theorem endpoint_unindexed (unreadable : ¬ Extractable installation.lib file)
    (call : KnowledgeCall) (ingests : call.operation.Ingests) :
    KeepsUnindexed documentId file (call.endpoint installation) fun _ => True := by
  obtain ⟨principal, knowledgeBaseId, operation⟩ := call
  cases operation with
  | prepare payload =>
    refine .bind (prepareDocumentUpload_writes _ ?_) fun _ _ => .pure trivial
    intro _ _ _ _ w own
    cases own <;> trivial
  | complete id payload =>
    refine .bind (Q := fun _ => True) ?_ fun _ _ => .pure trivial
    by_cases same : id = documentId
    · subst same
      exact completeDocumentUpload_unindexed _ unreadable
    · refine completeDocumentUpload_writes _ fun _ _ _ w own => ?_
      cases own <;> first | exact fun eq => absurd eq same | trivial
  | reingest id =>
    refine .bind (Q := fun _ => True) ?_ fun _ _ => .pure trivial
    by_cases same : id = documentId
    · subst same
      exact reingestKnowledgeDocument_unindexed _ unreadable
    · refine reingestKnowledgeDocument_writes _ fun _ _ _ w own => ?_
      cases own <;> first | exact fun eq => absurd eq same | trivial
  | _ => exact ingests.elim

theorem CalmRun.unindexed (run : CalmRun installation database tables after)
    (unreadable : ¬ Extractable installation.lib file) (start : IsOfFile documentId file tables) :
    IsOfFile documentId file after :=
  run.keeps (fun _ _ _ _ held answered => readsFile held answered) (endpoint_unindexed unreadable)
    (fun _ _ _ leaves applied held => held.apply leaves applied) start

end Unreadable

section Housed

variable {installation : KnowledgeInstallation} {database : KnowledgeDatabase}
  {first tables after : KnowledgeTables}

def Housed (tables : KnowledgeTables) (row : KnowledgeDocument) : Prop :=
  ∃ base, tables.bases.get row.knowledgeBaseId = some base ∧ base.tenantId = row.tenantId ∧
    base.deletedAt = none

structure AllHoused (first tables : KnowledgeTables) : Prop where
  documents : ∀ id row, tables.documents.get id = some row → Housed first row
  bases : ∀ id, (tables.bases.get id).map (fun base => (base.tenantId, base.deletedAt)) =
    (first.bases.get id).map fun base => (base.tenantId, base.deletedAt)

def ReadsHouse (first : KnowledgeTables) : KnowledgeEvent → Prop
  | ⟨.ask (.getBase id), .ok (some base)⟩ =>
    (first.bases.get id).map (fun base => (base.tenantId, base.deletedAt)) =
      some (base.tenantId, base.deletedAt)
  | _ => True

def LeavesHoused (first : KnowledgeTables) : KnowledgeWrite → Prop
  | .insertDocument _ row => Housed first row
  | .updateBase _ loaded row => row.deletedAt = loaded.deletedAt
  | _ => True

theorem AllHoused.apply {w : KnowledgeWrite} (leaves : LeavesHoused first w)
    (applied : tables.apply w = some after) (held : AllHoused first tables) :
    AllHoused first after := by
  refine ⟨fun id row stored => ?_, fun id => ?_⟩
  · rw [KnowledgeTables.get_document_apply applied] at stored
    cases w with
    | insertDocument new inserted =>
      simp only at stored
      split at stored
      · cases stored
        exact leaves
      · exact held.documents id row stored
    | updateDocument changed loaded value =>
      obtain ⟨before, there, eq⟩ := Option.map_eq_some_iff.mp stored
      have housed := held.documents id before there
      rw [← eq]
      split
      · exact housed
      · exact housed
    | _ => exact held.documents id row stored
  · rw [← held.bases, KnowledgeTables.get_base_apply applied]
    cases w with
    | updateBase changed loaded value =>
      rw [Option.map_map]
      congr 1
      funext base
      simp only [Function.comp_apply]
      split
      · simp only [KnowledgeBase.update, show value.deletedAt = loaded.deletedAt from leaves,
          column_unchanged]
      · rfl
    | _ => rfl

theorem readsHouse {e : KnowledgeEffect} {r : KnowledgeAnswer e} (held : AllHoused first tables)
    (answered : tables.Answers database e r after) : ReadsHouse first ⟨e, r⟩ := by
  unfold ReadsHouse
  split
  · rename_i id base eq
    cases eq
    have honest : some base = tables.bases.get id := answered.2 _ rfl
    rw [← held.bases, ← honest]
    rfl
  · trivial

theorem endpoint_houses (call : KnowledgeCall) (ingests : call.operation.Ingests) :
    Told (ReadsHouse first) (LeavesHoused first) (call.endpoint installation) fun _ => True := by
  obtain ⟨principal, knowledgeBaseId, operation⟩ := call
  cases operation with
  | prepare payload =>
    refine .bind (prepareDocumentUpload_writes _ ?_) fun _ _ => .pure trivial
    intro base told own there w may
    cases may with
    | document id =>
      obtain ⟨house, stored, eq⟩ := Option.map_eq_some_iff.mp told
      obtain ⟨tenant, live⟩ := Prod.ext_iff.mp eq
      exact ⟨house, stored, tenant.trans own, live.trans there⟩
    | count => rfl
  | complete id payload =>
    refine .bind (Q := fun _ => True) ?_ fun _ _ => .pure trivial
    refine completeDocumentUpload_writes _ fun _ _ _ w own => ?_
    cases own <;> trivial
  | reingest id =>
    refine .bind (Q := fun _ => True) ?_ fun _ _ => .pure trivial
    refine reingestKnowledgeDocument_writes _ fun _ _ _ w own => ?_
    cases own <;> trivial
  | _ => exact ingests.elim

variable {ι : Type} [DecidableEq ι] {calls : ι → KnowledgeCall}
  {steps : List (Process.Taken ι KnowledgeEffect KnowledgeAnswer (Except Exc KnowledgeResponse)
    KnowledgeTables)}
  {c : Process.Config ι KnowledgeEffect KnowledgeAnswer (Except Exc KnowledgeResponse)
    KnowledgeTables}

theorem allHoused
    (run : Interleaved (knowledgeEnvironment database)
      (.start (fun i => (calls i).program installation) first) steps c)
    (ingests : ∀ i, (calls i).operation.Ingests) (empty : first.documents.entries = []) :
    AllHoused first c.shared := by
  have maintained : Process.Maintained (knowledgeEnvironment database)
      (.start (fun i => (calls i).program installation) first) (fun _ => True) (ReadsHouse first)
      (fun _ => CommitsOnly (LeavesHoused first)) (fun _ _ => True) (AllHoused first) := by
    refine ⟨fun _ _ _ _ held answered => readsHouse held answered, ?_, ?_, ?_, ?_⟩
    · intro i
      exact ((endpoint_houses (calls i) (ingests i)).run fun w mem => by cases mem).mono
        fun _ _ => trivial
    · intro step s' _ promised answered held
      exact promised.keeps (fun _ _ _ leaves applied held => held.apply leaves applied) answered held
    · intro s s' moved
      cases moved
    · refine ⟨fun id row stored => ?_, fun id => rfl⟩
      have mem : (id, row) ∈ first.documents.entries := OrderedDict.mem_entries_of_get stored
      rw [empty] at mem
      cases mem
  exact (maintained.within run fun _ _ => trivial).1

def completeAnew (row : KnowledgeDocument) (documentId : UUID) : KnowledgeCall where
  principal := { userId := 0, tenantId := row.tenantId, permissions := [.tenantAdmin] }
  knowledgeBaseId := row.knowledgeBaseId
  operation := .complete documentId { parserConfig := some {} }

theorem canBeIndexed_of_completable {row : KnowledgeDocument} {base : KnowledgeBase}
    {documentId : UUID} (stored : tables.documents.get documentId = some row)
    (baseStored : tables.bases.get row.knowledgeBaseId = some base)
    (able : base.ragEngine = .ragflow ∨ Extractable installation.lib row)
    (ready : row.status ∈ completable) (there : row.deletedAt = none)
    (baseThere : base.deletedAt = none) (ofTenant : base.tenantId = row.tenantId) :
    CanBeIndexed installation database tables documentId := by
  have administrator : (completeAnew row documentId).principal.isTenantAdmin = true := rfl
  obtain ⟨after, changed, ⟨response, comes⟩, done, indexed⟩ :=
    finishes_completeDocumentUpload installation.lib stored baseStored able ready there baseThere
      rfl ofTenant administrator
  have finished : ComesTo database ((completeAnew row documentId).endpoint installation) {} tables
      (.completed response) {} after := Process.Leads.bind comes Process.Leads.pure
  have run : Process.Program.Alone (calmEnvironment database)
      ((completeAnew row documentId).program installation) tables (.ok (.completed response))
      after := finished.run
  exact ⟨after, changed, .call (by exact trivial) run (.refl after), done, indexed⟩

theorem completable_of_live {row : KnowledgeDocument} (live : row.Live)
    (idle : row.status ≠ .ingesting) (unindexed : row.status ≠ .indexed) :
    row.status ∈ completable := by
  have undeleted := live.2
  cases status : row.status with
  | pendingUpload | uploaded | failed => decide
  | ingesting => exact absurd status idle
  | indexed => exact absurd status unindexed
  | deleted => exact absurd status undeleted

/-- A document that preparation, completion and renewed ingestion can reach is brought to the
index by some calm run of these, just when it is not ingesting, and is indexed already or can
be ingested at all. -/
theorem canBeIndexed_iff
    (run : Interleaved (knowledgeEnvironment database)
      (.start (fun i => (calls i).program installation) first) steps c)
    (ingests : ∀ i, (calls i).operation.Ingests) (empty : first.documents.entries = [])
    {documentId : UUID} {row : KnowledgeDocument}
    (stored : c.shared.documents.get documentId = some row) (live : row.Live) :
    CanBeIndexed installation database c.shared documentId ↔
      row.status ≠ .ingesting ∧
        (row.status = .indexed ∨ Ingestible installation.lib c.shared row) := by
  have housed := allHoused run ingests empty
  obtain ⟨house, inFirst, ofTenant, there⟩ := housed.documents documentId row stored
  obtain ⟨base, baseStored, eq⟩ : ∃ base, c.shared.bases.get row.knowledgeBaseId = some base ∧
      (base.tenantId, base.deletedAt) = (house.tenantId, house.deletedAt) := by
    refine Option.map_eq_some_iff.mp ((housed.bases row.knowledgeBaseId).trans ?_)
    rw [inFirst]
    rfl
  obtain ⟨tenant, alive⟩ := Prod.ext_iff.mp eq
  constructor
  · intro ⟨after, changed, path, done, indexed⟩
    refine ⟨fun ingesting => ?_, ?_⟩
    · obtain ⟨row', stored', status⟩ := path.ingesting ⟨row, stored, ingesting⟩
      rw [done] at stored'
      cases stored'
      rw [indexed] at status
      cases status
    · by_contra neither
      obtain ⟨unindexed, unable⟩ := not_or.mp neither
      have engine : base.ragEngine = .pgvector := by
        cases engine : base.ragEngine with
        | pgvector => rfl
        | ragflow => exact absurd ⟨base, baseStored, .inl engine⟩ unable
      have unreadable : ¬ Extractable installation.lib row :=
        fun able => unable ⟨base, baseStored, .inr able⟩
      obtain ⟨⟨row', stored', _, status⟩, _⟩ := path.unindexed unreadable
        ⟨⟨row, stored, ⟨rfl, rfl, rfl, rfl⟩, unindexed⟩, base, baseStored, engine⟩
      rw [done] at stored'
      cases stored'
      exact status indexed
  · intro ⟨idle, able⟩
    by_cases indexed : row.status = .indexed
    · exact ⟨c.shared, row, .refl _, stored, indexed⟩
    · obtain ⟨base', baseStored', able'⟩ := able.resolve_left indexed
      rw [baseStored] at baseStored'
      cases baseStored'
      exact canBeIndexed_of_completable stored baseStored able'
        (completable_of_live live idle indexed) live.1 (alive.trans there) (tenant.trans ofTenant)

end Housed

def externalBase : KnowledgeTables where
  bases := OrderedDict.empty.set 1 { tenantId := 1, ragEngine := .ragflow }
  documents := OrderedDict.empty
  chunks := OrderedDict.empty

def prepareAndComplete : Fin 2 → KnowledgeCall
  | 0 => administratorCall (.prepare { filename := "a.txt", sizeBytes := some 2 })
  | 1 => administratorCall (.complete 0 {})

def acceptingEngine : (s : OutsideService) → Except Exc (OutsideRow s)
  | .ragIngest _ => .ok { status := .accepted, message := "" }
  | s => plainServices s

def externalRun (turns : List (Fin 2)) :
    List (Process.Taken (Fin 2) KnowledgeEffect KnowledgeAnswer (Except Exc KnowledgeResponse)
      KnowledgeTables) ×
    Process.Config (Fin 2) KnowledgeEffect KnowledgeAnswer (Except Exc KnowledgeResponse)
      KnowledgeTables :=
  Process.takeTurns (KnowledgeTables.oracle plainDatabase acceptingEngine) turns
    (.start (fun i => (prepareAndComplete i).program plainInstallation) externalBase)

theorem externalRun_run (turns : List (Fin 2)) :
    Interleaved (knowledgeEnvironment plainDatabase)
      (.start (fun i => (prepareAndComplete i).program plainInstallation) externalBase)
      (externalRun turns).1 (externalRun turns).2 :=
  Process.takeTurns_run (KnowledgeTables.oracle_answers plainDatabase acceptingEngine) .start turns

theorem prepareAndComplete_ingests (i : Fin 2) : (prepareAndComplete i).operation.Ingests := by
  match i with
  | 0 => trivial
  | 1 => trivial

theorem prepared_can_be_indexed :
    CanBeIndexed plainInstallation plainDatabase (externalRun (List.replicate 20 0)).2.shared 0 := by
  have run := externalRun_run (List.replicate 20 0)
  have stored : (externalRun (List.replicate 20 0)).2.shared.documents.get 0 =
      some { tenantId := 1, knowledgeBaseId := 1, filename := "a.txt", sizeBytes := some 2 } := by
    decide +kernel
  have base : (externalRun (List.replicate 20 0)).2.shared.bases.get 1 =
      some { tenantId := 1, ragEngine := .ragflow } := by
    decide +kernel
  generalize externalRun (List.replicate 20 0) = reached at run stored base ⊢
  refine (canBeIndexed_iff run prepareAndComplete_ingests rfl stored (by decide)).mpr ?_
  exact ⟨(by intro eq; cases eq), .inr ⟨_, base, .inl rfl⟩⟩

theorem accepted_document_stuck :
    ¬ ∀ (installation : KnowledgeInstallation) (database : KnowledgeDatabase)
      (first : KnowledgeTables) (calls : Fin 2 → KnowledgeCall)
      (steps : List (Process.Taken (Fin 2) KnowledgeEffect KnowledgeAnswer
        (Except Exc KnowledgeResponse) KnowledgeTables))
      (c : Process.Config (Fin 2) KnowledgeEffect KnowledgeAnswer (Except Exc KnowledgeResponse)
        KnowledgeTables) (documentId : UUID) (row : KnowledgeDocument),
      Interleaved (knowledgeEnvironment database)
        (.start (fun i => (calls i).program installation) first) steps c →
      (∀ i, (calls i).operation.Ingests) → first.documents.entries = [] →
      c.shared.documents.get documentId = some row → row.Live →
      Ingestible installation.lib c.shared row →
      CanBeIndexed installation database c.shared documentId := by
  intro claimed
  have run := externalRun_run (List.replicate 20 0 ++ List.replicate 20 1)
  have stored : (externalRun (List.replicate 20 0 ++ List.replicate 20 1)).2.shared.documents.get 0 =
      some { tenantId := 1, knowledgeBaseId := 1, filename := "a.txt", sizeBytes := some 2
             status := .ingesting } := by
    decide +kernel
  have base : (externalRun (List.replicate 20 0 ++ List.replicate 20 1)).2.shared.bases.get 1 =
      some { tenantId := 1, ragEngine := .ragflow } := by
    decide +kernel
  generalize externalRun (List.replicate 20 0 ++ List.replicate 20 1) = reached at run stored base
  obtain ⟨after, row, path, done, indexed⟩ := claimed _ _ _ _ _ _ 0 _ run
    prepareAndComplete_ingests rfl stored (by decide) ⟨_, base, .inl rfl⟩
  obtain ⟨row', stored', status⟩ := path.ingesting ⟨_, stored, rfl⟩
  rw [done] at stored'
  cases stored'
  rw [indexed] at status
  cases status

end AgentHive
