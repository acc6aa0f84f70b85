import AgentHive.Services.KnowledgeWrites

/-!
The document count of a base over a run of calls one after another.
-/

namespace AgentHive

open Process (Action)

def KnowledgeCall.Succeeds (installation : KnowledgeInstallation) (database : KnowledgeDatabase)
    (call : KnowledgeCall) (before : KnowledgeTables) (response : KnowledgeResponse)
    (after : KnowledgeTables) : Prop :=
  Process.Program.Alone (knowledgeEnvironment database) (call.program installation) before
    (.ok response) after

structure ServedCall where
  before : KnowledgeTables
  call : KnowledgeCall
  after : KnowledgeTables

inductive ServedRun (installation : KnowledgeInstallation) (database : KnowledgeDatabase) :
    KnowledgeTables → List ServedCall → Prop
  | nil (tables : KnowledgeTables) : ServedRun installation database tables []
  | cons {tables after : KnowledgeTables} {call : KnowledgeCall} {response : KnowledgeResponse}
      {later : List ServedCall} (served : call.Succeeds installation database tables response after)
      (rest : ServedRun installation database after later) :
      ServedRun installation database tables (⟨tables, call, after⟩ :: later)

def KnowledgeCall.OnDocumentsOf (call : KnowledgeCall) (knowledgeBaseId : UUID) : Prop :=
  call.knowledgeBaseId = knowledgeBaseId ∧
    match call.operation with
    | .deleteBase | .retrieve _ => False
    | _ => True

def CountExact (knowledgeBaseId : UUID) (tables : KnowledgeTables) : Prop :=
  ∃ base, tables.bases.get knowledgeBaseId = some base ∧
    base.documentCount = (tables.documentsOf base.tenantId knowledgeBaseId).length

def ServedCall.Recounts (step : ServedCall) : Prop :=
  match step.call.operation with
  | .prepare _ | .upload _ => True
  | .deleteDocument documentId => ∃ row, step.before.documents.get documentId = some row ∧ row.Live
  | _ => False

namespace KnowledgeTables

def directory (tables : KnowledgeTables) : List (UUID × UUID × UUID × Bool) :=
  tables.documents.entries.map fun e =>
    (e.1, e.2.tenantId, e.2.knowledgeBaseId, decide e.2.Live)

def counts (tenantId knowledgeBaseId : UUID) (entry : UUID × UUID × UUID × Bool) : Bool :=
  entry.2.1 == tenantId && entry.2.2.1 == knowledgeBaseId && entry.2.2.2

variable {tables after : KnowledgeTables}

theorem length_documentsOf (tables : KnowledgeTables) (tenantId knowledgeBaseId : UUID) :
    (tables.documentsOf tenantId knowledgeBaseId).length =
      tables.directory.countP (counts tenantId knowledgeBaseId) := by
  rw [documentsOf, directory, List.countP_map, List.countP_eq_length_filter]
  rfl

structure SameCount (tables after : KnowledgeTables) : Prop where
  bases : after.bases = tables.bases
  directory : after.directory = tables.directory

variable {knowledgeBaseId : UUID}

theorem SameCount.countExact (same : tables.SameCount after) :
    CountExact knowledgeBaseId after ↔ CountExact knowledgeBaseId tables := by
  simp only [CountExact, length_documentsOf, same.bases, same.directory]

variable {documentId : UUID} {row : KnowledgeDocument}

theorem mem_directory_of_get (stored : tables.documents.get documentId = some row) :
    (documentId, row.tenantId, row.knowledgeBaseId, decide row.Live) ∈ tables.directory :=
  List.mem_map.mpr ⟨(documentId, row), OrderedDict.mem_entries_of_get stored, rfl⟩

theorem sameCount_of_ingestWrite {size : Option Nat} {first : KnowledgeTables} {w : KnowledgeWrite}
    (live : ∀ e ∈ first.directory, e.1 = documentId → e.2.2.2 = true)
    (own : IngestWrite size documentId w) (applied : tables.apply w = some after)
    (same : first.SameCount tables) : first.SameCount after := by
  cases own with
  | @document loaded row update =>
    cases applied
    refine ⟨same.bases, Eq.trans ?_ same.directory⟩
    simp only [directory, OrderedDict.mapValues, List.map_map]
    refine List.map_congr_left fun e mem => ?_
    simp only [Function.comp_apply]
    split
    · rename_i this
      have seen : decide e.2.Live = true := by
        refine live (e.1, e.2.tenantId, e.2.knowledgeBaseId, decide e.2.Live) ?_ this
        rw [← same.directory]
        exact List.mem_map.mpr ⟨e, mem, rfl⟩
      have stays : (e.2.update loaded row).Live := by
        obtain ⟨kept, status⟩ := of_decide_eq_true seen
        refine ⟨?_, ?_⟩
        · simp only [KnowledgeDocument.update, update.deletedAt, column_unchanged, kept]
        · simp only [KnowledgeDocument.update, column]
          split
          · exact status
          · exact update.notDeleted
      rw [decide_eq_true stays, seen]
      rfl
    · rfl
  | chunk own =>
    obtain ⟨-, ⟨⟩⟩ := Option.ite_none_left_eq_some.mp applied
    exact ⟨same.bases, same.directory⟩
  | ftsText | embedding | chunks =>
    cases applied
    exact ⟨same.bases, same.directory⟩

theorem live_of_get (stored : tables.documents.get documentId = some row) (live : row.Live) :
    ∀ e ∈ tables.directory, e.1 = documentId → e.2.2.2 = true := by
  intro e mem same
  obtain ⟨entry, inDocuments, eq⟩ := List.mem_map.mp mem
  subst eq
  subst same
  have found := OrderedDict.get_of_mem_entries inDocuments
  rw [stored] at found
  cases found
  exact decide_eq_true live

theorem directory_of_insertDocument {principal : Principal} {payload : DocumentUploadPrepareRequest}
    (applied : tables.apply (.insertDocument documentId
      (KnowledgeService.preparedDocument principal knowledgeBaseId payload)) = some after) :
    after.bases = tables.bases ∧ after.directory =
      tables.directory ++ [(documentId, principal.tenantId, knowledgeBaseId, true)] := by
  obtain ⟨fresh, ⟨⟩⟩ := Option.ite_none_left_eq_some.mp applied
  refine ⟨rfl, ?_⟩
  simp only [directory, OrderedDict.entries_set, if_neg fresh, List.map_append]
  rfl

def withdrawn (documentId : UUID) (entry : UUID × UUID × UUID × Bool) : UUID × UUID × UUID × Bool :=
  if entry.1 = documentId then (entry.1, entry.2.1, entry.2.2.1, false) else entry

theorem directory_of_deletion {now : Instant} (stored : tables.documents.get documentId = some row)
    (applied : tables.apply (.updateDocument documentId row
      (KnowledgeService.deletedDocument row now)) = some after) :
    after.bases = tables.bases ∧
      after.directory = tables.directory.map (withdrawn documentId) := by
  cases applied
  refine ⟨rfl, ?_⟩
  simp only [directory, OrderedDict.mapValues, List.map_map]
  refine List.map_congr_left fun e mem => ?_
  simp only [Function.comp_apply, withdrawn]
  split
  · rename_i same
    have found := OrderedDict.get_of_mem_entries mem
    rw [same, stored] at found
    cases found
    have gone : ¬ (e.2.update e.2 (KnowledgeService.deletedDocument e.2 now)).Live := by
      intro live
      exact live.2 (column_self e.2.status .deleted)
    rw [decide_eq_false gone]
    rfl
  · rfl

theorem counts_withdrawn (tenantId knowledgeBaseId documentId : UUID)
    (entry : UUID × UUID × UUID × Bool) :
    counts tenantId knowledgeBaseId (withdrawn documentId entry) =
      (decide (entry.1 ≠ documentId) && counts tenantId knowledgeBaseId entry) := by
  rw [withdrawn]
  split
  · simp [counts, *]
  · simp [*]

theorem length_of_withdrawn {tenantId : UUID} (stored : tables.documents.get documentId = some row)
    (ofTenant : row.tenantId = tenantId) (ofBase : row.knowledgeBaseId = knowledgeBaseId)
    (directory : after.directory = tables.directory.map (withdrawn documentId)) :
    (after.documentsOf tenantId knowledgeBaseId).length =
      (tables.documentsOf tenantId knowledgeBaseId).length ↔ ¬ row.Live := by
  rw [length_documentsOf, length_documentsOf, directory, List.countP_map]
  have split : counts tenantId knowledgeBaseId ∘ withdrawn documentId = fun entry =>
      decide (entry.1 ≠ documentId) && counts tenantId knowledgeBaseId entry := by
    funext entry
    exact counts_withdrawn tenantId knowledgeBaseId documentId entry
  rw [split, List.countP_eq_length_filter, List.countP_eq_length_filter, ← List.filter_filter,
    List.length_filter_eq_length_iff]
  constructor
  · intro untouched live
    have mem := mem_directory_of_get stored
    have counted : counts tenantId knowledgeBaseId
        (documentId, row.tenantId, row.knowledgeBaseId, decide row.Live) = true := by
      simp [counts, ofTenant, ofBase, live]
    exact of_decide_eq_true (untouched _ (List.mem_filter.mpr ⟨mem, counted⟩)) rfl
  · intro gone entry mem
    obtain ⟨inDirectory, counted⟩ := List.mem_filter.mp mem
    refine decide_eq_true fun same => gone ?_
    obtain ⟨e, inDocuments, eq⟩ := List.mem_map.mp inDirectory
    subst eq
    have found := OrderedDict.get_of_mem_entries inDocuments
    rw [show e.1 = documentId from same, stored] at found
    cases found
    exact of_decide_eq_true (Bool.and_eq_true_iff.mp counted).2

def Recorded (tables after : KnowledgeTables) (tenantId knowledgeBaseId : UUID) : Prop :=
  ∃ base, after.bases.get knowledgeBaseId = some base ∧ base.tenantId = tenantId ∧
    base.documentCount = (tables.documentsOf tenantId knowledgeBaseId).length

theorem Recorded.countExact_iff {tenantId : UUID}
    (recorded : tables.Recorded after tenantId knowledgeBaseId) :
    CountExact knowledgeBaseId after ↔
      (after.documentsOf tenantId knowledgeBaseId).length =
        (tables.documentsOf tenantId knowledgeBaseId).length := by
  obtain ⟨base, stored, own, count⟩ := recorded
  constructor
  · intro exact
    obtain ⟨base', stored', count'⟩ := exact
    rw [stored] at stored'
    cases stored'
    rw [← count, count', own]
  · intro same
    exact ⟨base, stored, by rw [count, own, same]⟩

theorem recorded_of_apply {base : KnowledgeBase} {middle : KnowledgeTables}
    (stored : middle.bases.get knowledgeBaseId = some base)
    (applied : middle.apply (.updateBase knowledgeBaseId base
      { base with documentCount := (tables.documentsOf base.tenantId knowledgeBaseId).length }) =
        some after) :
    tables.Recorded after base.tenantId knowledgeBaseId ∧ after.directory = middle.directory := by
  cases applied
  let counted : KnowledgeBase :=
    { base with documentCount := (tables.documentsOf base.tenantId knowledgeBaseId).length }
  refine ⟨⟨base.update base counted, ?_, rfl, ?_⟩, rfl⟩
  · simp only [OrderedDict.get_mapValues, stored, Option.map_some, if_true]
    rfl
  · exact column_self base.documentCount _

end KnowledgeTables

namespace KnowledgeService

open KnowledgeSession KnowledgeTables

variable {database : KnowledgeDatabase} {tables : KnowledgeTables} {notes : RunNotes}
  (lib : KnowledgeLibrary) {principal : Principal} {knowledgeBaseId documentId : UUID}

theorem ingest_sameCount {m : KnowledgeSession DocumentUploadCompleteResponse} {size : Option Nat}
    (h : Writes (IngestWrite size documentId) m fun _ => True) {row : KnowledgeDocument}
    (stored : tables.documents.get documentId = some row) (live : row.Live) :
    Returns database m {} tables notes fun _ _ after _ => tables.SameCount after := by
  have kept : Returns database m {} tables notes fun _ left after _ =>
      tables.SameCount after ∧ (∀ w ∈ left.writes, IngestWrite size documentId w) ∧ True :=
    returns_of_writes h (fun _ _ _ own => sameCount_of_ingestWrite (live_of_get stored live) own)
      (fun w mem => by cases mem) ⟨rfl, rfl⟩
  exact kept.mono fun _ _ _ _ post => post.1

theorem completeDocumentUpload_sameCount {payload : DocumentUploadCompleteRequest} :
    Returns database (completeDocumentUpload lib principal knowledgeBaseId documentId payload) {}
      tables notes fun _ _ after _ => tables.SameCount after := by
  refine .seq (.refuse fun _ => .guarded ?_)
  refine .seq (getAccessibleBase_returns fun base _ _ _ => ?_)
  refine .seq (getDocumentForTenant_returns fun row stored _ _ there => ?_)
  by_cases deleted : row.status = .deleted
  · exact .seq (.refuse fun passed => absurd deleted passed)
  · exact ingest_sameCount (completeDocumentRow_writes lib fun w own => own) stored ⟨there, deleted⟩

theorem reingestKnowledgeDocument_sameCount :
    Returns database (reingestKnowledgeDocument lib principal knowledgeBaseId documentId) {}
      tables notes fun _ _ after _ => tables.SameCount after := by
  refine .seq (.refuse fun _ => .guarded ?_)
  refine .seq (getAccessibleBase_returns fun base _ _ _ => ?_)
  refine .seq (getDocumentForTenant_returns fun row stored _ _ there => ?_)
  by_cases deleted : row.status = .deleted
  · refine .seq (.refuse fun passed => ?_)
    rw [deleted] at passed
    exact absurd (by decide) passed
  · exact ingest_sameCount (reingestDocumentRow_writes lib fun w own => own) stored ⟨there, deleted⟩

theorem ensureLicenseCapacity_returns {tenantId : UUID} {increment : Nat} {P : Post Unit}
    (h : ∀ left noted, left.writes = [] → P () left tables noted) :
    Returns database (ensureLicenseCapacity lib tenantId increment) {} tables notes P := by
  have kept : Returns database (ensureLicenseCapacity lib tenantId increment) {} tables notes
      fun _ left after _ => after = tables ∧ (∀ w ∈ left.writes, False) ∧ True :=
    returns_of_writes (ensureLicenseCapacity_writes lib) (fun _ _ _ none => none.elim)
      (fun w mem => by cases mem) rfl
  refine kept.mono fun _ left after noted post => ?_
  rw [post.1]
  exact h left noted (List.eq_nil_iff_forall_not_mem.mpr post.2.1)

theorem prepareDocumentUpload_count {payload : DocumentUploadPrepareRequest} :
    Returns database (prepareDocumentUpload lib principal knowledgeBaseId payload) {} tables notes
      fun prepared left after _ => left = {} ∧
        tables.Recorded after principal.tenantId knowledgeBaseId ∧
        after.directory =
          tables.directory ++ [(prepared.1, principal.tenantId, knowledgeBaseId, true)] := by
  refine .seq (.refuse fun _ => .seq (.refuse fun _ => .guarded ?_))
  refine .seq (getAccessibleBase_returns fun base stored own _ => ?_)
  refine .seq (ensureLicenseCapacity_returns lib fun left noted clean => ?_)
  refine .seq (.newIds fun ids _ => .seq (.service fun _ => .seq (.add ?_)))
  refine .seq (.ask (.seq (.add (.seq (.commit fun after written => ?_)))))
  refine .seq (refreshDocument_returns fun row _ => ?_)
  refine .seq (refreshBase_returns fun _ _ => .pure ?_)
  simp only [clean, List.nil_append, List.singleton_append, KnowledgeTables.write,
    Option.bind_eq_some_iff] at written
  obtain ⟨middle, inserted, _, updated, same⟩ := written
  cases same
  obtain ⟨bases, directory⟩ := directory_of_insertDocument inserted
  rw [← own] at updated directory ⊢
  obtain ⟨recorded, unchanged⟩ := recorded_of_apply (bases ▸ stored) updated
  exact ⟨rfl, recorded, unchanged.trans directory⟩

theorem prepared_not_exact {prepared : UUID} {after : KnowledgeTables}
    (recorded : tables.Recorded after principal.tenantId knowledgeBaseId)
    (directory : after.directory =
      tables.directory ++ [(prepared, principal.tenantId, knowledgeBaseId, true)]) :
    ¬ CountExact knowledgeBaseId after := by
  rw [recorded.countExact_iff, length_documentsOf, length_documentsOf, directory,
    List.countP_append]
  simp [counts]

theorem uploadDocumentFile_not_exact {file : DocumentFile} :
    Returns database (uploadDocumentFile lib principal knowledgeBaseId file) {} tables notes
      fun _ _ after _ => ¬ CountExact knowledgeBaseId after := by
  refine .bind (prepareDocumentUpload_count lib) fun prepared left middle noted post => ?_
  obtain ⟨rfl, recorded, directory⟩ := post
  have wrong := prepared_not_exact recorded directory
  refine .seq (.tryCatch (.service fun stored => ?_) fun x left after noted => ?_)
  · refine (completeDocumentUpload_sameCount lib).mono fun _ _ after _ same => ?_
    exact fun exact => wrong (same.countExact.mp exact)
  · refine .ite (fun _ => .bind .any fun _ _ _ _ _ => .throw _) fun _ => .throw _

theorem beside_of_deleteChunks {first after : KnowledgeTables} {w : KnowledgeWrite}
    (own : ∃ ids, w = .deleteChunks ids) (applied : tables.apply w = some after)
    (beside : tables.bases = first.bases ∧ tables.documents = first.documents) :
    after.bases = first.bases ∧ after.documents = first.documents := by
  obtain ⟨ids, eq⟩ := own
  subst eq
  cases applied
  exact beside

theorem deleteKnowledgeDocument_count :
    Returns database (deleteKnowledgeDocument lib principal knowledgeBaseId documentId) {} tables
      notes fun _ _ after _ => tables.Recorded after principal.tenantId knowledgeBaseId ∧
        after.directory = tables.directory.map (withdrawn documentId) ∧
        ∃ row, tables.documents.get documentId = some row ∧ row.tenantId = principal.tenantId ∧
          row.knowledgeBaseId = knowledgeBaseId := by
  refine .seq (.refuse fun _ => .guarded ?_)
  refine .seq (getAccessibleBase_returns fun base baseStored own _ => ?_)
  refine .seq (getDocumentForTenant_returns fun row stored ofTenant ofBase _ => ?_)
  have cleaned : Returns database (cleanupDocumentIndexesAndObject lib base documentId row) {}
      tables notes fun _ left after _ => (after.bases = tables.bases ∧
        after.documents = tables.documents) ∧ (∀ w ∈ left.writes, ∃ ids, w = .deleteChunks ids) ∧
        True :=
    returns_of_writes (cleanupWithObject_writes lib fun ids => ⟨ids, rfl⟩)
      (fun _ _ _ own => beside_of_deleteChunks own) (fun w mem => by cases mem) ⟨rfl, rfl⟩
  refine .bind cleaned fun _ left middle noted post => ?_
  obtain ⟨⟨bases, documents⟩, onlyChunks, -⟩ := post
  refine .seq (.utcNow fun now => .seq (.seq (.ask (.add ?_))))
  refine .seq (.add (.seq (.ask (.seq (.add (.seq (.commit fun after written => .pure ?_)))))))
  have cleared : ∀ {t}, middle.write (left.writes ++ [.deleteChunks (middle.read database
      (.deleteChunks (.ofDocument principal.tenantId knowledgeBaseId documentId)))]) = some t →
      t.bases = tables.bases ∧ t.documents = tables.documents := by
    intro t written
    refine KnowledgeTables.write_keeps (fun _ _ w mem => beside_of_deleteChunks ?_) written
      ⟨bases, documents⟩
    rcases List.mem_append.mp mem with earlier | last
    · exact onlyChunks w earlier
    · exact ⟨_, List.mem_singleton.mp last⟩
  rw [write_append, write_append, Option.bind_assoc] at written
  obtain ⟨emptied, first, rest⟩ := Option.bind_eq_some_iff.mp written
  obtain ⟨bases', documents'⟩ := cleared first
  simp only [KnowledgeTables.write, Option.bind_eq_some_iff] at rest
  obtain ⟨marked, ⟨_, marks, same⟩, _, counts, last⟩ := rest
  cases same
  cases last
  obtain ⟨unchanged, withdrawing⟩ := directory_of_deletion (documents' ▸ stored) marks
  have listed : middle.read database (.countDocuments principal.tenantId knowledgeBaseId) =
      (tables.documentsOf principal.tenantId knowledgeBaseId).length := by
    change (middle.documentsOf principal.tenantId knowledgeBaseId).length = _
    rw [documentsOf, documents, documentsOf]
  rw [listed, ← own] at counts
  obtain ⟨recorded, directory⟩ := recorded_of_apply (by rw [unchanged, bases', baseStored]) counts
  refine ⟨own ▸ recorded, directory.trans (withdrawing.trans ?_), row, stored, ofTenant, ofBase⟩
  rw [KnowledgeTables.directory, documents']
  rfl

end KnowledgeService

open KnowledgeSession KnowledgeService KnowledgeTables

section Calls

variable {installation : KnowledgeInstallation} {database : KnowledgeDatabase}
  {tables after : KnowledgeTables} {knowledgeBaseId : UUID} {call : KnowledgeCall}
  {response : KnowledgeResponse}

theorem KnowledgeCall.Succeeds.left {P : Post KnowledgeResponse}
    {Q : Prop} (served : call.Succeeds installation database tables response after)
    (h : Returns database (call.endpoint installation) {} tables {} P)
    (imp : ∀ left noted, P response left after noted → Q) : Q := by
  obtain ⟨noted, run⟩ := Process.Program.Alone.observed (m := runNotes) served {}
  have ended := Process.Action.From.of_alone (Q := fun r s => ∀ a, r = .ok a →
    ∃ left, P a left s.1 s.2) (h.ends.mono fun r left s post a eq => ⟨left, post a eq⟩) run
  obtain ⟨left, post⟩ := ended response rfl
  exact imp left noted post

theorem recounts_iff (served : call.Succeeds installation database tables response after)
    (onBase : call.OnDocumentsOf knowledgeBaseId) (exact : CountExact knowledgeBaseId tables) :
    CountExact knowledgeBaseId after ↔ ¬ (ServedCall.mk tables call after).Recounts := by
  obtain ⟨principal, base, operation⟩ := call
  obtain ⟨same, documents⟩ := onBase
  subst same
  cases operation with
  | prepare payload =>
    refine served.left (P := fun _ _ after _ => ¬ CountExact base after) ?_ ?_
    · refine .bind (prepareDocumentUpload_count installation.lib) fun _ _ _ _ post => .pure ?_
      exact prepared_not_exact post.2.1 post.2.2
    · exact fun left noted wrong => iff_of_false wrong fun not => not trivial
  | upload file =>
    refine served.left (P := fun _ _ after _ => ¬ CountExact base after) ?_ ?_
    · exact .bind (uploadDocumentFile_not_exact installation.lib) fun _ _ _ _ wrong => .pure wrong
    · exact fun left noted wrong => iff_of_false wrong fun not => not trivial
  | complete documentId payload =>
    refine served.left (P := fun _ _ after _ => tables.SameCount after) ?_ ?_
    · exact .bind (completeDocumentUpload_sameCount _) fun _ _ _ _ same => .pure same
    · exact fun left noted same => iff_of_true (same.countExact.mpr exact) id
  | reingest documentId =>
    refine served.left (P := fun _ _ after _ => tables.SameCount after) ?_ ?_
    · exact .bind (reingestKnowledgeDocument_sameCount _) fun _ _ _ _ same => .pure same
    · exact fun left noted same => iff_of_true (same.countExact.mpr exact) id
  | deleteDocument documentId =>
    refine served.left (P := fun _ _ after _ => tables.Recorded after principal.tenantId base ∧
      after.directory = tables.directory.map (withdrawn documentId) ∧
      ∃ row, tables.documents.get documentId = some row ∧ row.tenantId = principal.tenantId ∧
        row.knowledgeBaseId = base) ?_ ?_
    · exact .bind (deleteKnowledgeDocument_count installation.lib) fun _ _ _ _ post => .pure post
    intro left noted post
    obtain ⟨recorded, directory, row, stored, ofTenant, ofBase⟩ := post
    rw [recorded.countExact_iff, length_of_withdrawn stored ofTenant ofBase directory]
    refine not_congr ⟨fun live => ⟨row, stored, live⟩, fun ⟨found, there, live⟩ => ?_⟩
    rw [stored] at there
    cases there
    exact live
  | deleteBase => exact documents.elim
  | retrieve request => exact documents.elim

/-- The recorded count is exact after every call of a run exactly when no call of it adds
a document or takes one away. -/
theorem documentCount_exact_iff {steps : List ServedCall}
    (run : ServedRun installation database tables steps)
    (onBase : ∀ step ∈ steps, step.call.OnDocumentsOf knowledgeBaseId)
    (start : CountExact knowledgeBaseId tables) :
    (∀ step ∈ steps, CountExact knowledgeBaseId step.after) ↔ ∀ step ∈ steps, ¬ step.Recounts := by
  induction run with
  | nil => exact iff_of_true (fun _ mem => by cases mem) fun _ mem => by cases mem
  | cons served rest ih =>
    obtain ⟨first, others⟩ := List.forall_mem_cons.mp onBase
    rw [List.forall_mem_cons, List.forall_mem_cons]
    have one := recounts_iff served first start
    constructor
    · intro ⟨exact, later⟩
      exact ⟨one.mp exact, (ih others exact).mp later⟩
    · intro ⟨quiet, later⟩
      have exact := one.mpr quiet
      exact ⟨exact, (ih others exact).mpr later⟩

end Calls

theorem servedRun_single {call : KnowledgeCall} {tables : KnowledgeTables}
    (succeeds : (call.served tables).1.toBool = true) :
    ServedRun plainInstallation plainDatabase tables [⟨tables, call, (call.served tables).2⟩] := by
  obtain ⟨response, returned⟩ := Process.Fallible.exists_of_toBool succeeds
  have run := call.served_alone tables
  rw [returned] at run
  exact .cons run (.nil _)

theorem completed_counted :
    CountExact 1 ((administratorCall (.complete 7 {})).served onePending).2 := by
  have run : ServedRun plainInstallation plainDatabase onePending
      [⟨onePending, administratorCall (.complete 7 {}),
        ((administratorCall (.complete 7 {})).served onePending).2⟩] :=
    servedRun_single (by decide +kernel)
  have exact : CountExact 1 onePending := ⟨_, rfl, by decide +kernel⟩
  refine (documentCount_exact_iff run ?_ exact).mpr ?_ _ List.mem_cons_self
  · intro step mem
    cases List.mem_singleton.mp mem
    exact ⟨rfl, trivial⟩
  · intro step mem
    cases List.mem_singleton.mp mem
    exact id

theorem first_document_not_counted :
    ¬ ∀ (installation : KnowledgeInstallation) (database : KnowledgeDatabase)
      (tables : KnowledgeTables) (steps : List ServedCall) (knowledgeBaseId : UUID),
      ServedRun installation database tables steps →
      (∀ step ∈ steps, step.call.OnDocumentsOf knowledgeBaseId) →
      CountExact knowledgeBaseId tables →
      ∀ step ∈ steps, CountExact knowledgeBaseId step.after := by
  intro claimed
  let call := administratorCall (.prepare { filename := "a.txt", sizeBytes := some 2 })
  have run : ServedRun plainInstallation plainDatabase emptyBase
      [⟨emptyBase, call, (call.served emptyBase).2⟩] := servedRun_single (by decide +kernel)
  have onBase : ∀ step ∈ [(⟨emptyBase, call, (call.served emptyBase).2⟩ : ServedCall)],
      step.call.OnDocumentsOf 1 := by
    intro step mem
    cases List.mem_singleton.mp mem
    exact ⟨rfl, trivial⟩
  obtain ⟨base, stored, count⟩ :=
    claimed _ _ _ _ 1 run onBase ⟨_, rfl, by decide +kernel⟩ _ List.mem_cons_self
  have recorded : (call.served emptyBase).2.bases.get 1 =
      some { tenantId := 1, ragEngine := .pgvector } := by
    decide +kernel
  have there : ((call.served emptyBase).2.documentsOf 1 1).length = 1 := by
    decide +kernel
  rw [recorded] at stored
  cases stored
  rw [there] at count
  cases count

end AgentHive
