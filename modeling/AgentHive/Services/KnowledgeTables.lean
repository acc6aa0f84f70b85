import AgentHive.Services.LicenseStatus
import AgentHive.Store.OrderedDict

/-!
Knowledge bases, their documents and the chunks of the documents: the rows, and
what a transaction makes of the tables.
-/

namespace AgentHive

inductive KnowledgeDocumentStatus
  | pendingUpload
  | uploaded
  | ingesting
  | indexed
  | failed
  | deleted
deriving DecidableEq

instance knowledgeDocumentStatusText : TextEnum KnowledgeDocumentStatus where
  value
    | .pendingUpload => "pending_upload"
    | .uploaded => "uploaded"
    | .ingesting => "ingesting"
    | .indexed => "indexed"
    | .failed => "failed"
    | .deleted => "deleted"
  all := [.pendingUpload, .uploaded, .ingesting, .indexed, .failed, .deleted]
  complete := by intro status; cases status <;> decide
  injective := by intro first second; cases first <;> cases second <;> decide

inductive KnowledgeBaseStatus
  | active
  | archived
deriving DecidableEq

inductive KnowledgeBaseVisibility
  | private_
  | department
  | tenant
deriving DecidableEq

inductive RAGEngineType
  | ragflow
  | pgvector
deriving DecidableEq

structure ParserConfig where
  isDict : Bool := true
  chunkSize : Option (Except Exc Int) := none
  chunkOverlap : Option (Except Exc Int) := none
deriving DecidableEq

structure EmbeddingResult where
  modelKey : String
  dimensions : Nat
  vector : List ℚ
  mode : String
deriving DecidableEq

/-- A row of `knowledge_bases` but for its id. The grants are those of its metadata. -/
structure KnowledgeBase where
  tenantId : UUID
  visibility : KnowledgeBaseVisibility := .tenant
  departmentIds : List UUID := []
  ragEngine : RAGEngineType := .ragflow
  status : KnowledgeBaseStatus := .active
  documentCount : Nat := 0
  ownerUserId : Option UUID := none
  readUserIds : List UUID := []
  writeUserIds : List UUID := []
  departmentMembersCanWrite : Bool := false
  deletedAt : Option Instant := none
deriving DecidableEq

structure KnowledgeDocument where
  tenantId : UUID
  knowledgeBaseId : UUID
  filename : String
  contentType : Option String := none
  sizeBytes : Option Nat := none
  checksumSha256 : Option String := none
  status : KnowledgeDocumentStatus := .pendingUpload
  ragDocumentId : Option String := none
  chunkCount : Nat := 0
  errorMessage : Option String := none
  parserConfig : ParserConfig := {}
  deletedAt : Option Instant := none
deriving DecidableEq

structure KnowledgeChunk where
  tenantId : UUID
  knowledgeBaseId : UUID
  documentId : UUID
  chunkIndex : Nat
  text : String
  tokenCount : Nat := 0
  sourceName : Option String := none
  searchText : String
  ftsText : Option String := none
  embedding : Option EmbeddingResult := none
  createdAt : Instant := 0
  updatedAt : Instant := 0
deriving DecidableEq

def KnowledgeDocument.Live (row : KnowledgeDocument) : Prop :=
  row.deletedAt = none ∧ row.status ≠ .deleted

instance (row : KnowledgeDocument) : Decidable row.Live := inferInstanceAs (Decidable (_ ∧ _))

def column {α : Type} [DecidableEq α] (stored loaded value : α) : α :=
  if value = loaded then stored else value

@[simp] theorem column_self {α : Type} [DecidableEq α] (loaded value : α) :
    column loaded loaded value = value := by
  unfold column
  split
  · rename_i same
    exact same.symm
  · rfl

@[simp] theorem column_unchanged {α : Type} [DecidableEq α] (stored loaded : α) :
    column stored loaded loaded = stored := if_pos rfl

theorem column_changed {α : Type} [DecidableEq α] {stored loaded value : α}
    (changed : value ≠ loaded) : column stored loaded value = value := if_neg changed

def KnowledgeBase.update (stored loaded row : KnowledgeBase) : KnowledgeBase :=
  { stored with
    status := column stored.status loaded.status row.status
    documentCount := column stored.documentCount loaded.documentCount row.documentCount
    deletedAt := column stored.deletedAt loaded.deletedAt row.deletedAt }

def KnowledgeDocument.update (stored loaded row : KnowledgeDocument) : KnowledgeDocument :=
  { stored with
    sizeBytes := column stored.sizeBytes loaded.sizeBytes row.sizeBytes
    checksumSha256 := column stored.checksumSha256 loaded.checksumSha256 row.checksumSha256
    status := column stored.status loaded.status row.status
    ragDocumentId := column stored.ragDocumentId loaded.ragDocumentId row.ragDocumentId
    chunkCount := column stored.chunkCount loaded.chunkCount row.chunkCount
    errorMessage := column stored.errorMessage loaded.errorMessage row.errorMessage
    parserConfig := column stored.parserConfig loaded.parserConfig row.parserConfig
    deletedAt := column stored.deletedAt loaded.deletedAt row.deletedAt }

structure KnowledgeTables where
  bases : OrderedDict UUID KnowledgeBase
  documents : OrderedDict UUID KnowledgeDocument
  chunks : OrderedDict UUID KnowledgeChunk

inductive KnowledgeWrite
  | insertDocument (id : UUID) (row : KnowledgeDocument)
  | updateDocument (id : UUID) (loaded row : KnowledgeDocument)
  | updateBase (id : UUID) (loaded row : KnowledgeBase)
  | insertChunk (id : UUID) (row : KnowledgeChunk)
  | setFtsText (chunkId : UUID) (ftsText : String)
  | setEmbedding (chunkId : UUID) (embedding : EmbeddingResult)
  | deleteChunks (ids : List UUID)
deriving DecidableEq

namespace KnowledgeTables

def apply (tables : KnowledgeTables) : KnowledgeWrite → Option KnowledgeTables
  | .insertDocument id row =>
    if id ∈ tables.documents.keys then none
    else some { tables with documents := tables.documents.set id row }
  | .updateDocument id loaded row =>
    some { tables with
      documents := tables.documents.mapValues fun k stored =>
        if k = id then stored.update loaded row else stored }
  | .updateBase id loaded row =>
    some { tables with
      bases := tables.bases.mapValues fun k stored =>
        if k = id then stored.update loaded row else stored }
  | .insertChunk id row =>
    if id ∈ tables.chunks.keys then none
    else some { tables with chunks := tables.chunks.set id row }
  | .setFtsText chunkId ftsText =>
    some { tables with
      chunks := tables.chunks.mapValues fun k stored =>
        if k = chunkId then { stored with ftsText := some ftsText } else stored }
  | .setEmbedding chunkId embedding =>
    some { tables with
      chunks := tables.chunks.mapValues fun k stored =>
        if k = chunkId then { stored with embedding := some embedding } else stored }
  | .deleteChunks ids =>
    some { tables with chunks := tables.chunks.filterKeys fun k => k ∉ ids }

def write (tables : KnowledgeTables) : List KnowledgeWrite → Option KnowledgeTables
  | [] => some tables
  | w :: rest => (tables.apply w).bind fun next => next.write rest

theorem write_append (tables : KnowledgeTables) (first second : List KnowledgeWrite) :
    tables.write (first ++ second) = (tables.write first).bind fun next => next.write second := by
  induction first generalizing tables with
  | nil => rfl
  | cons w rest ih =>
    simp only [List.cons_append, write, Option.bind_assoc]
    congr 1
    funext next
    exact ih next

theorem write_keeps {P : KnowledgeTables → Prop} {writes : List KnowledgeWrite}
    (step : ∀ tables after w, w ∈ writes → tables.apply w = some after → P tables → P after)
    {tables after : KnowledgeTables} (written : tables.write writes = some after)
    (start : P tables) : P after := by
  induction writes generalizing tables with
  | nil =>
    cases written
    exact start
  | cons w rest ih =>
    obtain ⟨next, first, others⟩ := Option.bind_eq_some_iff.mp written
    refine ih (fun tables after v mem => step tables after v (List.mem_cons_of_mem w mem)) others ?_
    exact step tables next w List.mem_cons_self first start

variable {tables after : KnowledgeTables} {w : KnowledgeWrite}

theorem write_reaches {I K : KnowledgeTables → Prop} {writes : List KnowledgeWrite}
    (mem : w ∈ writes)
    (holds : ∀ v ∈ writes, ∀ tables after, tables.apply v = some after → I tables → I after)
    (opens : ∀ tables after, tables.apply w = some after → I tables → K after)
    (stays : ∀ v ∈ writes, ∀ tables after, tables.apply v = some after → K tables → K after)
    (written : tables.write writes = some after) (start : I tables) : K after := by
  induction writes generalizing tables with
  | nil => cases mem
  | cons v rest ih =>
    obtain ⟨next, first, others⟩ := Option.bind_eq_some_iff.mp written
    obtain ⟨_, restHolds⟩ := List.forall_mem_cons.mp holds
    obtain ⟨_, restStays⟩ := List.forall_mem_cons.mp stays
    rcases List.mem_cons.mp mem with own | later
    · refine write_keeps (fun tables after v mem => restStays v mem tables after) others ?_
      rw [own] at opens
      exact opens tables next first start
    · exact ih later restHolds restStays others
        (holds v List.mem_cons_self tables next first start)

/-! What a statement does to the rows, table by table. -/

variable (applied : tables.apply w = some after)

include applied

theorem get_document_apply (d : UUID) :
    after.documents.get d =
      match w with
      | .insertDocument id row => if d = id then some row else tables.documents.get d
      | .updateDocument id loaded row =>
        (tables.documents.get d).map fun stored =>
          if d = id then stored.update loaded row else stored
      | _ => tables.documents.get d := by
  cases w with
  | insertDocument id row =>
    obtain ⟨-, ⟨⟩⟩ := Option.ite_none_left_eq_some.mp applied
    exact OrderedDict.get_set tables.documents id row d
  | updateDocument id loaded row =>
    cases applied
    exact OrderedDict.get_mapValues tables.documents _ d
  | insertChunk id row =>
    obtain ⟨-, ⟨⟩⟩ := Option.ite_none_left_eq_some.mp applied
    rfl
  | updateBase | setFtsText | setEmbedding | deleteChunks =>
    cases applied
    rfl

theorem get_base_apply (b : UUID) :
    after.bases.get b =
      match w with
      | .updateBase id loaded row =>
        (tables.bases.get b).map fun stored =>
          if b = id then stored.update loaded row else stored
      | _ => tables.bases.get b := by
  cases w with
  | updateBase id loaded row =>
    cases applied
    exact OrderedDict.get_mapValues tables.bases _ b
  | insertDocument id row | insertChunk id row =>
    obtain ⟨-, ⟨⟩⟩ := Option.ite_none_left_eq_some.mp applied
    rfl
  | updateDocument | setFtsText | setEmbedding | deleteChunks =>
    cases applied
    rfl

theorem get_chunk_apply (id : UUID) :
    after.chunks.get id =
      match w with
      | .insertChunk inserted row => if id = inserted then some row else tables.chunks.get id
      | .setFtsText chunkId ftsText =>
        (tables.chunks.get id).map fun stored =>
          if id = chunkId then { stored with ftsText := some ftsText } else stored
      | .setEmbedding chunkId embedding =>
        (tables.chunks.get id).map fun stored =>
          if id = chunkId then { stored with embedding := some embedding } else stored
      | .deleteChunks ids => if id ∈ ids then none else tables.chunks.get id
      | _ => tables.chunks.get id := by
  cases w with
  | insertDocument inserted row =>
    obtain ⟨-, ⟨⟩⟩ := Option.ite_none_left_eq_some.mp applied
    rfl
  | insertChunk inserted row =>
    obtain ⟨-, ⟨⟩⟩ := Option.ite_none_left_eq_some.mp applied
    exact OrderedDict.get_set tables.chunks inserted row id
  | setFtsText | setEmbedding =>
    cases applied
    exact OrderedDict.get_mapValues tables.chunks _ id
  | deleteChunks ids =>
    cases applied
    rw [OrderedDict.get_filterKeys]
    by_cases named : id ∈ ids
    · simp [named]
    · simp [named]
  | updateDocument | updateBase =>
    cases applied
    rfl

omit applied in
theorem fresh_of_insertDocument {id : UUID} {row : KnowledgeDocument}
    (applied : tables.apply (.insertDocument id row) = some after) :
    tables.documents.get id = none := by
  obtain ⟨fresh, -⟩ := Option.ite_none_left_eq_some.mp applied
  simpa [OrderedDict.mem_keys] using fresh

theorem document_kept {d : UUID} {P : KnowledgeDocument → Prop}
    (changed : ∀ loaded new row, w = .updateDocument d loaded new → P row → P (row.update loaded new))
    (held : ∃ row, tables.documents.get d = some row ∧ P row) :
    ∃ row, after.documents.get d = some row ∧ P row := by
  obtain ⟨row, stored, holds⟩ := held
  rw [get_document_apply applied]
  cases w with
  | insertDocument id new =>
    have other : d ≠ id := by
      intro same
      rw [same, fresh_of_insertDocument applied] at stored
      cases stored
    exact ⟨row, (if_neg other).trans stored, holds⟩
  | updateDocument id loaded new =>
    rw [stored]
    by_cases own : d = id
    · exact ⟨row.update loaded new, by simp [own], changed loaded new row (by rw [own]) holds⟩
    · exact ⟨row, by simp [own], holds⟩
  | _ => exact ⟨row, stored, holds⟩

theorem base_kept {b : UUID} {P : KnowledgeBase → Prop}
    (changed : ∀ loaded new base, w = .updateBase b loaded new → P base → P (base.update loaded new))
    (held : ∃ base, tables.bases.get b = some base ∧ P base) :
    ∃ base, after.bases.get b = some base ∧ P base := by
  obtain ⟨base, stored, holds⟩ := held
  rw [get_base_apply applied]
  cases w with
  | updateBase id loaded new =>
    rw [stored]
    by_cases own : b = id
    · exact ⟨base.update loaded new, by simp [own], changed loaded new base (by rw [own]) holds⟩
    · exact ⟨base, by simp [own], holds⟩
  | _ => exact ⟨base, stored, holds⟩

theorem base_of_apply {b : UUID} {base : KnowledgeBase}
    (stored : tables.bases.get b = some base) :
    ∃ base', after.bases.get b = some base' ∧ base'.tenantId = base.tenantId ∧
      base'.ragEngine = base.ragEngine :=
  base_kept applied (fun _ _ _ _ same => same) ⟨base, stored, rfl, rfl⟩

theorem base_of_applied {b : UUID} {base : KnowledgeBase}
    (stored : after.bases.get b = some base) :
    ∃ base', tables.bases.get b = some base' ∧ base.ragEngine = base'.ragEngine := by
  rw [get_base_apply applied] at stored
  cases w with
  | updateBase id loaded row =>
    obtain ⟨base', before, rfl⟩ := Option.map_eq_some_iff.mp stored
    refine ⟨base', before, ?_⟩
    split <;> rfl
  | _ => exact ⟨base, stored, rfl⟩

theorem document_of_apply {d : UUID}
    (stored : ∃ row, tables.documents.get d = some row) :
    ∃ row, after.documents.get d = some row := by
  have kept := document_kept (d := d) (P := fun _ => True) applied fun _ _ _ _ _ => trivial
  simpa using kept (by simpa using stored)

end KnowledgeTables
end AgentHive
