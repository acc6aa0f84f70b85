import AgentHive.Services.KnowledgeOperations

/-!
Rules for a session that runs alone: what each of its steps makes of the tables,
and of what is noted about the way the run takes.
-/

namespace AgentHive

open Process (Action)
open Process.Action (From from_bind from_get from_perform from_throw)

structure RunNotes where
  committed : Nat := 0
  object : Option Bytes := none
  embeddingFailed : Bool := false
deriving DecidableEq

namespace RunNotes

variable (notes : RunNotes)

def readObject (raw : Bytes) : RunNotes := { notes with object := some raw }

def failEmbedding : RunNotes := { notes with embeddingFailed := true }

def countCommit : RunNotes := { notes with committed := notes.committed + 1 }

@[simp] theorem committed_countCommit : notes.countCommit.committed = notes.committed + 1 := rfl

end RunNotes

def runNotes : Process.Monitor KnowledgeEffect KnowledgeAnswer RunNotes where
  next notes event :=
    match event with
    | ⟨.commit _, .ok _⟩ => notes.countCommit
    | ⟨.service (.getObject _), .ok raw⟩ => notes.readObject raw
    | ⟨.service (.embedText _), .error _⟩ => notes.failEmbedding
    | _ => notes

abbrev notedEnvironment (database : KnowledgeDatabase) :
    Process.Environment KnowledgeEffect KnowledgeAnswer (KnowledgeTables × RunNotes) :=
  (knowledgeEnvironment database).observed runNotes

namespace KnowledgeSession

variable {database : KnowledgeDatabase} {transaction : KnowledgeTransaction}
  {tables : KnowledgeTables} {notes : RunNotes} {α : Type}

abbrev After (α : Type) : Type :=
  Except Exc α → KnowledgeTransaction → KnowledgeTables × RunNotes → Prop

variable {Q : After α}

abbrev Ends (database : KnowledgeDatabase) (m : KnowledgeSession α)
    (transaction : KnowledgeTransaction) (tables : KnowledgeTables) (notes : RunNotes)
    (Q : After α) : Prop :=
  m.From (notedEnvironment database) transaction (tables, notes) Q

def spoiled (transaction : KnowledgeTransaction) : KnowledgeTransaction :=
  { transaction with failed := true }

theorem ends_bind {β : Type} {m : KnowledgeSession β} {f : β → KnowledgeSession α} :
    Ends database (m >>= f) transaction tables notes Q ↔
      Ends database m transaction tables notes fun r left s => match r with
        | .ok b => Ends database (f b) left s.1 s.2 Q
        | .error x => Q (.error x) left s := by
  rw [Ends, from_bind]
  refine iff_of_eq (congrArg (From _ m transaction (tables, notes)) ?_)
  funext r left s
  cases r <;> rfl

theorem ends_settle {answer : Except Exc α} :
    Ends database (settle answer) transaction tables notes Q ↔
      match answer with
      | .ok a => Q (.ok a) transaction (tables, notes)
      | .error x => Q (.error x) (spoiled transaction) (tables, notes) := by
  cases answer <;> rfl

theorem ends_ask {statement : KnowledgeStatement} {Q : After (KnowledgeRow statement)}
    (alive : transaction.failed = false) :
    Ends database (ask statement) transaction tables notes Q ↔
      Q (.ok (tables.read database statement)) transaction (tables, notes) ∧
        ∀ x, Q (.error x) (spoiled transaction) (tables, notes) := by
  simp only [Ends, ask, whileAlive, from_bind, from_get, alive, Bool.false_eq_true,
    if_false, from_perform]
  constructor
  · intro h
    refine ⟨?_, fun x => ?_⟩
    · exact ends_settle.mp (h _ (tables, notes) ⟨⟨rfl, fun row eq => (Except.ok.inj eq).symm⟩, rfl⟩)
    · exact ends_settle.mp (h (.error x) (tables, notes) ⟨⟨rfl, fun row eq => by cases eq⟩, rfl⟩)
  · intro h r s answered
    obtain ⟨tables', notes'⟩ := s
    obtain ⟨⟨same, honest⟩, noted⟩ := answered
    subst same
    subst noted
    cases r with
    | ok row =>
      rw [honest row rfl]
      exact ends_settle.mpr h.1
    | error x => exact ends_settle.mpr (h.2 x)

theorem ends_ask_lost {statement : KnowledgeStatement} {Q : After (KnowledgeRow statement)}
    (dead : transaction.failed = true) :
    Ends database (ask statement) transaction tables notes Q ↔
      Q (.error lost) transaction (tables, notes) := by
  simp only [Ends, ask, whileAlive, from_bind, from_get, dead, if_true,
    from_throw]

theorem ends_service {s : OutsideService} {Q : After (OutsideRow s)} :
    Ends database (service s) transaction tables notes Q ↔
      ∀ r, Q r transaction (tables, runNotes.next notes ⟨.service s, r⟩) := by
  simp only [Ends, service, from_bind, from_perform]
  constructor
  · intro h r
    have ended := h r (tables, runNotes.next notes ⟨.service s, r⟩) ⟨rfl, rfl⟩
    cases r <;> exact ended
  · intro h r after answered
    obtain ⟨tables', notes'⟩ := after
    obtain ⟨same, noted⟩ := answered
    subst noted
    have ended := h r
    rw [show tables' = tables from same]
    cases r <;> exact ended

theorem ends_commit {Q : After Unit} (alive : transaction.failed = false) :
    Ends database commit transaction tables notes Q ↔
      (∀ after, tables.write transaction.writes = some after →
        Q (.ok ()) {} (after, notes.countCommit)) ∧
      ∀ x, Q (.error x) (spoiled transaction) (tables, notes) := by
  simp only [Ends, commit, whileAlive, from_bind, from_get, alive,
    Bool.false_eq_true, if_false, from_perform]
  constructor
  · intro h
    refine ⟨fun after stored => ?_, fun x => ?_⟩
    · exact h (.ok ()) (after, notes.countCommit) ⟨.inl ⟨rfl, stored⟩, rfl⟩
    · exact h (.error x) (tables, notes) ⟨.inr ⟨⟨x, rfl⟩, rfl⟩, rfl⟩
  · intro h r after answered
    obtain ⟨tables', notes'⟩ := after
    obtain ⟨committed, noted⟩ := answered
    subst noted
    rcases committed with done | refused
    · obtain ⟨ok, stored⟩ := done
      subst ok
      exact h.1 tables' stored
    · obtain ⟨⟨x, error⟩, same⟩ := refused
      subst error
      rw [show tables' = tables from same]
      exact h.2 x

theorem ends_commit_lost {Q : After Unit} (dead : transaction.failed = true) :
    Ends database commit transaction tables notes Q ↔
      Q (.error lost) transaction (tables, notes) := by
  simp only [Ends, commit, whileAlive, from_bind, from_get, dead, if_true,
    from_throw]

@[simp] theorem ends_add {writes : List KnowledgeWrite} {Q : After Unit} :
    Ends database (add writes) transaction tables notes Q ↔
      Q (.ok ()) { transaction with writes := transaction.writes ++ writes } (tables, notes) :=
  Iff.rfl

theorem ends_utcNow {Q : After Instant} :
    Ends database utcNow transaction tables notes Q ↔
      ∀ now, Q (.ok now) transaction (tables, notes) := by
  constructor
  · intro h now
    exact h now (tables, notes) ⟨rfl, rfl⟩
  · intro h now after answered
    obtain ⟨tables', notes'⟩ := after
    obtain ⟨same, noted⟩ := answered
    subst noted
    rw [show tables' = tables from same]
    exact h now

theorem ends_newIds {count : Nat} {Q : After (List UUID)} :
    Ends database (newIds count) transaction tables notes Q ↔
      ∀ ids : List UUID, ids.length = count → Q (.ok ids) transaction (tables, notes) := by
  constructor
  · intro h ids long
    exact h ids (tables, notes) ⟨⟨rfl, long⟩, rfl⟩
  · intro h ids after answered
    obtain ⟨tables', notes'⟩ := after
    obtain ⟨⟨same, long⟩, noted⟩ := answered
    subst noted
    subst same
    exact h ids long

theorem ends_rollbackQuietly {Q : After Unit} :
    Ends database rollbackQuietly transaction tables notes Q ↔
      Q (.ok ()) {} (tables, notes) := by
  simp only [Ends, rollbackQuietly, from_bind, from_perform]
  constructor
  · intro h
    exact h (.ok ()) (tables, notes) ⟨rfl, rfl⟩
  · intro h r after answered
    obtain ⟨tables', notes'⟩ := after
    obtain ⟨same, noted⟩ := answered
    subst noted
    rw [show tables' = tables from same]
    exact h

theorem ends_refuse {condition : Prop} [Decidable condition] {statusCode : Nat} {detail : String}
    {Q : After Unit} :
    Ends database (refuse condition statusCode detail) transaction tables notes Q ↔
      if condition then Q (.error (.http statusCode (.text detail))) transaction (tables, notes)
      else Q (.ok ()) transaction (tables, notes) := by
  unfold refuse
  split <;> rfl

theorem ends_tryExcept {body : KnowledgeSession α} {handler : Exc → KnowledgeSession α} :
    Ends database (tryExcept body handler) transaction tables notes Q ↔
      Ends database body transaction tables notes fun r left s => match r with
        | .ok a => Q (.ok a) left s
        | .error x =>
          if x.isException then Ends database (handler x) left s.1 s.2 Q
          else Q (.error x) left s := by
  rw [Ends, tryExcept, Action.from_tryCatch]
  refine iff_of_eq (congrArg (From _ body transaction (tables, notes)) ?_)
  funext r left s
  cases r with
  | ok a => rfl
  | error x => exact propext (Action.from_ite _ _ _ _ _ _)

abbrev Post (α : Type) : Type :=
  α → KnowledgeTransaction → KnowledgeTables → RunNotes → Prop

structure Returns (database : KnowledgeDatabase) (m : KnowledgeSession α)
    (transaction : KnowledgeTransaction) (tables : KnowledgeTables) (notes : RunNotes)
    (P : α → KnowledgeTransaction → KnowledgeTables → RunNotes → Prop) : Prop where
  ends : Ends database m transaction tables notes fun r left s =>
    ∀ a, r = .ok a → P a left s.1 s.2

namespace Returns

variable {β : Type} {P : Post α}

theorem mono {m : KnowledgeSession α} {P' : Post α}
    (h : Returns database m transaction tables notes P)
    (imp : ∀ a left after noted, P a left after noted → P' a left after noted) :
    Returns database m transaction tables notes P' :=
  ⟨h.ends.mono fun _ left s post a eq => imp a left s.1 s.2 (post a eq)⟩

theorem any {m : KnowledgeSession α} :
    Returns database m transaction tables notes fun _ _ _ _ => True :=
  ⟨Process.Program.from_iff_alone.mpr fun _ _ _ _ _ => trivial⟩

theorem bind {m : KnowledgeSession β} {f : β → KnowledgeSession α} {M : Post β}
    (first : Returns database m transaction tables notes M)
    (rest : ∀ b left after noted, M b left after noted →
      Returns database (f b) left after noted P) :
    Returns database (m >>= f) transaction tables notes P := by
  refine ⟨(from_bind m f _ _ _).mpr (first.ends.mono fun r left s post => ?_)⟩
  cases r with
  | ok b => exact (rest b left s.1 s.2 (post b rfl)).ends
  | error x =>
    intro a eq
    cases eq

theorem seq {m : KnowledgeSession β} {f : β → KnowledgeSession α}
    (h : Returns database m transaction tables notes fun b left after noted =>
      Returns database (f b) left after noted P) :
    Returns database (m >>= f) transaction tables notes P :=
  bind h fun _ _ _ _ rest => rest

theorem pure {a : α} (h : P a transaction tables notes) :
    Returns database (Pure.pure a) transaction tables notes P := by
  refine ⟨?_⟩
  intro b eq
  cases eq
  exact h

theorem throw (x : Exc) : Returns database (Action.throw x) transaction tables notes P := by
  refine ⟨?_⟩
  intro b eq
  cases eq

/-- Of a lost transaction there is nothing to show: it answers with an error. -/
theorem ask {statement : KnowledgeStatement} {P : Post (KnowledgeRow statement)}
    (h : P (tables.read database statement) transaction tables notes) :
    Returns database (KnowledgeSession.ask statement) transaction tables notes P := by
  cases alive : transaction.failed with
  | true =>
    refine ⟨(ends_ask_lost alive).mpr ?_⟩
    intro a eq
    cases eq
  | false =>
    refine ⟨(ends_ask alive).mpr ⟨?_, fun x a eq => by cases eq⟩⟩
    intro a eq
    cases eq
    exact h

theorem service {s : OutsideService} {P : Post (OutsideRow s)}
    (h : ∀ row, P row transaction tables (runNotes.next notes ⟨.service s, .ok row⟩)) :
    Returns database (KnowledgeSession.service s) transaction tables notes P := by
  refine ⟨ends_service.mpr fun r a eq => ?_⟩
  subst eq
  exact h a

theorem commit {P : Post Unit}
    (h : ∀ after, tables.write transaction.writes = some after →
      P () {} after notes.countCommit) :
    Returns database KnowledgeSession.commit transaction tables notes P := by
  cases alive : transaction.failed with
  | true =>
    refine ⟨(ends_commit_lost alive).mpr ?_⟩
    intro a eq
    cases eq
  | false =>
    refine ⟨(ends_commit alive).mpr ⟨fun after stored a eq => ?_, fun x a eq => by cases eq⟩⟩
    exact h after stored

theorem add {writes : List KnowledgeWrite} {P : Post Unit}
    (h : P () { transaction with writes := transaction.writes ++ writes } tables notes) :
    Returns database (KnowledgeSession.add writes) transaction tables notes P :=
  ⟨fun _ _ => h⟩

theorem utcNow {P : Post Instant}
    (h : ∀ now, P now transaction tables notes) :
    Returns database KnowledgeSession.utcNow transaction tables notes P := by
  refine ⟨ends_utcNow.mpr fun now a eq => ?_⟩
  cases eq
  exact h now

theorem newIds {count : Nat} {P : Post (List UUID)}
    (h : ∀ ids : List UUID, ids.length = count → P ids transaction tables notes) :
    Returns database (KnowledgeSession.newIds count) transaction tables notes P := by
  refine ⟨ends_newIds.mpr fun ids long a eq => ?_⟩
  cases eq
  exact h ids long

theorem ite {condition : Prop} [Decidable condition] {m n : KnowledgeSession α}
    (first : condition → Returns database m transaction tables notes P)
    (second : ¬ condition → Returns database n transaction tables notes P) :
    Returns database (if condition then m else n) transaction tables notes P := by
  split
  · rename_i holds
    exact first holds
  · rename_i fails
    exact second fails

theorem refuse {condition : Prop} [Decidable condition] {statusCode : Nat} {detail : String}
    {P : Post Unit}
    (h : ¬ condition → P () transaction tables notes) :
    Returns database (KnowledgeSession.refuse condition statusCode detail) transaction tables
      notes P :=
  ite (fun _ => throw _) fun passed => pure (h passed)

theorem tryCatch {m : KnowledgeSession α} {handler : Exc → KnowledgeSession α}
    (body : Returns database m transaction tables notes P)
    (raises : ∀ x left after noted, Returns database (handler x) left after noted P) :
    Returns database (Action.tryCatch m handler) transaction tables notes P := by
  refine ⟨(Action.from_tryCatch m handler _ _ _).mpr (body.ends.mono fun r left s post => ?_)⟩
  cases r with
  | ok a => exact post
  | error x => exact (raises x left s.1 s.2).ends

theorem guarded {body : KnowledgeSession α} (h : Returns database body transaction tables notes P) :
    Returns database (KnowledgeSession.guarded body) transaction tables notes P := by
  have unavailable : ∀ left after noted, Returns database
      (rollbackQuietly >>= fun _ => (storageUnavailable : KnowledgeSession α)) left after noted P :=
    fun left after noted => bind (M := fun _ _ _ _ => True)
      ⟨ends_rollbackQuietly.mpr fun _ _ => trivial⟩ fun _ _ _ _ _ => throw _
  refine tryCatch h fun x left after noted => ?_
  cases x with
  | os c m => exact unavailable left after noted
  | sqlAlchemy c m => exact unavailable left after noted
  | _ => exact throw _

end Returns

end KnowledgeSession

namespace KnowledgeService

open KnowledgeSession

variable {database : KnowledgeDatabase} {transaction : KnowledgeTransaction}
  {tables : KnowledgeTables} {notes : RunNotes}

theorem getBaseForTenant_returns {knowledgeBaseId tenantId : UUID} {P : Post KnowledgeBase}
    (h : ∀ base, tables.bases.get knowledgeBaseId = some base → base.tenantId = tenantId →
      base.deletedAt = none → P base transaction tables notes) :
    Returns database (getBaseForTenant knowledgeBaseId tenantId) transaction tables notes P := by
  refine .seq (.ask ?_)
  simp only [KnowledgeTables.read]
  cases stored : tables.bases.get knowledgeBaseId with
  | none => exact .throw _
  | some base =>
    refine .ite (fun _ => .throw _) fun passed => .pure ?_
    obtain ⟨own, there⟩ := not_or.mp passed
    exact h base stored (not_not.mp own) (not_not.mp there)

theorem getAccessibleBase_returns {knowledgeBaseId : UUID} {principal : Principal}
    {requireWrite : Bool} {P : Post KnowledgeBase}
    (h : ∀ base, tables.bases.get knowledgeBaseId = some base →
      base.tenantId = principal.tenantId → base.deletedAt = none →
      P base transaction tables notes) :
    Returns database (getAccessibleBase knowledgeBaseId principal requireWrite) transaction tables
      notes P := by
  refine .seq (getBaseForTenant_returns fun base stored own there => .seq ?_)
  refine .ite (fun _ => .pure ?_) fun _ => .ask ?_
  · exact .seq (.refuse fun _ => .pure (h base stored own there))
  · exact .seq (.refuse fun _ => .pure (h base stored own there))

theorem getDocumentForTenant_returns {knowledgeBaseId documentId tenantId : UUID}
    {P : Post KnowledgeDocument}
    (h : ∀ row, tables.documents.get documentId = some row → row.tenantId = tenantId →
      row.knowledgeBaseId = knowledgeBaseId → row.deletedAt = none →
      P row transaction tables notes) :
    Returns database (getDocumentForTenant knowledgeBaseId documentId tenantId) transaction tables
      notes P := by
  refine .seq (.ask ?_)
  simp only [KnowledgeTables.read]
  cases stored : tables.documents.get documentId with
  | none => exact .throw _
  | some row =>
    refine .ite (fun _ => .throw _) fun passed => .pure ?_
    obtain ⟨own, rest⟩ := not_or.mp passed
    obtain ⟨ofBase, there⟩ := not_or.mp rest
    exact h row stored (not_not.mp own) (not_not.mp ofBase) (not_not.mp there)

theorem refreshDocument_returns {documentId : UUID} {P : Post KnowledgeDocument}
    (h : ∀ row, tables.documents.get documentId = some row → P row transaction tables notes) :
    Returns database (refreshDocument documentId) transaction tables notes P := by
  refine .seq (.ask ?_)
  simp only [KnowledgeTables.read]
  cases stored : tables.documents.get documentId with
  | none => exact .throw _
  | some row => exact .pure (h row stored)

theorem refreshBase_returns {knowledgeBaseId : UUID} {P : Post KnowledgeBase}
    (h : ∀ base, tables.bases.get knowledgeBaseId = some base → P base transaction tables notes) :
    Returns database (refreshBase knowledgeBaseId) transaction tables notes P := by
  refine .seq (.ask ?_)
  simp only [KnowledgeTables.read]
  cases stored : tables.bases.get knowledgeBaseId with
  | none => exact .throw _
  | some base => exact .pure (h base stored)

end KnowledgeService

namespace KnowledgeTables

def nextId (tables : KnowledgeTables) : UUID :=
  (tables.documents.keys ++ tables.chunks.keys).foldr (fun id next => max (id + 1) next) 0

def oracle (database : KnowledgeDatabase)
    (services : (s : OutsideService) → Except Exc (OutsideRow s)) (tables : KnowledgeTables) :
    (e : KnowledgeEffect) → KnowledgeAnswer e × KnowledgeTables
  | .ask statement => (.ok (tables.read database statement), tables)
  | .service s => (services s, tables)
  | .utcNow => (0, tables)
  | .newIds count => (List.range' tables.nextId count, tables)
  | .commit writes =>
    match tables.write writes with
    | some after => (.ok (), after)
    | none => (.error KnowledgeSession.lost, tables)
  | .rollback => (.ok (), tables)

theorem oracle_answers (database : KnowledgeDatabase)
    (services : (s : OutsideService) → Except Exc (OutsideRow s)) (tables : KnowledgeTables)
    (e : KnowledgeEffect) :
    (knowledgeEnvironment database).answers tables e (tables.oracle database services e).1
      (tables.oracle database services e).2 := by
  cases e with
  | ask statement => exact ⟨rfl, fun row eq => (Except.ok.inj eq).symm⟩
  | newIds count => exact ⟨rfl, List.length_range'⟩
  | service | utcNow | rollback => exact rfl
  | commit writes =>
    simp only [oracle]
    split
    · rename_i after stored
      exact .inl ⟨rfl, stored⟩
    · exact .inr ⟨⟨_, rfl⟩, rfl⟩

end KnowledgeTables

def plainInstallation : KnowledgeInstallation where
  lib :=
    { uploadMaxBytes := 1000
      identity := ⟨1, 1, ""⟩
      classes := ⟨id, fun _ => true⟩
      sha256Hex := fun _ => ""
      excText := fun _ => ""
      decodeDocumentText := fun raw _ _ =>
        .ok (String.ofList (raw.map fun byte => Char.ofNat byte.toNat))
      chunkText := fun text _ _ => [text] }
  settings := { classes := ⟨id, fun _ => true⟩, str := fun _ => "" }

def plainDatabase : KnowledgeDatabase where
  license := fun _ =>
    { status := .active
      licenseType := ""
      customerName := ""
      deploymentId := 1
      installId := 1
      machineFingerprintHash := ""
      allowedModules := []
      allowedFeatures := []
      moduleCount := 0
      featureCount := 0 }
  memberships := fun _ _ => []
  schemaReady := true
  distance := fun _ _ => 0
  tsMatches := fun _ _ => false
  tsRank := fun _ _ => 0

def plainServices : (s : OutsideService) → Except Exc (OutsideRow s)
  | .prepareUpload _ => .ok ()
  | .putObject _ data => .ok { sizeBytes := some data.length }
  | .getObject _ => .ok [104, 105]
  | .deleteObject _ => .ok true
  | .embedText _ => .ok { modelKey := "", dimensions := 1, vector := [1], mode := "" }
  | .rerank _ _ => .ok (.ok [])
  | .ragIngest _ => .ok { status := .indexed, message := "" }
  | .ragDelete _ => .ok true
  | .ragRetrieve _ => .ok []

def tenantAdministrator : Principal where
  userId := 1
  tenantId := 1
  permissions := [.tenantAdmin]

def emptyBase : KnowledgeTables where
  bases := OrderedDict.empty.set 1 { tenantId := 1, ragEngine := .pgvector }
  documents := OrderedDict.empty
  chunks := OrderedDict.empty

def onePending : KnowledgeTables where
  bases := OrderedDict.empty.set 1 { tenantId := 1, ragEngine := .pgvector, documentCount := 1 }
  documents := OrderedDict.empty.set 7
    { tenantId := 1, knowledgeBaseId := 1, filename := "a.txt", sizeBytes := some 2 }
  chunks := OrderedDict.empty

def administratorCall (operation : KnowledgeOperation) : KnowledgeCall where
  principal := tenantAdministrator
  knowledgeBaseId := 1
  operation := operation

def KnowledgeCall.served (call : KnowledgeCall) (tables : KnowledgeTables) :
    Except Exc KnowledgeResponse × KnowledgeTables :=
  (call.program plainInstallation).finish (KnowledgeTables.oracle plainDatabase plainServices)
    tables

theorem KnowledgeCall.served_alone (call : KnowledgeCall) (tables : KnowledgeTables) :
    Process.Program.Alone (knowledgeEnvironment plainDatabase) (call.program plainInstallation)
      tables (call.served tables).1 (call.served tables).2 :=
  Process.Program.finish_alone (KnowledgeTables.oracle_answers plainDatabase plainServices) _ _

end AgentHive
