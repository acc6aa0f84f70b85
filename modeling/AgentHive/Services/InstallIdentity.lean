import AgentHive.Process.Alone
import AgentHive.Services.LicenseStatus
import AgentHive.Store.JsonReading
import AgentHive.Store.NamedFiles

/-!
The identity of an installation, and the file that calls of any processes and threads make and
read.
-/

namespace AgentHive.InstallFile

open JsonText
open Process (Program Environment Config Interleaved Taken)

structure IdentityLibrary where
  uuidText : UUID → List Nat
  readUuid : List Nat → Option UUID
  hexText : UUID → List Nat
  sha256hex : List Nat → List Nat
  isoformat : Instant → List Nat
  fromisoformat : List Nat → Option Instant
  readUuid_text : ∀ id, readUuid (uuidText id) = some id
  fromisoformat_text : ∀ time, fromisoformat (isoformat time) = some time

structure Identity where
  deploymentId : UUID
  installId : UUID
  machineFingerprintHash : List Nat
  fingerprintAlgorithm : List Nat
  generatedAt : Instant
  deriving DecidableEq

abbrev Document := List (List Nat × Value Int)

structure Draws where
  deploymentId : UUID
  installId : UUID
  salt : UUID
  now : Instant

section Documents

variable (lib : IdentityLibrary)

def fingerprintAlgorithm : List Nat := codes "sha256"

def fingerprint (deploymentId installId : UUID) (salt : List Nat) : List Nat :=
  lib.sha256hex (codes "AgentHive:" ++ lib.uuidText deploymentId ++ codes ":" ++
    lib.uuidText installId ++ codes ":" ++ salt ++ codes ":private-deployment")

/-- The document of `_create_identity`. -/
def newDocument (draws : Draws) : Document :=
  [(codes "schema_version", .num 1),
    (codes "product", .str (codes "AgentHive")),
    (codes "deployment_id", .str (lib.uuidText draws.deploymentId)),
    (codes "install_id", .str (lib.uuidText draws.installId)),
    (codes "fingerprint_salt", .str (lib.hexText draws.salt)),
    (codes "machine_fingerprint_hash",
      .str (fingerprint lib draws.deploymentId draws.installId (lib.hexText draws.salt))),
    (codes "fingerprint_algorithm", .str fingerprintAlgorithm),
    (codes "generated_at", .str (lib.isoformat draws.now))]

variable (document : Document)

def fileText : List Nat := dumpsIndented integers (.obj document) ++ [0x0A]

def valueError (message : String) : Exc := .other "ValueError" message

/-- `value != 1`, where `True` is 1. -/
def isOne : Value Int → Bool
  | .num n => n = 1
  | .bool b => b
  | _ => false

def isStrOrInt : Value Int → Bool
  | .str _ | .num _ | .bool _ => true
  | _ => false

/-- `_read_identity`, of the text of the file. -/
def readIdentity (text : List Nat) : Except Exc Document :=
  match loads integers text with
  | .error className => .error (.other className "")
  | .ok (.obj document) =>
    if !((document.lookup (codes "schema_version")).any isOne) then
      .error (valueError "Unsupported AgentHive install identity schema.")
    else if !(document.all fun entry => isStrOrInt entry.2) then
      .error (valueError "AgentHive install identity contains unsupported values.")
    else .ok document
  | .ok _ => .error (valueError "AgentHive install identity must be a JSON object.")

/-- `str(value)`, of the values of a document that has been checked. -/
def pyStr : Value Int → List Nat
  | .str text => text
  | .num n => intText n
  | .bool true => codes "True"
  | .bool false => codes "False"
  | _ => []

def getField (key : String) : Except Exc (Value Int) :=
  match document.lookup (codes key) with
  | some value => .ok value
  | none => .error (.other "KeyError" key)

def getUuid (key : String) : Except Exc UUID := do
  let value ← getField document key
  match lib.readUuid (pyStr value) with
  | some id => .ok id
  | none => .error (valueError "badly formed hexadecimal UUID string")

def isProduct : Value Int → Bool
  | .str text => text = codes "AgentHive"
  | _ => false

def getTime (key : String) : Except Exc Instant := do
  let value ← getField document key
  match lib.fromisoformat (pyStr value) with
  | some time => .ok time
  | none => .error (valueError "Invalid isoformat string")

def identityFromDocument : Except Exc Identity :=
  if !((document.lookup (codes "product")).any isProduct) then
    .error (valueError "Install identity is not for AgentHive.")
  else do
    let deploymentId ← getUuid lib document "deployment_id"
    let installId ← getUuid lib document "install_id"
    let salt ← getField document "fingerprint_salt"
    let stored ← getField document "machine_fingerprint_hash"
    if pyStr stored = fingerprint lib deploymentId installId (pyStr salt) then do
      let generatedAt ← getTime lib document "generated_at"
      .ok
        { deploymentId, installId, machineFingerprintHash := pyStr stored,
          fingerprintAlgorithm :=
            ((document.lookup (codes "fingerprint_algorithm")).map pyStr).getD fingerprintAlgorithm,
          generatedAt }
    else .error (valueError "Install identity fingerprint does not match its IDs and salt.")

end Documents

inductive IdentityPath
  | identity
  | temporary (pid : Nat)
  deriving DecidableEq

inductive FileCall
  | read
  | makeDirectory
  | openTemporary (pid : Nat)
  | write (file place c : Nat)
  | chmod (pid : Nat)
  | replace (pid : Nat)

/-- A read and a change of a file are answered by the text and by whether the file was there. -/
def FileAnswer : FileCall → Type
  | .read => Option (List Nat)
  | .makeDirectory => Unit
  | .openTemporary _ => Nat
  | .write _ _ _ => Unit
  | .chmod _ => Bool
  | .replace _ => Bool

abbrev Call := Program FileCall FileAnswer (Except Exc Identity)

def fileNotFound : Exc := .os "FileNotFoundError" "No such file or directory"

def writeText (file : Nat) : Nat → List Nat → Call → Call
  | _, [], next => next
  | place, c :: rest, next =>
    .call (.write file place c) fun _ => writeText file (place + 1) rest next

variable (lib : IdentityLibrary)

/-- `os.replace`, and what is returned after it. -/
def putInPlace (pid : Nat) (document : Document) : Call :=
  .call (.replace pid) fun (done : Bool) =>
    if done then .ret (identityFromDocument lib document) else .ret (.error fileNotFound)

def protect (pid : Nat) (document : Document) : Call :=
  .call (.chmod pid) fun (done : Bool) =>
    if done then putInPlace lib pid document else .ret (.error fileNotFound)

/-- `_atomic_write_identity`, and what is returned after it. -/
def atomicWriteIdentity (pid : Nat) (document : Document) : Call :=
  .call .makeDirectory fun _ =>
    .call (.openTemporary pid) fun (file : Nat) =>
      writeText file 0 (fileText document) (protect lib pid document)

def afterRead (pid : Nat) (draws : Draws) : Option (List Nat) → Call
  | some text => .ret (readIdentity text >>= identityFromDocument lib)
  | none => atomicWriteIdentity lib pid (newDocument lib draws)

/-- `get_install_identity`, in a process and with what it draws. -/
def getInstallIdentity (pid : Nat) (draws : Draws) : Call :=
  .call .read (afterRead lib pid draws)

abbrev Files := NamedFiles IdentityPath

def fileOracle (s : Files) : (e : FileCall) → FileAnswer e × Files
  | .read => (s.read .identity, s)
  | .makeDirectory => ((), s)
  | .openTemporary pid => s.openEmpty (.temporary pid)
  | .write file place c => ((), s.write file place c)
  | .chmod pid => ((s.names (.temporary pid)).isSome, s)
  | .replace pid => s.rename (.temporary pid) .identity

def fileSystem : Environment FileCall FileAnswer Files where
  answers s e r s' := (r, s') = fileOracle s e
  drifts _ _ := False

theorem fileSystem_answers (s : Files) (e : FileCall) :
    fileSystem.answers s e (fileOracle s e).1 (fileOracle s e).2 := rfl

section Written

variable (lib : IdentityLibrary) (draws : Draws)

def newIdentity : Identity where
  deploymentId := draws.deploymentId
  installId := draws.installId
  machineFingerprintHash :=
    fingerprint lib draws.deploymentId draws.installId (lib.hexText draws.salt)
  fingerprintAlgorithm := fingerprintAlgorithm
  generatedAt := draws.now

theorem newDocument_keys : ((newDocument lib draws).map Prod.fst).Nodup := by
  change [codes "schema_version", codes "product", codes "deployment_id", codes "install_id",
    codes "fingerprint_salt", codes "machine_fingerprint_hash", codes "fingerprint_algorithm",
    codes "generated_at"].Nodup
  decide

theorem newDocument_distinct : Distinct (.obj (newDocument lib draws)) := by
  refine ⟨newDocument_keys lib draws, ?_⟩
  rw [distinctEntries_iff]
  intro e mem
  simp only [newDocument, List.mem_cons, List.not_mem_nil, or_false] at mem
  rcases mem with rfl | rfl | rfl | rfl | rfl | rfl | rfl | rfl <;> trivial

theorem newDocument_leaves : ∀ e ∈ newDocument lib draws, sortKeys e.2 = e.2 := by
  intro e mem
  simp only [newDocument, List.mem_cons, List.not_mem_nil, or_false] at mem
  rcases mem with rfl | rfl | rfl | rfl | rfl | rfl | rfl | rfl <;> rw [sortKeys]

theorem lookup_sorted (key : List Nat) :
    (sortedEntries (newDocument lib draws)).lookup key = (newDocument lib draws).lookup key := by
  rw [lookup_sortedEntries (newDocument_keys lib draws), ← lookup_sortEntries,
    sortEntries_of_sorted (newDocument_leaves lib draws)]

variable {document : Document}

theorem identityFromDocument_congr {document' : Document}
    (same : ∀ key, document.lookup key = document'.lookup key) :
    identityFromDocument lib document = identityFromDocument lib document' := by
  simp only [identityFromDocument, getUuid, getTime, getField, same]

theorem getUuid_text {key : String} {id : UUID}
    (found : document.lookup (codes key) = some (.str (lib.uuidText id))) :
    getUuid lib document key = .ok id := by
  have field : getField document key = .ok (.str (lib.uuidText id)) := by rw [getField, found]
  rw [getUuid, field]
  change (match lib.readUuid (lib.uuidText id) with | some id => _ | none => _) = _
  rw [lib.readUuid_text]

theorem getTime_text {key : String} {time : Instant}
    (found : document.lookup (codes key) = some (.str (lib.isoformat time))) :
    getTime lib document key = .ok time := by
  have field : getField document key = .ok (.str (lib.isoformat time)) := by rw [getField, found]
  rw [getTime, field]
  change (match lib.fromisoformat (lib.isoformat time) with | some time => _ | none => _) = _
  rw [lib.fromisoformat_text]

theorem identityFromDocument_new :
    identityFromDocument lib (newDocument lib draws) = .ok (newIdentity lib draws) := by
  have product : (newDocument lib draws).lookup (codes "product") =
      some (.str (codes "AgentHive")) := rfl
  have salt : getField (newDocument lib draws) "fingerprint_salt" =
      .ok (.str (lib.hexText draws.salt)) := rfl
  have stored : getField (newDocument lib draws) "machine_fingerprint_hash" =
      .ok (.str (fingerprint lib draws.deploymentId draws.installId (lib.hexText draws.salt))) := rfl
  have algorithm : (newDocument lib draws).lookup (codes "fingerprint_algorithm") =
      some (.str fingerprintAlgorithm) := rfl
  have deployment : getUuid lib (newDocument lib draws) "deployment_id" =
      .ok draws.deploymentId := getUuid_text lib rfl
  have install : getUuid lib (newDocument lib draws) "install_id" = .ok draws.installId :=
    getUuid_text lib rfl
  have time : getTime lib (newDocument lib draws) "generated_at" = .ok draws.now :=
    getTime_text lib rfl
  unfold identityFromDocument
  rw [product, deployment, install, salt, stored, time, algorithm]
  simp only [Bind.bind, Except.bind, pyStr, if_pos]
  rfl

theorem readIdentity_fileText :
    (readIdentity (fileText (newDocument lib draws)) >>= identityFromDocument lib) =
      .ok (newIdentity lib draws) := by
  have loaded := loads_line integers (newDocument_distinct lib draws)
  rw [sortKeys_obj] at loaded
  have version : (sortedEntries (newDocument lib draws)).lookup (codes "schema_version") =
      some (.num 1) := by
    rw [lookup_sorted]
    rfl
  have plain : ((sortedEntries (newDocument lib draws)).all fun entry => isStrOrInt entry.2) =
      true := by
    rw [List.all_eq_true]
    intro e mem
    rw [sortedEntries, sortEntries_of_sorted (newDocument_leaves lib draws),
      (List.perm_insertionSort _ _).mem_iff] at mem
    simp only [newDocument, List.mem_cons, List.not_mem_nil, or_false] at mem
    rcases mem with rfl | rfl | rfl | rfl | rfl | rfl | rfl | rfl <;> rfl
  have read : readIdentity (fileText (newDocument lib draws)) =
      .ok (sortedEntries (newDocument lib draws)) := by
    rw [readIdentity, fileText, loaded]
    simp only [version, plain]
    rfl
  rw [read]
  exact (identityFromDocument_congr lib (lookup_sorted lib draws)).trans
    (identityFromDocument_new lib draws)

end Written

section Runs

variable {ι : Type} (lib : IdentityLibrary) (pids : ι → Nat) (draws : ι → Draws)

def Creating (c : Config ι FileCall FileAnswer (Except Exc Identity) Files) (i : ι) : Prop :=
  c.history i ≠ [] ∧ (c.threads i).returned = none

def SoleMaker (step : Taken ι FileCall FileAnswer (Except Exc Identity) Files) : Prop :=
  step.event = ⟨.read, (none : Option (List Nat))⟩ → ∀ j, ¬ Creating step.before j

/-- Every call that has returned has returned one identity, that of the file as it is. -/
structure OneIdentity (c : Config ι FileCall FileAnswer (Except Exc Identity) Files) : Prop where
  same : ∀ i j a b, (c.threads i).returned = some a → (c.threads j).returned = some b → a = b
  ofFile : ∀ i a, (c.threads i).returned = some a → ∃ identity text, a = .ok identity ∧
    c.shared.read .identity = some text ∧
    (readIdentity text >>= identityFromDocument lib) = .ok identity

def calls (i : ι) : Call := getInstallIdentity lib (pids i) (draws i)

inductive Stage (pid : Nat) (document : Document) : Files → Call → Prop
  | prepares (s : Files) : Stage pid document s (atomicWriteIdentity lib pid document)
  | opens (s : Files) :
      Stage pid document s (.call (.openTemporary pid) fun (file : Nat) =>
        writeText file 0 (fileText document) (protect lib pid document))
  | writes {s : Files} {file : Nat} {done rest : List Nat}
      (named : s.names (.temporary pid) = some file) (holds : s.contents file = done)
      (whole : done ++ rest = fileText document) :
      Stage pid document s (writeText file done.length rest (protect lib pid document))
  | replaces {s : Files} {file : Nat} (named : s.names (.temporary pid) = some file)
      (holds : s.contents file = fileText document) :
      Stage pid document s (putInPlace lib pid document)

variable {lib pids draws} {pid : Nat} {document : Document} {s : Files} {p : Call}

theorem Stage.not_returned (stage : Stage lib pid document s p) : p.returned = none := by
  cases stage with
  | prepares => rfl
  | opens => rfl
  | @writes file done rest _ _ _ =>
    cases rest with
    | nil => rfl
    | cons c rest => rfl
  | replaces => rfl

/-- Step lemma: a step of a call that makes the file brings it on, or puts the file in place. -/
theorem Stage.step (stage : Stage lib pid document s p) (missing : s.names .identity = none)
    {e : FileCall} {k : FileAnswer e → Call} (asks : p = .call e k) :
    (Stage lib pid document (fileOracle s e).2 (k (fileOracle s e).1) ∧
        (fileOracle s e).2.names .identity = none) ∨
      (k (fileOracle s e).1 = .ret (identityFromDocument lib document) ∧
        (fileOracle s e).2.read .identity = some (fileText document)) := by
  cases stage with
  | prepares =>
    cases asks
    exact .inl ⟨.opens s, missing⟩
  | opens =>
    cases asks
    have named := s.openEmpty_named (.temporary pid)
    have empty := s.openEmpty_contents (.temporary pid)
    refine .inl ⟨Stage.writes named empty (List.nil_append _), ?_⟩
    exact (s.openEmpty_other IdentityPath.noConfusion).trans missing
  | @writes file done rest named holds whole =>
    cases rest with
    | nil =>
      cases asks
      rw [List.append_nil] at whole
      have there : (s.names (.temporary pid)).isSome = true := by rw [named]; rfl
      refine .inl ⟨?_, missing⟩
      change Stage lib pid document s (if (s.names (.temporary pid)).isSome then
        putInPlace lib pid document else .ret (.error fileNotFound))
      rw [if_pos there]
      exact .replaces named (holds.trans whole)
    | cons c rest =>
      cases asks
      have longer : (done ++ [c]).length = done.length + 1 := by
        rw [List.length_append, List.length_singleton]
      have next := @Stage.writes lib pid document (s.write file done.length c) file (done ++ [c])
        rest named (NamedFiles.write_end holds c)
        (by rw [List.append_assoc, List.singleton_append, whole])
      rw [longer] at next
      exact .inl ⟨next, missing⟩
  | @replaces file named holds =>
    cases asks
    obtain ⟨done, renamed, kept⟩ := @NamedFiles.rename_named _ _ s file _ .identity named
    refine .inr ⟨?_, ?_⟩
    · change (if (s.rename (.temporary pid) .identity).1 then
        Program.ret (identityFromDocument lib document) else .ret (.error fileNotFound)) = _
      rw [if_pos done]
    · change (s.rename (.temporary pid) .identity).2.read .identity = _
      rw [NamedFiles.read, renamed, kept, Option.map_some, holds]

inductive Consistent (lib : IdentityLibrary) (pids : ι → Nat) (draws : ι → Draws)
    (c : Config ι FileCall FileAnswer (Except Exc Identity) Files) : Prop
  | without (missing : c.shared.names .identity = none)
      (stages : ∀ i, (c.history i = [] ∧ c.threads i = calls lib pids draws i) ∨
        (c.history i ≠ [] ∧ Stage lib (pids i) (newDocument lib (draws i)) c.shared (c.threads i)))
      (sole : ∀ i j, c.history i ≠ [] → c.history j ≠ [] → i = j)
  | present (maker : ι)
      (file : c.shared.read .identity = some (fileText (newDocument lib (draws maker))))
      (ends : ∀ i, (c.history i = [] ∧ c.threads i = calls lib pids draws i) ∨
        c.threads i = .ret (.ok (newIdentity lib (draws maker))))

variable {c : Config ι FileCall FileAnswer (Except Exc Identity) Files}

theorem Consistent.oneIdentity (consistent : Consistent lib pids draws c) : OneIdentity lib c := by
  cases consistent with
  | without missing stages sole =>
    have none : ∀ i, (c.threads i).returned = none := by
      intro i
      cases stages i with
      | inl fresh => rw [fresh.2]; rfl
      | inr making => exact making.2.not_returned
    refine ⟨fun i j a b returned => ?_, fun i a returned => ?_⟩
    · rw [none i] at returned
      cases returned
    · rw [none i] at returned
      cases returned
  | present maker file ends =>
    have made : ∀ i a, (c.threads i).returned = some a → a = .ok (newIdentity lib (draws maker)) := by
      intro i a returned
      cases ends i with
      | inl fresh =>
        rw [fresh.2] at returned
        cases returned
      | inr ended =>
        rw [ended] at returned
        exact (Option.some.inj returned).symm
    refine ⟨fun i j a b first second => ?_, fun i a returned => ?_⟩
    · rw [made i a first, made j b second]
    · exact ⟨_, _, made i a returned, file, readIdentity_fileText lib (draws maker)⟩

variable [DecidableEq ι] {e : Process.Event FileCall FileAnswer}

theorem advance_self {i : ι} {p : Call} :
    (c.advance i e p s).threads i = p ∧ (c.advance i e p s).history i ≠ [] := by
  refine ⟨Function.update_self _ _ _, ?_⟩
  change Function.update c.history i (c.history i ++ [e]) i ≠ []
  rw [Function.update_self]
  exact List.append_ne_nil_of_right_ne_nil _ (List.cons_ne_nil _ _)

theorem advance_other {i j : ι} (apart : j ≠ i) {p : Call} :
    (c.advance i e p s).threads j = c.threads j ∧ (c.advance i e p s).history j = c.history j :=
  ⟨Function.update_of_ne apart _ _, Function.update_of_ne apart _ _⟩

theorem Consistent.alone {i : ι}
    (alone : ∀ j, j ≠ i → c.history j = [] ∧ c.threads j = calls lib pids draws j)
    (missing : s.names .identity = none)
    (stage : Stage lib (pids i) (newDocument lib (draws i)) s p) :
    Consistent lib pids draws (c.advance i e p s) := by
  have begun : ∀ j, (c.advance i e p s).history j ≠ [] → j = i := by
    intro j filled
    by_contra apart
    rw [(advance_other apart).2] at filled
    exact filled (alone j apart).1
  refine .without missing (fun j => ?_) fun j j' filled filled' => ?_
  · by_cases same : j = i
    · rw [same, advance_self.1]
      exact .inr ⟨advance_self.2, stage⟩
    · rw [(advance_other same).1, (advance_other same).2]
      exact .inl (alone j same)
  · rw [begun j filled, begun j' filled']

theorem Consistent.advance (consistent : Consistent lib pids draws c) {i : ι} {e : FileCall}
    {k : FileAnswer e → Call} {r : FileAnswer e} {s' : Files} (asks : c.threads i = .call e k)
    (answered : (r, s') = fileOracle c.shared e) (sole : SoleMaker ⟨c, i, ⟨e, r⟩⟩) :
    Consistent lib pids draws (c.advance i ⟨e, r⟩ (k r) s') := by
  cases consistent with
  | without missing stages one =>
    cases stages i with
    | inl fresh =>
      rw [fresh.2] at asks
      cases asks
      cases answered
      have unread : c.shared.read .identity = none := by rw [NamedFiles.read, missing]; rfl
      have event : (⟨.read, c.shared.read .identity⟩ : Process.Event FileCall FileAnswer) =
          ⟨.read, (none : Option (List Nat))⟩ := by rw [unread]
      have nobody := sole event
      refine .alone (fun j _ => (stages j).resolve_right fun making => ?_) missing ?_
      · exact nobody j ⟨making.1, making.2.not_returned⟩
      · rw [unread]
        exact .prepares c.shared
    | inr making =>
      have others : ∀ j, j ≠ i → c.history j = [] ∧ c.threads j = calls lib pids draws j :=
        fun j apart => (stages j).resolve_right fun also => apart (one j i also.1 making.1)
      have moved := making.2.step missing asks
      rw [← answered] at moved
      obtain ⟨stage, still⟩ | ⟨ended, file⟩ := moved
      · exact .alone others still stage
      · refine .present i file fun j => ?_
        by_cases same : j = i
        · rw [same, advance_self.1]
          exact .inr (ended.trans (congrArg Program.ret (identityFromDocument_new lib (draws i))))
        · rw [(advance_other same).1, (advance_other same).2]
          exact .inl (others j same)
  | present maker file ends =>
    cases ends i with
    | inl fresh =>
      rw [fresh.2] at asks
      cases asks
      cases answered
      refine .present maker file fun j => ?_
      by_cases same : j = i
      · refine .inr ?_
        rw [same, advance_self.1]
        rw [file]
        exact congrArg Program.ret (readIdentity_fileText lib (draws maker))
      · rw [(advance_other same).1, (advance_other same).2]
        exact ends j
    | inr ended =>
      rw [ended] at asks
      cases asks

/-- In every run from a state without the file in which no call finds it missing while another one
makes it, all calls return one identity, which is that of the file. -/
theorem one_identity_of_sole_maker {files : Files} (missing : files.names .identity = none)
    {steps : List (Taken ι FileCall FileAnswer (Except Exc Identity) Files)}
    (run : Interleaved fileSystem (.start (calls lib pids draws) files) steps c)
    (sole : ∀ step ∈ steps, SoleMaker step) : OneIdentity lib c := by
  refine (run.induct (Consistent lib pids draws) SoleMaker sole ?_ ?_ ?_).oneIdentity
  · refine .without missing (fun i => .inl ⟨rfl, rfl⟩) fun i j filled => ?_
    exact absurd rfl filled
  · intro steps c i e k r s' _ asks answered sole consistent
    exact consistent.advance asks answered sole
  · intro steps c s' _ moved
    exact absurd moved id

end Runs

def plainIdentities : IdentityLibrary where
  uuidText := natText
  readUuid text := some (natValue text)
  hexText := natText
  sha256hex text := text
  isoformat := intText
  fromisoformat := readInt
  readUuid_text id := congrArg some (natValue_text id)
  fromisoformat_text := readInt_text

def noFiles : Files where
  names _ := none
  contents _ := []
  unused := 0
  names_lt none := absurd none.symm (Option.some_ne_none _)

def samplePids (second : Bool) : Nat := if second then 2 else 1

def sampleDraws (second : Bool) : Draws :=
  if second then ⟨21, 22, 23, 5⟩ else ⟨11, 12, 13, 5⟩

def sampleStart : Config Bool FileCall FileAnswer (Except Exc Identity) Files :=
  .start (calls plainIdentities samplePids sampleDraws) noFiles

def missesFile : Process.Event FileCall FileAnswer → Bool
  | ⟨.read, none⟩ => true
  | _ => false

def sampleRun (turns : List Bool) :
    List (Taken Bool FileCall FileAnswer (Except Exc Identity) Files) ×
      Config Bool FileCall FileAnswer (Except Exc Identity) Files :=
  Process.takeTurns fileOracle turns sampleStart

theorem sampleRun_run (turns : List Bool) :
    Interleaved fileSystem sampleStart (sampleRun turns).1 (sampleRun turns).2 :=
  Process.takeTurns_run fileSystem_answers .start turns

theorem two_identities_made :
    ¬ ∀ (lib : IdentityLibrary) (pids : Bool → Nat) (draws : Bool → Draws) (files : Files)
        (steps : List (Taken Bool FileCall FileAnswer (Except Exc Identity) Files))
        (c : Config Bool FileCall FileAnswer (Except Exc Identity) Files),
        files.names .identity = none →
        Interleaved fileSystem (.start (calls lib pids draws) files) steps c →
        OneIdentity lib c := by
  intro claimed
  have one := claimed _ _ _ _ _ _ rfl
    (sampleRun_run ([true, false] ++ List.replicate 300 true ++ List.replicate 300 false))
  have same := one.same true false (.ok (newIdentity plainIdentities (sampleDraws true)))
    (.ok (newIdentity plainIdentities (sampleDraws false))) (by decide +kernel) (by decide +kernel)
  injection same with identities
  injection identities with deployments
  cases deployments

theorem one_identity_of_two_processes :
    ∃ (steps : List (Taken Bool FileCall FileAnswer (Except Exc Identity) Files))
      (c : Config Bool FileCall FileAnswer (Except Exc Identity) Files),
      Interleaved fileSystem sampleStart steps c ∧ (c.threads true).returned.isSome ∧
      (c.threads false).returned.isSome ∧ OneIdentity plainIdentities c := by
  let turns := List.replicate 300 true ++ [false]
  refine ⟨_, _, sampleRun_run turns, by decide +kernel, by decide +kernel, ?_⟩
  refine one_identity_of_sole_maker rfl (sampleRun_run turns) fun step mem event j creating => ?_
  -- The file is only found missing before any call has begun.
  have first : ∀ step ∈ (sampleRun turns).1, missesFile step.event = true →
      ∀ j, (step.before.history j).isEmpty = true := by
    decide +kernel
  exact creating.1 (List.isEmpty_iff.mp (first step mem (by rw [event]; rfl) j))

end AgentHive.InstallFile
