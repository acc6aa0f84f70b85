import AgentHive.Services.MediaOutputReferences

/-!
What has been archived validates, and archiving it again changes nothing and calls nothing.
-/

namespace AgentHive.MediaOutputArchive

open Process
open Rag (Json JsonDict)

def PlainText (text : String) : Prop := ∀ c ∈ text.toList, isPlainChar c = true

theorem digit_plain {c : Char} (digit : c.isDigit = true) : isPlainChar c = true := by
  have all : ∀ n : Fin 128, (Char.ofNat n).isDigit = true → isPlainChar (Char.ofNat n) = true := by
    decide
  have small : c.toNat < 128 := by
    simp only [Char.isDigit, Bool.and_eq_true, decide_eq_true_eq] at digit
    have low : c.toNat ≤ 57 := UInt32.le_iff_toNat_le.mp digit.2
    omega
  have plain := all ⟨c.toNat, small⟩
  rw [Char.ofNat_toNat] at plain
  exact plain digit

theorem hex_plain {c : Char} (digit : HexText.isHexChar c = true) : isPlainChar c = true := by
  have all : ∀ c ∈ "0123456789abcdef".toList, isPlainChar c = true :=
    List.all_eq_true.mp (by decide)
  exact all c (List.contains_iff_mem.mp digit)

theorem suffixOf_plain {lib : OutputLibrary} {type extension : String}
    (found : suffixOf lib type = some extension) : PlainText extension := by
  obtain ⟨rest, eq, plain⟩ := lib.extension_plain type extension (Option.filter_eq_some_iff.mp found).1
  intro c mem
  rw [eq] at mem
  cases List.mem_cons.mp mem with
  | inl dot =>
    rw [dot]
    decide
  | inr later => exact plain c later

variable {lib : OutputLibrary} {settings : MediaOutputSettings} {job : MediaGenerationJob}

theorem defaultExtension_plain (contentType : String) :
    PlainText (defaultExtension lib contentType) := by
  rw [defaultExtension]
  cases found : suffixOf lib (mediaTypeOf contentType) with
  | none =>
    exact List.all_eq_true.mp (by decide)
  | some extension => exact suffixOf_plain found

theorem extensionOf_plain {output : JsonDict} {contentType extension : String}
    (returned : extensionOf lib output contentType = .ok extension) : PlainText extension := by
  rw [extensionOf] at returned
  split at returned
  · rename_i existing _
    cases parsed : lib.urlPath existing with
    | error text =>
      rw [parsed] at returned
      cases returned
    | ok path =>
      rw [parsed] at returned
      cases returned
      cases found : suffixOf lib ((lib.guessType path).getD contentType) with
      | none => exact defaultExtension_plain contentType
      | some extension => exact suffixOf_plain found
  · cases returned
    exact defaultExtension_plain contentType

theorem fileName_safe (index : Nat) (data : List UInt8) {extension : String}
    (plain : PlainText extension) :
    isSafeObjectKeyPath (fileName index (hexdigest lib data) extension) = true := by
  have hyphen : "-".toList = ['-'] := by decide
  have chars : PlainText (fileName index (hexdigest lib data) extension) := by
    rw [PlainText, fileName, hexdigest]
    simp only [String.toList_append, String.toList_ofList, hyphen, List.forall_mem_append]
    refine ⟨⟨⟨?_, List.all_eq_true.mp (by decide)⟩, ?_⟩, plain⟩
    · intro c mem
      exact digit_plain (Nat.isDigit_of_mem_toDigits (by decide) (by decide) mem)
    · intro c mem
      exact hex_plain (HexText.isHexChar_of_mem_hex (List.mem_of_mem_take mem))
  apply safe_of_clean
  · intro c mem
    rw [isPathChar, chars c mem, Bool.or_true]
  · apply ObjectPath.Clean.name (c := '-')
    · intro slash
      exact Bool.noConfusion (chars _ slash)
    · simp [fileName]
    · decide

theorem objectKeyOf_in_namespace {output : JsonDict} {index : Nat} {data : List UInt8}
    {contentType key : String}
    (returned : objectKeyOf lib job output index (hexdigest lib data) contentType = .ok key) :
    InNamespace lib job key := by
  rw [objectKeyOf, Fallible.bind_ok] at returned
  obtain ⟨extension, guessed, returned⟩ := returned
  rw [Fallible.bind_ok] at returned
  obtain ⟨start, got, eq⟩ := returned
  cases eq
  rw [mediaOutputObjectKeyPrefix, Fallible.bind_ok] at got
  obtain ⟨base, configured, eq⟩ := got
  cases eq
  exact ⟨base, _, configured, fileName_safe index data (extensionOf_plain guessed),
    String.toList_append⟩

structure HandsBack (given stored : StoredObjectRef) : Prop where
  bucket_eq : stored.bucket = given.bucket
  objectKey_eq : stored.objectKey = given.objectKey
  owner_kept : ∀ key ∈ ["tenant_id", "agenthive_job_id", "job_id"],
    (stored.metadata.get key).isNull = true ∨ stored.metadata.get key = given.metadata.get key

theorem HandsBack.refl (given : StoredObjectRef) : HandsBack given given :=
  ⟨rfl, rfl, fun _ _ => .inr rfl⟩

def Returns : Event ArchiveCall ArchiveAnswer → Prop
  | ⟨.download _, _⟩ => True
  | ⟨.putObject given _, answer⟩ => ∀ stored, answer = Except.ok stored → HandsBack given stored

theorem validateOwner_ok {metadata : JsonDict}
    (tenant : (metadata.get "tenant_id").isNull = true ∨
      lib.str (metadata.get "tenant_id") = uuidText job.tenantId)
    (jobs : ∀ value ∈ namedJobs metadata, lib.str value = uuidText job.id) :
    validateOwner lib job metadata false = .ok () := by
  rw [validateOwner, Fallible.guard_ok, Fallible.guard_ok, Fallible.guard_ok]
  refine ⟨?_, ?_, fun required => Bool.noConfusion required.1, rfl⟩
  · intro wrong
    cases wrong with
    | inl required => exact Bool.noConfusion required.1
    | inr differs =>
      cases tenant with
      | inl missing =>
        rw [missing] at differs
        exact Bool.noConfusion differs.1
      | inr same => exact differs.2 same
  · intro wrong
    obtain ⟨value, mem, differs⟩ := wrong
    exact differs (jobs value mem)

structure Settled (lib : OutputLibrary) (settings : MediaOutputSettings)
    (job : MediaGenerationJob) (output : JsonDict) : Prop where
  referenced : hasPrivateObjectRefFields output = true
  validates : ∃ ref, validateMediaOutputStorageReference lib settings job output = .ok ref

section Archived

variable {original : JsonDict} {stored : StoredObjectRef} {checksum source : String}

theorem get_archivedOutput_bucket :
    (archivedOutput original stored checksum source).get "bucket" = .str stored.bucket := by
  rw [archivedOutput, JsonDict.get, JsonDict.lookup_merge]
  rfl

theorem get_archivedOutput_objectKey :
    (archivedOutput original stored checksum source).get "object_key" = .str stored.objectKey := by
  rw [archivedOutput, JsonDict.get, JsonDict.lookup_merge]
  rfl

theorem get_archivedOutput_metadata :
    (archivedOutput original stored checksum source).get "storage_metadata" =
      .obj stored.metadata := by
  rw [archivedOutput, JsonDict.get, JsonDict.lookup_merge]
  rfl

theorem archivedOutput_referenced :
    hasPrivateObjectRefFields (archivedOutput original stored checksum source) = true := by
  rw [hasPrivateObjectRefFields, archivedOutput, JsonDict.lookup_merge]
  rfl

end Archived

theorem archivedOutput_settled {original : JsonDict} {given stored : StoredObjectRef}
    {bucket key checksum source : String} {bytes : OutputBytes}
    (configured : mediaOutputBucket settings job = .ok bucket) (within : InNamespace lib job key)
    (asked : given = storageRef job bucket key checksum bytes) (kept : HandsBack given stored) :
    Settled lib settings job (archivedOutput original stored checksum source) := by
  obtain ⟨same, same', owner⟩ := kept
  obtain ⟨base, relative, prefixed, safe, eq⟩ := within
  rw [asked] at same same' owner
  have tenant : (stored.metadata.get "tenant_id").isNull = true ∨
      lib.str (stored.metadata.get "tenant_id") = uuidText job.tenantId := by
    cases owner "tenant_id" (by simp) with
    | inl missing => exact .inl missing
    | inr kept =>
      rw [kept]
      exact .inr (lib.str_text _)
  have jobs : ∀ value ∈ namedJobs stored.metadata, lib.str value = uuidText job.id := by
    intro value mem
    obtain ⟨there, some⟩ := List.mem_filter.mp mem
    obtain ⟨key, known, eq⟩ := List.mem_map.mp there
    rw [← eq] at some ⊢
    cases owner key (List.mem_cons_of_mem _ known) with
    | inl missing =>
      rw [missing] at some
      cases some
    | inr kept =>
      rw [kept] at some ⊢
      cases List.mem_cons.mp known with
      | inl own =>
        rw [own]
        exact lib.str_text _
      | inr other =>
        rw [List.mem_singleton.mp other] at some
        cases some
  refine ⟨archivedOutput_referenced, (bucket, key), ?_⟩
  refine validate_ok.mpr ⟨?_, ?_, configured, validateKey_own prefixed safe eq ?_⟩
  · rw [get_archivedOutput_bucket, same]
    rfl
  · rw [get_archivedOutput_objectKey, same']
    rfl
  · rw [validateStorageOwnerMetadata, get_archivedOutput_metadata]
    exact validateOwner_ok tenant jobs

def AllSettled (lib : OutputLibrary) (settings : MediaOutputSettings) (job : MediaGenerationJob)
    (a : Archive) : Prop :=
  ∀ output ∈ a.outputs, Settled lib settings job output

abbrev Gathers (lib : OutputLibrary) (settings : MediaOutputSettings) (job : MediaGenerationJob)
    {α : Type} (m : ArchiveAction α) (Q : α → Prop) : Prop :=
  Keeping (Returns) (fun _ => True) (AllSettled lib settings job) m Q

variable (output : JsonDict)

theorem downloadBytes_gathers (url : String) :
    Gathers lib settings job (downloadBytes lib output url) fun _ => True := by
  refine .asked trivial fun answer => ?_
  refine .computed fun fetched => ?_
  refine .computed fun contentType => ?_
  exact .pure trivial

theorem decodeBytes_gathers (value : String) :
    Gathers lib settings job (decodeBytes lib output value) fun _ => True := by
  rw [decodeBytes]
  cases lib.b64decode value with
  | none => exact .throw _
  | some data =>
    refine .computed fun contentType => ?_
    exact .pure trivial

theorem readOutputBytes_gathers :
    Gathers lib settings job (readOutputBytes lib output) fun _ => True := by
  rw [readOutputBytes]
  cases textOf (output.get "b64_json") with
  | some value => exact decodeBytes_gathers output value
  | none =>
    cases textOf (output.get "url") with
    | some url => exact downloadBytes_gathers output url
    | none => exact .throw _

theorem uploaded_ok {answer : Except String StoredObjectRef} {stored : StoredObjectRef}
    (returned : uploaded answer = .ok stored) : answer = .ok stored := by
  cases answer with
  | ok ref =>
    cases returned
    rfl
  | error text => cases returned

theorem archiveNew_gathers (index : Nat) (output : JsonDict) :
    Gathers lib settings job (archiveNew lib settings job index output) fun _ => True := by
  refine .bind (readOutputBytes_gathers output) ?_
  intro bytes _
  refine .bind (Q := InNamespace lib job)
    (.ofExcept fun key eq => objectKeyOf_in_namespace eq) ?_
  intro key within
  refine .bind (Q := fun bucket => mediaOutputBucket settings job = .ok bucket)
    (.ofExcept fun bucket eq => eq) ?_
  intro bucket configured
  refine .bind (Q := fun answer => ∀ stored, answer = Except.ok stored → HandsBack
      (storageRef job bucket key (hexdigest lib bytes.data) bytes) stored)
    (.perform trivial fun answer told => told) ?_
  intro answer told
  refine .bind (Q := HandsBack
      (storageRef job bucket key (hexdigest lib bytes.data) bytes))
    (.ofExcept fun stored eq => told stored (uploaded_ok eq)) ?_
  intro stored kept
  apply Keeping.modify
  intro a settled output' mem
  cases List.mem_append.mp mem with
  | inl old => exact settled output' old
  | inr new =>
    rw [List.mem_singleton.mp new]
    exact archivedOutput_settled configured within rfl kept

theorem archiveOutput_gathers (index : Nat) (output : JsonDict) :
    Gathers lib settings job (archiveOutput lib settings job index output) fun _ => True := by
  refine .ite ?_ ?_
  · intro referenced
    refine .bind (Q := fun ref =>
        validateMediaOutputStorageReference lib settings job output = .ok ref)
      (.ofExcept fun ref eq => eq) ?_
    intro ref accepted
    apply Keeping.modify
    intro a settled output' mem
    cases List.mem_append.mp mem with
    | inl old => exact settled output' old
    | inr new =>
      rw [List.mem_singleton.mp new]
      exact ⟨referenced, ref, accepted⟩
  · intro _
    exact archiveNew_gathers index output

theorem archiveOutputs_gathers (index : Nat) (outputs : List JsonDict) :
    Gathers lib settings job (archiveOutputs lib settings job index outputs) fun _ => True := by
  induction outputs generalizing index with
  | nil => exact .pure trivial
  | cons output rest ih =>
    refine .bind (archiveOutput_gathers index output) ?_
    intro _ _
    exact ih (index + 1)

theorem archiveAll_gathers (outputs : List JsonDict) :
    Gathers lib settings job (archiveAll lib settings job outputs) fun r =>
      ∀ output ∈ r.1, Settled lib settings job output := by
  refine .bind (archiveOutputs_gathers 0 outputs) ?_
  intro _ _
  refine .bind Keeping.get ?_
  intro a settled
  refine .computed fun bucket => ?_
  exact .pure settled

theorem archiveMediaOutputs_settled {outputs : Option (List JsonDict)}
    {t : List (Event ArchiveCall ArchiveAnswer)} {r : List JsonDict × JsonDict}
    (run : Program.Runs (archiveMediaOutputs lib settings job outputs) t (.ok r))
    (returns : ∀ e ∈ t, Returns e) : ∀ output ∈ r.1, Settled lib settings job output := by
  rw [archiveMediaOutputs] at run
  split at run
  · cases run
    intro output mem
    cases mem
  · have start : AllSettled lib settings job ⟨[], 0, 0⟩ := fun output mem => by cases mem
    exact ((archiveAll_gathers _).run start).of_runs run returns r rfl

theorem archiveOutput_of_settled {output : JsonDict} (settled : Settled lib settings job output)
    (index : Nat) (a : Archive) :
    archiveOutput lib settings job index output a = .ret (.ok (), a.skip output) := by
  obtain ⟨referenced, ref, accepted⟩ := settled
  rw [archiveOutput, if_pos referenced, accepted]
  rfl

theorem archiveOutputs_of_settled {outputs : List JsonDict}
    (settled : ∀ output ∈ outputs, Settled lib settings job output) (index : Nat) (a : Archive) :
    archiveOutputs lib settings job index outputs a =
      .ret (.ok (), ⟨a.outputs ++ outputs, a.archivedCount, a.skippedCount + outputs.length⟩) := by
  induction outputs generalizing index a with
  | nil =>
    rw [List.append_nil]
    rfl
  | cons output rest ih =>
    obtain ⟨first, later⟩ := List.forall_mem_cons.mp settled
    change ((archiveOutput lib settings job index output a).bind _) = _
    rw [archiveOutput_of_settled first]
    refine (ih later (index + 1) (a.skip output)).trans ?_
    simp only [Archive.skip, List.append_assoc, List.singleton_append, List.length_cons]
    rw [Nat.add_assoc, Nat.add_comm 1]

theorem archiveMediaOutputs_of_settled {outputs : List JsonDict}
    (settled : ∀ output ∈ outputs, Settled lib settings job output) :
    ∃ summary, archiveMediaOutputs lib settings job (some outputs) =
      .ret (.ok (outputs, summary)) := by
  cases outputs with
  | nil => exact ⟨_, rfl⟩
  | cons output rest =>
    obtain ⟨ref, accepted⟩ := (settled output List.mem_cons_self).validates
    have configured := (validate_ok.mp accepted).2.2.1
    refine ⟨archiveSummary ⟨output :: rest, 0, 0 + (output :: rest).length⟩ ref.1, ?_⟩
    change (((archiveOutputs lib settings job 0 (output :: rest) ⟨[], 0, 0⟩).bind _).bind _) = _
    rw [archiveOutputs_of_settled settled]
    simp only [Program.bind, List.nil_append]
    rw [configured]
    rfl

/-- Of an adapter that hands back what it got, every run ends with outputs that validate, and
archiving these again calls nothing and returns them. -/
theorem archived_outputs_settle (lib : OutputLibrary) (settings : MediaOutputSettings)
    (job : MediaGenerationJob) (outputs : Option (List JsonDict))
    (t : List (Event ArchiveCall ArchiveAnswer)) (r : List JsonDict × JsonDict)
    (run : Program.Runs (archiveMediaOutputs lib settings job outputs) t (.ok r))
    (returns : ∀ e ∈ t, Returns e) :
    (∀ output ∈ r.1, ∃ ref,
      validateMediaOutputStorageReference lib settings job output = .ok ref) ∧
    ∃ summary, archiveMediaOutputs lib settings job (some r.1) = .ret (.ok (r.1, summary)) := by
  have settled := archiveMediaOutputs_settled run returns
  exact ⟨fun output mem => (settled output mem).validates, archiveMediaOutputs_of_settled settled⟩

variable (metadata : JsonDict → JsonDict)

def tagging : (e : ArchiveCall) → ArchiveAnswer e
  | .download _ => Except.error (.archive "Media output URL scheme is not allowed.")
  | .putObject given _ => Except.ok { given with metadata := metadata given.metadata }

def posterOutputs : List JsonDict := [[("b64_json", .str "aGk="), ("mime_type", .str "image/png")]]

def archived :
    List (Event ArchiveCall ArchiveAnswer) × Except ArchiveError (List JsonDict × JsonDict) :=
  (archiveMediaOutputs plainLibrary mediaBucket posterJob (some posterOutputs)).follow
    (tagging metadata)

theorem archived_ok (returned : (archived metadata).2.toBool = true) :
    ∃ t r, Program.Runs (archiveMediaOutputs plainLibrary mediaBucket posterJob
      (some posterOutputs)) t (.ok r) ∧ (archived metadata) = (t, .ok r) := by
  obtain ⟨r, eq⟩ := Fallible.exists_of_toBool returned
  have run := Program.follow_runs (tagging metadata)
    (archiveMediaOutputs plainLibrary mediaBucket posterJob (some posterOutputs))
  refine ⟨(archived metadata).1, r, eq ▸ run, ?_⟩
  rw [← eq]

theorem poster_archived : ∃ t r,
    Program.Runs (archiveMediaOutputs plainLibrary mediaBucket posterJob (some posterOutputs)) t
      (.ok r) ∧
    (∀ output ∈ r.1, ∃ ref,
      validateMediaOutputStorageReference plainLibrary mediaBucket posterJob output = .ok ref) ∧
    ∃ summary, archiveMediaOutputs plainLibrary mediaBucket posterJob (some r.1) =
      .ret (.ok (r.1, summary)) := by
  obtain ⟨t, r, run, eq⟩ := archived_ok id (by decide +kernel)
  have told : ∀ e ∈ (archived id).1, Returns e := by
    apply Program.follow_told
    intro e
    cases e with
    | download url => trivial
    | putObject given data =>
      intro stored eq
      cases eq
      exact HandsBack.refl given
  rw [eq] at told
  exact ⟨t, r, run, archived_outputs_settle _ _ _ _ t r run told⟩

def foreignTenant (metadata : JsonDict) : JsonDict := metadata.set "tenant_id" (.str "elsewhere")

def KeepsPlace : Event ArchiveCall ArchiveAnswer → Prop
  | ⟨.download _, _⟩ => True
  | ⟨.putObject given _, answer⟩ => ∀ stored, answer = Except.ok stored →
      stored.bucket = given.bucket ∧ stored.objectKey = given.objectKey

def ownerRefused : Bool :=
  [true, false].all fun required =>
    !(validateStorageOwnerMetadata plainLibrary posterJob output required).toBool

theorem refused_of_owner {output : JsonDict} (refused : ownerRefused output = true)
    (ref : String × String) :
    validateMediaOutputStorageReference plainLibrary mediaBucket posterJob output ≠ .ok ref := by
  intro accepted
  obtain ⟨base, relative, _, _, _, owned⟩ := validateKey_ok.mp (validate_ok.mp accepted).2.2.2
  have each := List.all_eq_true.mp refused relative.2
  rw [owned] at each
  generalize relative.2 = required at each
  cases required with
  | true => exact Bool.noConfusion (each (by decide))
  | false => exact Bool.noConfusion (each (by decide))

theorem foreign_output_refused :
    ¬ ∀ outputs t r,
      Program.Runs (archiveMediaOutputs plainLibrary mediaBucket posterJob (some outputs)) t
        (.ok r) →
      (∀ e ∈ t, KeepsPlace e) →
      ∀ output ∈ r.1, ∃ ref,
        validateMediaOutputStorageReference plainLibrary mediaBucket posterJob output = .ok ref := by
  intro validates
  obtain ⟨t, r, run, eq⟩ := archived_ok foreignTenant (by decide +kernel)
  have refused : (archived foreignTenant).2.toOption.map (fun r => r.1.any ownerRefused) =
      some true := by decide +kernel
  have told : ∀ e ∈ (archived foreignTenant).1, KeepsPlace e := by
    apply Program.follow_told
    intro e
    cases e with
    | download url => trivial
    | putObject given data =>
      intro stored eq
      cases eq
      exact ⟨rfl, rfl⟩
  rw [eq] at refused told
  obtain ⟨output, mem, foreign⟩ := List.any_eq_true.mp (Option.some.inj refused)
  obtain ⟨ref, accepted⟩ := validates posterOutputs t r run told output mem
  exact refused_of_owner foreign ref accepted

end AgentHive.MediaOutputArchive
