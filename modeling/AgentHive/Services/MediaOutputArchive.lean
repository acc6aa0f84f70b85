import AgentHive.Llm.PolicyValidation
import AgentHive.Process.Keeping
import AgentHive.Rag.Schemas
import AgentHive.Store.HexText
import AgentHive.Store.ObjectPath

/-!
Where the outputs of media jobs are stored: the namespace of a job, which stored
references are accepted for it, and the archival of what a provider has returned.
-/

namespace AgentHive.MediaOutputArchive

open Process
open Rag (Json JsonDict)
open PolicyValidation (strip isSpace)

def isPlainChar (c : Char) : Bool :=
  c != '/' && c != '\\' && !isSpace c && !(c.toNat < 32 || c.toNat == 127)

structure OutputLibrary where
  str : Json → String
  urlPath : String → Except String String
  guessType : String → Option String
  guessExtension : String → Option String
  b64decode : String → Option (List UInt8)
  sha256 : List UInt8 → Nat
  str_text : ∀ text, str (.str text) = text
  extension_plain : ∀ type extension, guessExtension type = some extension →
    ∃ rest, extension.toList = '.' :: rest ∧ ∀ c ∈ rest, isPlainChar c = true

structure MediaOutputSettings where
  mediaOutputBucket : String

inductive ArchiveError
  | archive (text : String)
  | raised (text : String)
deriving DecidableEq

structure MediaGenerationJob where
  id : UUID
  tenantId : UUID
  kind : String
  providerKey : String
  modelKey : String
  outputStorage : JsonDict
  id_bounded : id < 2 ^ 128
  tenant_bounded : tenantId < 2 ^ 128

structure StoredObjectRef where
  bucket : String
  objectKey : String
  contentType : Option String
  sizeBytes : Option Nat
  checksumSha256 : Option String
  metadata : JsonDict

def uuidText (id : UUID) : String := String.ofList (HexText.uuid id)

def hasControlCharacters (value : String) : Bool :=
  value.toList.any fun c => c.toNat < 32 || c.toNat == 127

def isSafeObjectKeyPath (value : String) : Bool :=
  if value = "" ∨ value ≠ strip value ∨ '\\' ∈ value.toList ∨ hasControlCharacters value then false
  else if [] ∈ value.toList.splitOn '/' ∨ ['.'] ∈ value.toList.splitOn '/' ∨
      ['.', '.'] ∈ value.toList.splitOn '/' then false
  else ObjectPath.asPosix value.toList == value.toList

def stripSlashes (text : String) : String :=
  String.ofList ((text.toList.dropWhile (· == '/')).reverse.dropWhile (· == '/')).reverse

variable (lib : OutputLibrary) (settings : MediaOutputSettings) (job : MediaGenerationJob)

def mediaOutputBucket : Except ArchiveError String :=
  let bucket := job.outputStorage.get "bucket"
  match if bucket.isNull then .str settings.mediaOutputBucket else bucket with
  | .str bucket =>
    if bucket = "" ∨ bucket ≠ strip bucket then
      .error (.archive "Media output storage bucket is invalid.")
    else if '/' ∈ bucket.toList ∨ '\\' ∈ bucket.toList ∨ hasControlCharacters bucket then
      .error (.archive "Media output storage bucket is invalid.")
    else .ok bucket
  | _ => .error (.archive "Media output storage bucket is invalid.")

def safePrefix (rawPrefix : Json) : Except ArchiveError String :=
  match rawPrefix with
  | .str rawPrefix =>
    if !isSafeObjectKeyPath (stripSlashes rawPrefix) ∨ stripSlashes rawPrefix ≠ rawPrefix then
      .error (.archive "Media output storage prefix is invalid.")
    else .ok (stripSlashes rawPrefix)
  | _ => .error (.archive "Media output storage prefix is invalid.")

def mediaOutputBasePrefix : Except ArchiveError String :=
  let configuredTenantId := job.outputStorage.get "tenant_id"
  if !configuredTenantId.isNull ∧ lib.str configuredTenantId ≠ uuidText job.tenantId then
    .error (.archive "Media output storage tenant does not match the media generation job.")
  else
    let rawPrefix := job.outputStorage.get "prefix"
    safePrefix (if rawPrefix.isNull then .str ("generated/" ++ job.kind) else rawPrefix)

def namespaceOf (base : String) (job : MediaGenerationJob) : String :=
  base ++ "/tenants/" ++ uuidText job.tenantId ++ "/jobs/" ++ uuidText job.id ++ "/"

def mediaOutputObjectKeyPrefix : Except ArchiveError String := do
  let base ← mediaOutputBasePrefix lib job
  pure (namespaceOf base job)

def legacyNamespaceOf (base : String) (job : MediaGenerationJob) : String :=
  base ++ "/" ++ uuidText job.id ++ "/"

def removePrefix (start text : String) : Option String :=
  if start.toList <+: text.toList then some (String.ofList (text.toList.drop start.toList.length))
  else none

def relativeObjectKey (expectedPrefix legacyPrefix objectKey : String) :
    Except ArchiveError (String × Bool) :=
  match removePrefix expectedPrefix objectKey with
  | some relativeKey => .ok (relativeKey, false)
  | none =>
    match removePrefix legacyPrefix objectKey with
    | some relativeKey => .ok (relativeKey, true)
    | none =>
      .error (.archive "Media output object key is outside the job tenant storage prefix.")

def namedJobs (metadata : JsonDict) : List Json :=
  (["agenthive_job_id", "job_id"].map metadata.get).filter fun value => !value.isNull

def validateOwner (metadata : JsonDict) (required : Bool) : Except ArchiveError Unit :=
  let tenantId := metadata.get "tenant_id"
  if required ∧ tenantId.isNull ∨ !tenantId.isNull ∧ lib.str tenantId ≠ uuidText job.tenantId then
    .error (.archive "Media output storage metadata tenant does not match.")
  else if ∃ value ∈ namedJobs metadata, lib.str value ≠ uuidText job.id then
    .error (.archive "Media output storage metadata job does not match.")
  else if required ∧ (namedJobs metadata).isEmpty then
    .error (.archive "Media output storage metadata job does not match.")
  else .ok ()

def validateStorageOwnerMetadata (output : JsonDict) (required : Bool) : Except ArchiveError Unit :=
  match output.get "storage_metadata" with
  | .null =>
    if required then
      .error (.archive
        "Legacy media output reference requires tenant and job ownership metadata.")
    else .ok ()
  | .obj metadata => validateOwner lib job metadata required
  | _ => .error (.archive "Media output storage metadata is invalid.")

def validateKey (output : JsonDict) (objectKey : String) : Except ArchiveError Unit := do
  let expectedPrefix ← mediaOutputObjectKeyPrefix lib job
  let base ← mediaOutputBasePrefix lib job
  let relative ← relativeObjectKey expectedPrefix (legacyNamespaceOf base job) objectKey
  if !isSafeObjectKeyPath relative.1 then .error (.archive "Media output object key is invalid.")
  else validateStorageOwnerMetadata lib job output relative.2

def validateMediaOutputStorageReference (output : JsonDict) :
    Except ArchiveError (String × String) :=
  match output.get "bucket", output.get "object_key" with
  | .str bucket, .str objectKey => do
    let expectedBucket ← mediaOutputBucket settings job
    if bucket ≠ expectedBucket then
      .error (.archive "Media output bucket is not allowed for this job.")
    else do
      validateKey lib job output objectKey
      pure (bucket, objectKey)
  | _, _ =>
    .error (.archive "Media output private storage reference requires bucket and object_key.")

variable (output : JsonDict)

def hasPrivateObjectRefFields : Bool :=
  (output.lookup "bucket").isSome || (output.lookup "object_key").isSome

def guessContentType (url : String) : Except ArchiveError String :=
  match lib.urlPath url with
  | .error text => .error (.raised text)
  | .ok path => .ok ((lib.guessType path).getD "application/octet-stream")

def suffixOf (type : String) : Option String :=
  (lib.guessExtension type).filter fun extension => extension != ""

def mediaTypeOf (contentType : String) : String :=
  strip (String.ofList ((contentType.toList.splitOn ';').headD []))

def defaultExtension (contentType : String) : String :=
  (suffixOf lib (mediaTypeOf contentType)).getD ".bin"

def extensionOf (contentType : String) : Except ArchiveError String :=
  match output.firstOf ["filename", "object_key", "url"] with
  | .str existing =>
    match lib.urlPath existing with
    | .error text => .error (.raised text)
    | .ok path =>
      .ok ((suffixOf lib ((lib.guessType path).getD contentType)).getD
        (defaultExtension lib contentType))
  | _ => .ok (defaultExtension lib contentType)

def hexdigest (data : List UInt8) : String := String.ofList (HexText.hex 64 (lib.sha256 data))

def fileName (index : Nat) (checksum extension : String) : String :=
  String.ofList (Nat.toDigits 10 (index + 1)) ++ "-" ++ String.ofList (checksum.toList.take 16) ++
    extension

def objectKeyOf (output : JsonDict) (index : Nat) (checksum contentType : String) :
    Except ArchiveError String := do
  let extension ← extensionOf lib output contentType
  let start ← mediaOutputObjectKeyPrefix lib job
  pure (start ++ fileName index checksum extension)

inductive ArchiveCall
  | download (url : String)
  | putObject (storage : StoredObjectRef) (data : List UInt8)

def ArchiveAnswer : ArchiveCall → Type
  | .download _ => Except ArchiveError (List UInt8 × Option String)
  | .putObject _ _ => Except String StoredObjectRef

structure Archive where
  outputs : List JsonDict
  archivedCount : Nat
  skippedCount : Nat

abbrev ArchiveAction : Type → Type := Action ArchiveCall ArchiveAnswer Archive ArchiveError

def mimeType (fallback : Except ArchiveError String) : Except ArchiveError String :=
  if (output.get "mime_type").truthy then .ok (lib.str (output.get "mime_type")) else fallback

def downloadedType (url : String) : Option String → Except ArchiveError String
  | some contentType => if contentType = "" then guessContentType lib url else .ok contentType
  | none => guessContentType lib url

structure OutputBytes where
  data : List UInt8
  contentType : String
  source : String

def decodeBytes (value : String) : ArchiveAction OutputBytes :=
  match lib.b64decode value with
  | none => .throw (.archive "Media output b64_json is invalid.")
  | some data => do
    let contentType ← .ofExcept (mimeType lib output (.ok "image/png"))
    pure ⟨data, contentType, "provider_b64_json"⟩

def downloadBytes (url : String) : ArchiveAction OutputBytes := do
  let answer : Except ArchiveError (List UInt8 × Option String) ←
    Action.perform (ArchiveCall.download url)
  let fetched ← .ofExcept answer
  let contentType ← .ofExcept (mimeType lib output (downloadedType lib url fetched.2))
  pure ⟨fetched.1, contentType, "provider_url"⟩

def textOf : Json → Option String
  | .str text => if text = "" then none else some text
  | _ => none

def readOutputBytes : ArchiveAction OutputBytes :=
  match textOf (output.get "b64_json") with
  | some value => decodeBytes lib output value
  | none =>
    match textOf (output.get "url") with
    | some url => downloadBytes lib output url
    | none => .throw (.archive
        "Media output has no private object reference, url, or b64_json.")

def jsonText : Option String → Json
  | some text => .str text
  | none => .null

def jsonNat : Option Nat → Json
  | some n => .num n
  | none => .null

def originalUrl (value : Json) : Json :=
  match value with
  | .str url => .str url
  | _ => .null

def archivedOutput (original : JsonDict) (stored : StoredObjectRef) (checksum source : String) :
    JsonDict :=
  JsonDict.merge (original.filter fun entry => entry.1 != "b64_json")
    [("bucket", .str stored.bucket),
     ("object_key", .str stored.objectKey),
     ("mime_type", jsonText stored.contentType),
     ("size_bytes", jsonNat stored.sizeBytes),
     ("checksum_sha256", .str checksum),
     ("archived", .bool true),
     ("archive_source", .str source),
     ("storage_metadata", .obj stored.metadata),
     ("original_url", originalUrl (original.get "url")),
     ("url", .null)]

def storageRef (bucket objectKey checksum : String) (bytes : OutputBytes) : StoredObjectRef where
  bucket := bucket
  objectKey := objectKey
  contentType := some bytes.contentType
  sizeBytes := some bytes.data.length
  checksumSha256 := some checksum
  metadata :=
    [("agenthive_job_id", .str (uuidText job.id)),
     ("tenant_id", .str (uuidText job.tenantId)),
     ("media_kind", .str job.kind),
     ("provider_key", .str job.providerKey),
     ("model_key", .str job.modelKey),
     ("source", .str bytes.source)]

def uploaded : Except String StoredObjectRef → Except ArchiveError StoredObjectRef
  | .ok stored => .ok stored
  | .error text => .error (.archive ("Media output archival failed: " ++ text))

def Archive.skip (a : Archive) : Archive where
  outputs := a.outputs ++ [output]
  archivedCount := a.archivedCount
  skippedCount := a.skippedCount + 1

def Archive.add (a : Archive) : Archive where
  outputs := a.outputs ++ [output]
  archivedCount := a.archivedCount + 1
  skippedCount := a.skippedCount

def archiveNew (index : Nat) (output : JsonDict) : ArchiveAction Unit := do
  let bytes ← readOutputBytes lib output
  let checksum := hexdigest lib bytes.data
  let objectKey ← .ofExcept (objectKeyOf lib job output index checksum bytes.contentType)
  let bucket ← .ofExcept (mediaOutputBucket settings job)
  let answer : Except String StoredObjectRef ← Action.perform
    (ArchiveCall.putObject (storageRef job bucket objectKey checksum bytes) bytes.data)
  let stored ← .ofExcept (uploaded answer)
  .modify (Archive.add (archivedOutput output stored checksum bytes.source))

def archiveOutput (index : Nat) (output : JsonDict) : ArchiveAction Unit :=
  if hasPrivateObjectRefFields output then do
    let _ ← .ofExcept (validateMediaOutputStorageReference lib settings job output)
    .modify (Archive.skip output)
  else archiveNew lib settings job index output

def archiveOutputs (job : MediaGenerationJob) : Nat → List JsonDict → ArchiveAction Unit
  | _, [] => pure ()
  | index, output :: rest => do
    archiveOutput lib settings job index output
    archiveOutputs job (index + 1) rest

def archiveSummary (a : Archive) (bucket : String) : JsonDict :=
  [("archived_count", .num a.archivedCount), ("skipped_count", .num a.skippedCount),
   ("bucket", .str bucket)]

def archiveAll (outputs : List JsonDict) : ArchiveAction (List JsonDict × JsonDict) := do
  archiveOutputs lib settings job 0 outputs
  let a ← .get
  let bucket ← .ofExcept (mediaOutputBucket settings job)
  pure (a.outputs, archiveSummary a bucket)

def archiveMediaOutputs (outputs : Option (List JsonDict)) :
    Program ArchiveCall ArchiveAnswer (Except ArchiveError (List JsonDict × JsonDict)) :=
  match outputs.getD [] with
  | [] => .ret (.ok ([], [("archived_count", .num 0), ("skipped_count", .num 0)]))
  | output :: rest => (archiveAll lib settings job (output :: rest)).run ⟨[], 0, 0⟩

end AgentHive.MediaOutputArchive
