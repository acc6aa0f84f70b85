import AgentHive.Services.LicenseCrypto
import Mathlib.Data.List.Dedup
import Mathlib.Data.List.DropRight

/-!
Issuing licenses from an activation request.
-/

namespace AgentHive.LicenseIssue

open JsonText TextBytes LicenseCrypto

/-- The libraries on both sides. A private key has a public one, and what is read of a date that
has been written has the offset that is read of its own. -/
structure IssueLibrary (N D K P : Type) extends PayloadTexts N D where
  isZero : N → Bool
  strOther : Value N → String
  fromisoformat : String → Option PyDatetime
  readInt : Value N → Option Int
  readDecimal : Value N → Option D
  readDate : Value N → Option PyDatetime
  readOffset : Int → Int
  decimalFits : D → Bool
  loadPem : List Nat → PemKey K
  publicPem : P → List Nat
  publicKey : P → K
  sign : P → List Nat → List Nat
  verify : K → List Nat → List Nat → Bool
  readInt_ofInt : ∀ n, readInt (.num (ofInt n)) = some n
  readDecimal_text : ∀ d, readDecimal (jsonText (decimalText d)) = some d
  readOffset_utc : readOffset 0 = 0
  dump_distinct : ∀ {m d}, dumpMetadata m = some d → Distinct (.obj m) → Distinct (.obj d)
  /-- What has been dumped is dumped as it is, in any order of its keys. -/
  dump_again : ∀ {m d e}, dumpMetadata m = some d → sortKeys (.obj d) = .obj e →
    dumpMetadata e = some e
  loadPem_public : ∀ key, loadPem (publicPem key) = .ed25519 (publicKey key)
  sign_bytes : ∀ {key message b}, b ∈ sign key message → b < 256
  verify_sign : ∀ key message, verify (publicKey key) (sign key message) message = true

variable {N D K P : Type}

def sortedUnique (items : List String) : List String :=
  items.dedup.insertionSort fun a b => codes a ≤ codes b

section Documents

variable (lib : IssueLibrary N D K P)

def Admissible (p : SignedLicensePayload N D) : Prop :=
  (1 ≤ p.licenseId.length ∧ p.licenseId.length ≤ 120) ∧
    (1 ≤ p.licenseType.length ∧ p.licenseType.length ≤ 40) ∧
    (1 ≤ p.customerName.length ∧ p.customerName.length ≤ 150) ∧
    (64 ≤ p.machineFingerprintHash.length ∧ p.machineFingerprintHash.length ≤ 128) ∧
    (∀ n ∈ p.maxUsers, 1 ≤ n) ∧ (∀ n ∈ p.maxAgents, 1 ≤ n) ∧
    ∀ d ∈ p.maxKbSizeGb, lib.decimalFits d = true

instance (p : SignedLicensePayload N D) : Decidable (Admissible lib p) := by
  unfold Admissible
  infer_instance

def validated (p : SignedLicensePayload N D) : Option (SignedLicensePayload N D) :=
  if Admissible lib p then
    some { p with
      allowedModules := sortedUnique p.allowedModules
      allowedFeatures := sortedUnique p.allowedFeatures }
  else none

def field (entries : List (List Nat × Value N)) (name : String) : Option (Value N) :=
  entries.lookup (codes name)

def readStr : Value N → Option String
  | .str text => ofCodes text
  | _ => none

def readStrs : Value N → Option (List String)
  | .arr items => items.mapM readStr
  | _ => none

def readMetadata : Value N → Option (List (List Nat × Value N))
  | .obj entries => some entries
  | _ => none

def nullable {α : Type} (read : Value N → Option α) : Value N → Option (Option α)
  | .null => some none
  | v => (read v).map some

def withDefault {α : Type} (default : α) (read : Value N → Option α) :
    Option (Value N) → Option α
  | none => some default
  | some v => read v

def readPayload : Value N → Option (SignedLicensePayload N D)
  | .obj entries => do
    let schemaVersion ← withDefault 1 lib.readInt (field entries "schema_version")
    let product ← withDefault "AgentHive" readStr (field entries "product")
    let licenseId ← (field entries "license_id").bind readStr
    let licenseType ← (field entries "license_type").bind readStr
    let customerName ← (field entries "customer_name").bind readStr
    let tenantId ← withDefault none (nullable readStr) (field entries "tenant_id")
    let deploymentId ← (field entries "deployment_id").bind readStr
    let installId ← (field entries "install_id").bind readStr
    let machineFingerprintHash ← (field entries "machine_fingerprint_hash").bind readStr
    let allowedModules ← withDefault [] readStrs (field entries "allowed_modules")
    let allowedFeatures ← withDefault [] readStrs (field entries "allowed_features")
    let maxUsers ← withDefault none (nullable lib.readInt) (field entries "max_users")
    let maxAgents ← withDefault none (nullable lib.readInt) (field entries "max_agents")
    let maxKbSizeGb ←
      withDefault none (nullable lib.readDecimal) (field entries "max_kb_size_gb")
    let maintenanceUntil ←
      withDefault none (nullable lib.readDate) (field entries "maintenance_until")
    let expiresAt ← withDefault none (nullable lib.readDate) (field entries "expires_at")
    let issuedAt ← (field entries "issued_at").bind lib.readDate
    let notBefore ← withDefault none (nullable lib.readDate) (field entries "not_before")
    let metadata ← withDefault [] readMetadata (field entries "metadata")
    validated lib
      { schemaVersion, product, licenseId, licenseType, customerName, tenantId, deploymentId
        installId, machineFingerprintHash, allowedModules, allowedFeatures, maxUsers, maxAgents
        maxKbSizeGb, maintenanceUntil, expiresAt, issuedAt, notBefore, metadata }
  | _ => none

def readEnvelope : Value N → Option (SignedLicenseEnvelope N D)
  | .obj entries => do
    let payload ← (field entries "payload").bind (readPayload lib)
    let signatureAlg ← withDefault "Ed25519" readStr (field entries "signature_alg")
    let signature ← (field entries "signature").bind readStr
    some { payload, signatureAlg, signature }
  | _ => none

def dumpEnvelope (envelope : SignedLicenseEnvelope N D) : Option (Value N) :=
  (dumpPayload lib.toPayloadTexts envelope.payload).map fun payload =>
    .obj [(codes "payload", payload), (codes "signature_alg", jsonText envelope.signatureAlg),
      (codes "signature", jsonText envelope.signature)]

/-- Base64 of bytes in UTF-8, as `parse_signed_license` undoes it. -/
def decodeText (raw : List Nat) : Except String (List Nat) :=
  match encodeUtf8 raw with
  | none => .error "UnicodeEncodeError"
  | some encoded =>
    match TextBytes.b64decode encoded with
    | none => .error "Error"
    | some bytes =>
      match decodeUtf8 bytes with
      | none => .error "UnicodeDecodeError"
      | some text => .ok text

def modelValidate (v : Value N) : Except String (SignedLicenseEnvelope N D) :=
  match readEnvelope lib v with
  | some envelope => .ok envelope
  | none => .error "ValidationError"

def installed : LicenseLibrary N D K where
  toPayloadTexts := lib.toPayloadTexts
  loads := loads lib.numbers
  b64decodeText := decodeText
  modelValidate := modelValidate lib
  loadPem := lib.loadPem
  b64decode signature := TextBytes.b64decode (codes signature)
  verify := lib.verify

end Documents

structure AgentModuleDefinition where
  id : String
  requiredFeatures : List String

def moduleDefinitions : List AgentModuleDefinition :=
  [⟨"agent.customer_service", ["feature.agent_catalog"]⟩,
    ⟨"agent.hr_screening", ["feature.agent_catalog"]⟩,
    ⟨"agent.copywriting", ["feature.agent_catalog"]⟩,
    ⟨"agent.image_generation",
      ["feature.agent_catalog", "feature.media_generation", "feature.model_budget"]⟩,
    ⟨"agent.video_generation",
      ["feature.agent_catalog", "feature.media_generation", "feature.model_budget"]⟩,
    ⟨"agent.content_analysis", ["feature.agent_catalog"]⟩,
    ⟨"agent.report_writer", ["feature.agent_catalog"]⟩,
    ⟨"agent.product_design", ["feature.agent_catalog"]⟩,
    ⟨"agent.finance", ["feature.agent_catalog", "feature.model_budget"]⟩,
    ⟨"agent.store_operations", ["feature.agent_catalog"]⟩,
    ⟨"agent.custom_builder", ["feature.agent_catalog", "feature.model_budget"]⟩,
    ⟨"agent.data_analyst", ["feature.agent_catalog", "feature.model_budget"]⟩]

def officialModules : List String := moduleDefinitions.map (·.id)

def standardFeatures : List String :=
  ["feature.agent_catalog", "feature.license_offline_activation", "feature.model_budget",
    "channel.web_widget"]

def definitionsById : OrderedDict String AgentModuleDefinition :=
  .ofEntries (moduleDefinitions.map fun definition => (definition.id, definition))

def featuresOf (moduleKey : String) : List String :=
  match definitionsById.get moduleKey with
  | some definition => definition.requiredFeatures
  | none => []

variable (moduleKeys : List String)

def requiredFeaturesForModules : List String :=
  sortedUnique (moduleKeys.flatMap featuresOf)

def missingRequiredFeaturesForModules (featureKeys : List String) : List String :=
  sortedUnique ((requiredFeaturesForModules moduleKeys).filter fun feature =>
    decide (feature ∉ featureKeys))

def missingMessage (missing : List String) : String :=
  "Selected Agent modules require missing license features: " ++ ", ".intercalate missing ++
    ". Add explicit --feature values or use --standard-features."

def validateModuleFeatureCoverage (featureKeys : List String) : Except Exc Unit :=
  let missing := missingRequiredFeaturesForModules moduleKeys featureKeys
  if missing = [] then .ok () else .error (.other "SystemExit" (missingMessage missing))

section Issue

variable (lib : IssueLibrary N D K P)

structure IssueArgs (D : Type) where
  customerName : String
  licenseId : Option String := none
  licenseType : String := "standard"
  modules : List String := []
  features : List String := []
  allOfficialModules : Bool := false
  standardFeatures : Bool := false
  maxUsers : Int := 50
  maxAgents : Int := 5
  maxKbSizeGb : D
  maintenanceUntil : Option String := none
  expiresAt : Option String := none
  notBefore : Option String := none
  metadataJson : List Nat := codes "\x7b\x7d"
  base64 : Bool := false

/-- `_load_json` of a request, which is then asked for its keys. -/
def loadRequest (text : List Nat) : Except Exc (List (List Nat × Value N)) :=
  match loads lib.numbers text with
  | .ok (.obj entries) => .ok entries
  | .ok _ => .error (.attribute "object has no attribute 'get'")
  | .error className => .error (.other className "")

def loadJsonText (raw : List Nat) : Except Exc (List (List Nat × Value N)) :=
  match loads lib.numbers raw with
  | .ok (.obj entries) => .ok entries
  | .ok _ => .error (.other "SystemExit" "--metadata-json must be a JSON object.")
  | .error className => .error (.other className "")

/-- `str(value)`, unless it has surrogates, which no field takes. -/
def pyStr : Value N → Option String
  | .str text => ofCodes text
  | v => some (lib.strOther v)

def isTrue : Value N → Bool
  | .null => false
  | .bool b => b
  | .num n => !lib.isZero n
  | .str text => !text.isEmpty
  | .arr items => !items.isEmpty
  | .obj entries => !entries.isEmpty

variable (request : List (List Nat × Value N))

def strField (name : String) : Except Exc String :=
  match field request name with
  | none => .error (.other "KeyError" name)
  | some v =>
    match pyStr lib v with
    | some text => .ok text
    | none => .error (.other "ValidationError" name)

def tenantOf : Except Exc (Option String) :=
  match field request "tenant_id" with
  | none => .ok none
  | some v =>
    if isTrue lib v then
      match pyStr lib v with
      | some text => .ok (some text)
      | none => .error (.other "ValidationError" "tenant_id")
    else .ok none

def replaceZ (text : String) : String :=
  String.ofList (text.toList.flatMap fun c => if c = 'Z' then "+00:00".toList else [c])

def inUtc (date : PyDatetime) : PyDatetime :=
  if date.offset = none then { date with offset := some 0 } else date

def parseDatetime (value : Option String) : Except Exc (Option PyDatetime) :=
  match value with
  | none => .ok none
  | some text =>
    if text = "" then .ok none
    else match lib.fromisoformat (replaceZ text) with
      | some date => .ok (some (inUtc date))
      | none => .error (.other "ValueError" "Invalid isoformat string")

def fieldOr (name : String) : Value N :=
  (field request name).getD .null

def requestMetadata (metadata request : List (List Nat × Value N)) : List (List Nat × Value N) :=
  (((OrderedDict.ofEntries metadata).set (codes "activation_request_id")
      (fieldOr request "request_id")).set (codes "activation_request_generated_at")
    (fieldOr request "generated_at")).entries

def chosen (all : Bool) (official given : List String) : List String :=
  sortedUnique ((if all then official else []) ++ given)

def licenseIdOf (licenseId : Option String) (uuid : String) : String :=
  if truthy licenseId then licenseId.getD "" else "AH-" ++ uuid

def buildPayload (p : SignedLicensePayload N D) : Except Exc (SignedLicensePayload N D) :=
  match validated lib p with
  | some payload => .ok payload
  | none => .error (.other "ValidationError" "")

def issuePayload (args : IssueArgs D) (request : List (List Nat × Value N)) (now : Int)
    (uuid : String) : Except Exc (SignedLicensePayload N D) := do
  let modules := chosen args.allOfficialModules officialModules args.modules
  let features := chosen args.standardFeatures LicenseIssue.standardFeatures args.features
  validateModuleFeatureCoverage modules features
  let metadata ← loadJsonText lib args.metadataJson
  let tenantId ← tenantOf lib request
  let deploymentId ← strField lib request "deployment_id"
  let installId ← strField lib request "install_id"
  let machineFingerprintHash ← strField lib request "machine_fingerprint_hash"
  let maintenanceUntil ← parseDatetime lib args.maintenanceUntil
  let expiresAt ← parseDatetime lib args.expiresAt
  let notBefore ← parseDatetime lib args.notBefore
  buildPayload lib
    { licenseId := licenseIdOf args.licenseId uuid
      licenseType := args.licenseType
      customerName := args.customerName
      tenantId, deploymentId, installId, machineFingerprintHash
      allowedModules := modules
      allowedFeatures := features
      maxUsers := some args.maxUsers
      maxAgents := some args.maxAgents
      maxKbSizeGb := some args.maxKbSizeGb
      maintenanceUntil, expiresAt
      issuedAt := ⟨now, some 0⟩
      notBefore
      metadata := requestMetadata metadata request }

def asciiText (bytes : List Nat) : String :=
  String.ofList ((b64encode bytes).map Char.ofNat)

def envelopeOf (key : P) (payload : SignedLicensePayload N D) (signed : List Nat) :
    SignedLicenseEnvelope N D where
  payload := payload
  signature := asciiText (lib.sign key signed)

def outputOf (base64 : Bool) (document : List Nat) : Option (List Nat) :=
  (encodeUtf8 document).map fun bytes => if base64 then b64encode bytes else document

def writtenLicense (key : P) (payload : SignedLicensePayload N D) (base64 : Bool) :
    Option (List Nat) :=
  (canonicalLicensePayload lib.toPayloadTexts payload).bind fun signed =>
    (dumpEnvelope lib (envelopeOf lib key payload signed)).bind fun envelope =>
      (outputOf base64 (dumpsIndented lib.numbers envelope)).map fun output => output ++ [0x0A]

def writeLicense (key : P) (payload : SignedLicensePayload N D) (base64 : Bool) :
    Except Exc (List Nat) :=
  match writtenLicense lib key payload base64 with
  | some text => .ok text
  | none => .error (.other "ValueError" "")

/-- `issue_license`: the text that is written. -/
def issueLicense (key : P) (args : IssueArgs D) (activationRequest : List Nat) (now : Int)
    (uuid : String) : Except Exc (List Nat) := do
  let request ← loadRequest lib activationRequest
  let payload ← issuePayload lib args request now uuid
  writeLicense lib key payload args.base64

def strip (text : List Nat) : List Nat := (text.dropWhile isWhite).rdropWhile isWhite

def tenantText : Option String :=
  match field request "tenant_id" with
  | none => none
  | some .null => none
  | some v => pyStr lib v

def identityOf : Except Exc LicenseIdentity := do
  let deploymentId ← strField lib request "deployment_id"
  let installId ← strField lib request "install_id"
  let machineFingerprintHash ← strField lib request "machine_fingerprint_hash"
  .ok { deploymentId, installId, machineFingerprintHash, tenantId := tenantText lib request }

end Issue

end AgentHive.LicenseIssue
