import AgentHive.Llm.Values
import AgentHive.Process.Fallible
import AgentHive.Store.JsonReading

/-!
Signed licenses: what is signed, and how a license is verified.

The signature covers the canonical text of the payload. What is signed is not the text that was
received, but the text that the payload read from it is written as.
-/

namespace AgentHive

/-- A `datetime`: the microseconds on its clock, and those of its offset from UTC. -/
structure PyDatetime where
  wall : Int
  offset : Option Int
deriving DecidableEq

namespace LicenseCrypto

open JsonText TextBytes

def difference (first second : PyDatetime) : Except Exc Int :=
  match first.offset, second.offset with
  | some a, some b => .ok ((first.wall - a) - (second.wall - b))
  | none, none => .ok (first.wall - second.wall)
  | _, _ => .error
      (.other "TypeError" "can't compare offset-naive and offset-aware datetimes")

structure SignedLicensePayload (N D : Type) where
  schemaVersion : Int := 1
  product : String := "AgentHive"
  licenseId : String
  licenseType : String
  customerName : String
  tenantId : Option String := none
  deploymentId : String
  installId : String
  machineFingerprintHash : String
  allowedModules : List String := []
  allowedFeatures : List String := []
  maxUsers : Option Int := none
  maxAgents : Option Int := none
  maxKbSizeGb : Option D := none
  maintenanceUntil : Option PyDatetime := none
  expiresAt : Option PyDatetime := none
  issuedAt : PyDatetime
  notBefore : Option PyDatetime := none
  metadata : List (List Nat × Value N) := []

structure SignedLicenseEnvelope (N D : Type) where
  payload : SignedLicensePayload N D
  signatureAlg : String := "Ed25519"
  signature : String

structure LicenseVerificationResult (N D : Type) where
  valid : Bool
  status : String
  reason : String
  envelope : Option (SignedLicenseEnvelope N D) := none

structure PayloadTexts (N D : Type) where
  numbers : NumberTexts N
  ofInt : Int → N
  ofInt_inj : ∀ {n m}, ofInt n = ofInt m → n = m
  decimalText : D → String
  decimalText_inj : ∀ {d e}, decimalText d = decimalText e → d = e
  dateText : PyDatetime → String
  dumpMetadata : List (List Nat × Value N) → Option (List (List Nat × Value N))

inductive PemKey (K : Type)
  | valueError
  | unsupported (message : String)
  | other
  | ed25519 (key : K)

/-- The libraries. An exception of the parsing ones is known by its class. -/
structure LicenseLibrary (N D K : Type) extends PayloadTexts N D where
  loads : List Nat → Except String (Value N)
  b64decodeText : List Nat → Except String (List Nat)
  modelValidate : Value N → Except String (SignedLicenseEnvelope N D)
  loadPem : List Nat → PemKey K
  b64decode : String → Option (List Nat)
  verify : K → List Nat → List Nat → Bool

variable {N D K : Type}

section Canonical

variable (texts : PayloadTexts N D)

def jsonText (text : String) : Value N := .str (codes text)

def jsonTexts (items : List String) : Value N := .arr (items.map jsonText)

variable (p : SignedLicensePayload N D)

def payloadFields (metadata : List (List Nat × Value N)) : List (String × Option (Value N)) :=
  [("schema_version", some (.num (texts.ofInt p.schemaVersion))),
    ("product", some (jsonText p.product)),
    ("license_id", some (jsonText p.licenseId)),
    ("license_type", some (jsonText p.licenseType)),
    ("customer_name", some (jsonText p.customerName)),
    ("tenant_id", p.tenantId.map jsonText),
    ("deployment_id", some (jsonText p.deploymentId)),
    ("install_id", some (jsonText p.installId)),
    ("machine_fingerprint_hash", some (jsonText p.machineFingerprintHash)),
    ("allowed_modules", some (jsonTexts p.allowedModules)),
    ("allowed_features", some (jsonTexts p.allowedFeatures)),
    ("max_users", p.maxUsers.map fun n => .num (texts.ofInt n)),
    ("max_agents", p.maxAgents.map fun n => .num (texts.ofInt n)),
    ("max_kb_size_gb", p.maxKbSizeGb.map fun d => jsonText (texts.decimalText d)),
    ("maintenance_until", p.maintenanceUntil.map fun d => jsonText (texts.dateText d)),
    ("expires_at", p.expiresAt.map fun d => jsonText (texts.dateText d)),
    ("issued_at", some (jsonText (texts.dateText p.issuedAt))),
    ("not_before", p.notBefore.map fun d => jsonText (texts.dateText d)),
    ("metadata", some (.obj metadata))]

def fieldEntry (field : String × Option (Value N)) : Option (List Nat × Value N) :=
  field.2.map fun value => (codes field.1, value)

def dumpPayload : Option (Value N) :=
  (texts.dumpMetadata p.metadata).map fun metadata =>
    .obj ((payloadFields texts p metadata).filterMap fieldEntry)

/-- `canonical_license_payload`, or that it raises a `ValueError`. -/
def canonicalLicensePayload : Option (List Nat) :=
  (dumpPayload texts p).bind fun document => encodeUtf8 (dumps texts.numbers document)

end Canonical

section Verification

variable (lib : LicenseLibrary N D K)

def parseSignedLicense (raw : List Nat) : Except String (SignedLicenseEnvelope N D) :=
  match lib.loads raw with
  | .ok document => lib.modelValidate document
  | .error className =>
    if className = "JSONDecodeError" then do
      let decoded ← lib.b64decodeText raw
      let document ← lib.loads decoded
      lib.modelValidate document
    else .error className

def mismatch (reason : String) (envelope : SignedLicenseEnvelope N D) :
    LicenseVerificationResult N D :=
  ⟨false, "mismatch", reason, some envelope⟩

def invalid (reason : String) (envelope : SignedLicenseEnvelope N D) :
    LicenseVerificationResult N D :=
  ⟨false, "invalid", reason, some envelope⟩

structure LicenseIdentity where
  deploymentId : String
  installId : String
  machineFingerprintHash : String
  tenantId : Option String := none

def signatureVerifies (key : K) (envelope : SignedLicenseEnvelope N D) : Bool :=
  match lib.b64decode envelope.signature, canonicalLicensePayload lib.toPayloadTexts
      envelope.payload with
  | some signature, some signed => lib.verify key signature signed
  | _, _ => false

variable (identity : LicenseIdentity)

def bindingMismatch (payload : SignedLicensePayload N D) : Option String :=
  if payload.product ≠ "AgentHive" then some "product_mismatch"
  else if truthy identity.tenantId ∧ truthy payload.tenantId ∧
      payload.tenantId ≠ identity.tenantId then some "tenant_id_mismatch"
  else if payload.deploymentId ≠ identity.deploymentId then some "deployment_id_mismatch"
  else if payload.installId ≠ identity.installId then some "install_id_mismatch"
  else if payload.machineFingerprintHash ≠ identity.machineFingerprintHash then
    some "machine_fingerprint_mismatch"
  else none

def dateIs (test : Int → Bool) (date : Option PyDatetime) (checkedAt : PyDatetime) :
    Except Exc Bool :=
  match date with
  | none => .ok false
  | some date => do
    let apart ← difference date checkedAt
    pure (test apart)

variable (checkedAt : PyDatetime) (envelope : SignedLicenseEnvelope N D)

def checkExpiry : Except Exc (LicenseVerificationResult N D) := do
  let late ← dateIs (fun apart => apart ≤ 0) envelope.payload.expiresAt checkedAt
  pure (if late then ⟨false, "expired", "license_expired", some envelope⟩
    else ⟨true, "active", "signature_and_machine_binding_verified", some envelope⟩)

def checkDates : Except Exc (LicenseVerificationResult N D) := do
  let early ← dateIs (fun apart => 0 < apart) envelope.payload.notBefore checkedAt
  if early then
    .ok ⟨false, "inactive", "license_not_before_current_time", some envelope⟩
  else checkExpiry checkedAt envelope

def checkPayload : Except Exc (LicenseVerificationResult N D) :=
  match bindingMismatch identity envelope.payload with
  | some reason => .ok (mismatch reason envelope)
  | none => checkDates checkedAt envelope

def verifyWithKey :
    PemKey K → Except Exc (LicenseVerificationResult N D)
  | .valueError => .ok (invalid "signature_verification_failed" envelope)
  | .unsupported message => .error (.other "UnsupportedAlgorithm" message)
  | .other => .ok (invalid "public_key_is_not_ed25519" envelope)
  | .ed25519 key =>
    if signatureVerifies lib key envelope then checkPayload identity checkedAt envelope
    else .ok (invalid "signature_verification_failed" envelope)

def verifySignedLicense (raw publicKeyPem : List Nat) (identity : LicenseIdentity)
    (checkedAt : PyDatetime) : Except Exc (LicenseVerificationResult N D) :=
  match parseSignedLicense lib raw with
  | .error className => .ok ⟨false, "invalid", "license_parse_failed:" ++ className, none⟩
  | .ok envelope =>
    if envelope.signatureAlg ≠ "Ed25519" then
      .ok (invalid "unsupported_signature_algorithm" envelope)
    else
      verifyWithKey lib identity checkedAt envelope (lib.loadPem publicKeyPem)

end Verification

end LicenseCrypto
end AgentHive
