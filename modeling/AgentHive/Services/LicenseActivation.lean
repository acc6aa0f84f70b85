import AgentHive.Services.InstanceReconcile
import AgentHive.Store.StableSort
import Mathlib.Data.List.Infix

/-!
Activation of a license: the key is read and verified, a valid license
supersedes the active ones, the record is stored whatever its status, and the
tenant's agent instances are reconciled with the response of that record.
-/

namespace AgentHive

structure SignedLicensePayload where
  product : String := "AgentHive"
  licenseId : String
  licenseType : String
  customerName : String
  tenantId : Option String := none
  deploymentId : String
  installId : String
  machineFingerprintHash : String
  allowedModules : List String := []
  allowedFeatures : List String := []
  maxUsers : Option Int := none
  maxAgents : Option Int := none
  maxKbSizeGb : Option ℚ := none
  maintenanceUntil : Option Instant := none
  expiresAt : Option Instant := none
  notBefore : Option Instant := none
deriving DecidableEq

structure SignedLicenseEnvelope where
  payload : SignedLicensePayload
  signatureAlg : String := "Ed25519"
  signature : String
deriving DecidableEq

inductive SignatureCheck
  | valid
  | notEd25519
  | invalid
deriving DecidableEq

/-- What the license code uses of its libraries. `parse` gives the envelope or
the class name of the exception. -/
structure LicenseLibrary where
  strip : String → String
  lower : String → String
  looksLikeSigned : String → Bool
  parse : String → Except String SignedLicenseEnvelope
  checkSignature : (publicKeyPem : String) → SignedLicenseEnvelope → SignatureCheck
  uuidText : UUID → String
  isoformat : Instant → String

structure LicenseSettings where
  identity : InstallIdentity
  isDevelopment : Bool
  /-- What `_load_license_public_key` returns or raises. -/
  publicKey : Except Exc String

structure LicenseVerificationResult where
  valid : Bool
  status : String
  reason : String
  envelope : Option SignedLicenseEnvelope := none
deriving DecidableEq

structure LicenseVerificationResponse where
  mode : String
  valid : Bool
  status : LicenseStatus
  reason : String
  signatureAlg : Option String := none
  licenseId : Option String := none
deriving DecidableEq

structure ActivationData where
  status : LicenseStatus
  licenseType : String
  customerName : String
  allowedModules : List String
  allowedFeatures : List String
  maxUsers : Option Int
  maxAgents : Option Int
  maxKbSizeGb : Option ℚ
  maintenanceUntil : Option Instant
  expiresAt : Option Instant
  verification : LicenseVerificationResponse
deriving DecidableEq

structure TenantLimits where
  name : String
  maxUsers : Int := 50
  maxAgents : Int := 5
  maxKbSizeGb : ℚ := 5
deriving DecidableEq

structure LicenseActivationResponse where
  status : LicenseStatus
  message : String
  license : LicenseStatusResponse
  verification : Option LicenseVerificationResponse := none
deriving DecidableEq

structure LicenseTables where
  licenses : List License
  catalog : ModuleCatalog
  tenantModules : TenantModules
  instances : AgentInstances

namespace LicenseService

open FirstRow InstanceReconcile AgentModuleService
open Process.Fallible

/-- The order of `_load_current_license`: stored as active first, then the newest. -/
def outranks (row other : License) : Bool :=
  let isActive (license : License) := license.status == TextEnum.value LicenseStatus.active
  (isActive row && !isActive other) ||
    (isActive row == isActive other && decide (other.createdAt < row.createdAt))

def loadCurrentLicense (licenses : List License) (tenantId : UUID) : Option License :=
  firstRow outranks (licenses.filter fun row => row.tenantId == tenantId)

def getLicenseStatusForTenant (identity : InstallIdentity) (now : Instant)
    (licenses : List License) (tenantId : UUID) : Except Exc LicenseStatusResponse :=
  match loadCurrentLicense licenses tenantId with
  | none => .ok (inactiveLicenseStatus identity)
  | some record => statusFromRecord identity now record

def mismatch (reason : String) (envelope : SignedLicenseEnvelope) : LicenseVerificationResult :=
  ⟨false, "mismatch", reason, some envelope⟩

variable (lib : LicenseLibrary)

def verifySignedLicense (raw publicKeyPem : String)
    (deploymentId installId machineFingerprintHash : String) (tenantId : Option String)
    (checkedAt : Instant) : LicenseVerificationResult :=
  match lib.parse raw with
  | .error className => ⟨false, "invalid", "license_parse_failed:" ++ className, none⟩
  | .ok envelope =>
    if envelope.signatureAlg ≠ "Ed25519" then
      ⟨false, "invalid", "unsupported_signature_algorithm", some envelope⟩
    else
      match lib.checkSignature publicKeyPem envelope with
      | .notEd25519 => ⟨false, "invalid", "public_key_is_not_ed25519", some envelope⟩
      | .invalid => ⟨false, "invalid", "signature_verification_failed", some envelope⟩
      | .valid =>
        let payload := envelope.payload
        if payload.product ≠ "AgentHive" then mismatch "product_mismatch" envelope
        else if truthy tenantId && truthy payload.tenantId && payload.tenantId != tenantId then
          mismatch "tenant_id_mismatch" envelope
        else if payload.deploymentId ≠ deploymentId then
          mismatch "deployment_id_mismatch" envelope
        else if payload.installId ≠ installId then mismatch "install_id_mismatch" envelope
        else if payload.machineFingerprintHash ≠ machineFingerprintHash then
          mismatch "machine_fingerprint_mismatch" envelope
        else if payload.notBefore.any fun start => decide (checkedAt < start) then
          ⟨false, "inactive", "license_not_before_current_time", some envelope⟩
        else if payload.expiresAt.any fun stop => decide (stop ≤ checkedAt) then
          ⟨false, "expired", "license_expired", some envelope⟩
        else ⟨true, "active", "signature_and_machine_binding_verified", some envelope⟩

/-- The status stored for a verification: the result's own where the enumeration
has it, `revoked` otherwise and for a license that is not valid yet. -/
def verifiedStatus (verification : LicenseVerificationResult) : LicenseStatus :=
  let status := (TextEnum.parse verification.status).getD LicenseStatus.revoked
  if !verification.valid && status == .inactive then .revoked else status

variable (settings : LicenseSettings)

def activationDataFromSignedLicense (raw : String) (now : Instant) (tenantId : UUID) :
    Except Exc ActivationData := do
  let publicKey ← settings.publicKey
  let verification := verifySignedLicense lib raw publicKey
    (lib.uuidText settings.identity.deploymentId) (lib.uuidText settings.identity.installId)
    settings.identity.machineFingerprintHash (some (lib.uuidText tenantId)) now
  let refused : Exc :=
    .http 400 (.text ("Invalid signed license: " ++ verification.reason))
  match verification.envelope with
  | none => .error refused
  | some envelope =>
    if verification.status = "invalid" then .error refused
    else
      let payload := envelope.payload
      let status := verifiedStatus verification
      .ok {
        status := status
        licenseType := payload.licenseType
        customerName := payload.customerName
        allowedModules := if verification.valid then payload.allowedModules else []
        allowedFeatures := if verification.valid then payload.allowedFeatures else []
        maxUsers := payload.maxUsers
        maxAgents := payload.maxAgents
        maxKbSizeGb := payload.maxKbSizeGb
        maintenanceUntil := payload.maintenanceUntil
        expiresAt := payload.expiresAt
        verification := {
          mode := "signed-license"
          valid := verification.valid
          status := status
          reason := verification.reason
          signatureAlg := some envelope.signatureAlg
          licenseId := some payload.licenseId } }

def defaultAllowedModules : List String :=
  ["agent.customer_service", "agent.hr_screening", "agent.copywriting", "agent.image_generation",
    "agent.video_generation", "agent.product_design", "agent.report_writer"]

def defaultAllowedFeatures : List String :=
  ["feature.agent_catalog", "feature.license_offline_activation", "feature.model_budget",
    "feature.media_generation", "channel.web_widget"]

def microseconds : Int := 1000000

def maintenanceUntil : Instant := 1812412800 * microseconds

def expiredMaintenanceUntil : Instant := 1749340800 * microseconds

def expiredKeyExpiresAt : Instant := 1767225600 * microseconds

def statusFromKey (normalizedKey : String) : LicenseStatus :=
  if "expired".isPrefixOf normalizedKey then .expired
  else if "revoked".isPrefixOf normalizedKey then .revoked
  else if "mismatch".isPrefixOf normalizedKey then .mismatch
  else .active

def activationDataFromLegacyKey (raw : String) : ActivationData :=
  let key := lib.lower raw
  let status := statusFromKey key
  let withdrawn := status == .revoked || status == .mismatch
  { status := status
    licenseType := if "enterprise".toList <:+: key.toList then "enterprise" else "standard"
    customerName := "AgentHive Demo Customer"
    allowedModules := if withdrawn then [] else defaultAllowedModules
    allowedFeatures := if withdrawn then [] else defaultAllowedFeatures
    maxUsers := none
    maxAgents := none
    maxKbSizeGb := none
    maintenanceUntil :=
      some (if status = .expired then expiredMaintenanceUntil else maintenanceUntil)
    expiresAt := if status = .expired then some expiredKeyExpiresAt else none
    verification := {
      mode := "development-legacy-key"
      valid := status == .active
      status := status
      reason := "development_legacy_key" } }

def activationDataFromPayload (raw : String) (now : Instant) (tenantId : UUID) :
    Except Exc ActivationData :=
  if lib.looksLikeSigned raw then activationDataFromSignedLicense lib settings raw now tenantId
  else if !settings.isDevelopment then
    .error (.http 400
      (.text "Unsigned development license keys are not accepted outside development."))
  else .ok (activationDataFromLegacyKey lib raw)

/-- One call of `activate_license_for_tenant` with what it is given: the tenant's
row as the session returns it, the readings of the clock in their order, and the
exception of the first statement after the reconciliation that fails. -/
structure ActivationCall where
  tenantId : UUID
  licenseKey : String
  newId : UUID
  tenant : Except Exc (Option TenantLimits)
  now : Instant
  createdAt : Instant
  statusAt : Instant
  reconciledAt : Instant
  fault : Option Exc := none

def supersedeActiveLicenses (licenses : List License) (tenantId : UUID) : List License :=
  licenses.map fun row =>
    if row.tenantId = tenantId ∧ row.status = TextEnum.value LicenseStatus.active then
      { row with status := TextEnum.value LicenseStatus.inactive }
    else row

def activationMessage : LicenseStatus → String
  | .active => "License activated for this deployment."
  | .expired => "License data accepted, but the license is expired."
  | .revoked => "License data accepted, but the license is revoked."
  | .mismatch => "License data accepted, but it does not match this deployment."
  | .inactive => "License is inactive."

def limitOr (limit : Option Int) (fallback : Int) : Int :=
  match limit with
  | some n => if n = 0 then fallback else n
  | none => fallback

def activatedLicense (identity : InstallIdentity) (call : ActivationCall) (tenant : TenantLimits)
    (data : ActivationData) : License :=
  { id := call.newId
    tenantId := call.tenantId
    licenseType := data.licenseType
    customerName := if data.customerName = "" then tenant.name else data.customerName
    status := TextEnum.value data.status
    deploymentId := identity.deploymentId
    installId := identity.installId
    machineFingerprintHash := identity.machineFingerprintHash
    allowedModules := data.allowedModules
    allowedFeatures := data.allowedFeatures
    maxUsers := some (limitOr data.maxUsers tenant.maxUsers)
    maxAgents := some (limitOr data.maxAgents tenant.maxAgents)
    maxKbSizeGb := some (match data.maxKbSizeGb with
      | some size => if size = 0 then tenant.maxKbSizeGb else size
      | none => tenant.maxKbSizeGb)
    maintenanceUntil := data.maintenanceUntil
    expiresAt := data.expiresAt
    activatedAt := if data.status = .active then some call.now else none
    createdAt := call.createdAt }

def requireTenant (found : Except Exc (Option TenantLimits)) : Except Exc TenantLimits :=
  match found with
  | .error (.os _ _) | .error (.sqlAlchemy _ _) =>
    .error (.http 503 (.text "License storage is unavailable."))
  | .error x => .error x
  | .ok none =>
    .error (.http 409 (.text "Tenant must be initialized before activating a license."))
  | .ok (some tenant) => .ok tenant

/-- The body of `activate_license_for_tenant`, with the rows its commit stores. -/
def activate (call : ActivationCall) (tables : LicenseTables) :
    Except Exc (LicenseActivationResponse × LicenseTables) := do
  let tenant ← requireTenant call.tenant
  let data ← activationDataFromPayload lib settings (lib.strip call.licenseKey) call.now
    call.tenantId
  let licenses := if data.status = .active
    then supersedeActiveLicenses tables.licenses call.tenantId else tables.licenses
  let record := activatedLicense settings.identity call tenant data
  let response ← statusFromRecord settings.identity call.statusAt record
  let request : InstanceReconcile.Request :=
    { tenantId := call.tenantId, license := response, now := call.reconciledAt
      reason := "license_activation" }
  let reconciled := reconcileAgentInstances lib.isoformat tables.catalog tables.tenantModules
    request tables.instances
  match call.fault with
  | some x => .error x
  | none => .ok (
      { status := data.status
        message := activationMessage data.status
        license := response
        verification := some data.verification },
      { tables with licenses := licenses ++ [record], instances := reconciled.2 })

/-- `activate_license_for_tenant`: a call that raises stores nothing. -/
def activateLicenseForTenant (call : ActivationCall) (tables : LicenseTables) :
    Except Exc LicenseActivationResponse × LicenseTables :=
  match activate lib settings call tables with
  | .error x => (.error x, tables)
  | .ok (response, after) => (.ok response, after)

end LicenseService
end AgentHive
