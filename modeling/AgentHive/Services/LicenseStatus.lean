import AgentHive.Llm.Values
import AgentHive.Store.TextEnum
import Mathlib.Data.Rat.Defs

/-!
License records and the status they give a tenant.
-/

namespace AgentHive

abbrev Instant := Int

inductive LicenseStatus
  | inactive
  | active
  | expired
  | revoked
  | mismatch
deriving DecidableEq

instance : TextEnum LicenseStatus where
  value
    | .inactive => "inactive"
    | .active => "active"
    | .expired => "expired"
    | .revoked => "revoked"
    | .mismatch => "mismatch"
  all := [.inactive, .active, .expired, .revoked, .mismatch]
  complete := by intro status; cases status <;> decide
  injective := by intro first second; cases first <;> cases second <;> decide

/-- The enumeration `name` applied to a stored text. -/
def readEnum {α : Type} [TextEnum α] (name text : String) : Except Exc α :=
  match TextEnum.parse text with
  | some a => .ok a
  | none => .error (.other "ValueError" ("'" ++ text ++ "' is not a valid " ++ name))

@[simp] theorem readEnum_value {α : Type} [TextEnum α] (name : String) (a : α) :
    readEnum name (TextEnum.value a) = .ok a := by
  simp [readEnum]

theorem readEnum_ok {α : Type} [TextEnum α] {name text : String} {a : α} :
    readEnum name text = .ok a ↔ text = TextEnum.value a := by
  constructor
  · intro read
    unfold readEnum at read
    split at read
    · rename_i found
      cases read
      exact (TextEnum.value_of_parse found).symm
    · cases read
  · intro same
    rw [same, readEnum_value]

structure InstallIdentity where
  deploymentId : UUID
  installId : UUID
  machineFingerprintHash : String
deriving DecidableEq

structure License where
  id : UUID
  tenantId : UUID
  licenseType : String := "basic"
  customerName : String
  status : String := "inactive"
  deploymentId : UUID
  installId : UUID
  machineFingerprintHash : String
  allowedModules : List String := []
  allowedFeatures : List String := []
  maxUsers : Option Int := none
  maxAgents : Option Int := none
  maxKbSizeGb : Option ℚ := none
  maintenanceUntil : Option Instant := none
  expiresAt : Option Instant := none
  activatedAt : Option Instant := none
  createdAt : Instant
deriving DecidableEq

structure LicenseStatusResponse where
  status : LicenseStatus
  licenseType : String
  customerName : String
  deploymentId : UUID
  installId : UUID
  machineFingerprintHash : String
  runtimeDeploymentId : Option UUID := none
  runtimeInstallId : Option UUID := none
  runtimeMachineFingerprintHash : Option String := none
  verificationIssues : List String := []
  allowedModules : List String
  allowedFeatures : List String
  maintenanceUntil : Option Instant := none
  expiresAt : Option Instant := none
  activatedAt : Option Instant := none
  maxUsers : Option Int := none
  maxAgents : Option Int := none
  maxKbSizeGb : Option ℚ := none
  moduleCount : Nat
  featureCount : Nat
deriving DecidableEq

namespace LicenseService

def licenseIdentityIssues (record : License) (identity : InstallIdentity) : List String :=
  (if record.deploymentId ≠ identity.deploymentId then ["deployment_id_mismatch"] else []) ++
  (if record.installId ≠ identity.installId then ["install_id_mismatch"] else []) ++
  (if record.machineFingerprintHash ≠ identity.machineFingerprintHash
    then ["machine_fingerprint_mismatch"] else [])

def BoundTo (record : License) (identity : InstallIdentity) : Prop :=
  record.deploymentId = identity.deploymentId ∧ record.installId = identity.installId ∧
    record.machineFingerprintHash = identity.machineFingerprintHash

instance (record : License) (identity : InstallIdentity) : Decidable (BoundTo record identity) :=
  inferInstanceAs (Decidable (_ ∧ _ ∧ _))

theorem licenseIdentityIssues_eq_nil (record : License) (identity : InstallIdentity) :
    licenseIdentityIssues record identity = [] ↔ BoundTo record identity := by
  unfold licenseIdentityIssues BoundTo
  by_cases deployment : record.deploymentId = identity.deploymentId <;>
  by_cases install : record.installId = identity.installId <;>
  by_cases machine : record.machineFingerprintHash = identity.machineFingerprintHash <;>
  simp [deployment, install, machine]

def ExpiredAt (record : License) (now : Instant) : Prop := ∃ at_ ∈ record.expiresAt, at_ ≤ now

instance (record : License) (now : Instant) : Decidable (ExpiredAt record now) :=
  match h : record.expiresAt with
  | none => .isFalse (by simp [ExpiredAt, h])
  | some at_ => decidable_of_iff (at_ ≤ now) (by simp [ExpiredAt, h])

def inactiveLicenseStatus (identity : InstallIdentity) : LicenseStatusResponse where
  status := .inactive
  licenseType := "basic"
  customerName := "Uninitialized Tenant"
  deploymentId := identity.deploymentId
  installId := identity.installId
  machineFingerprintHash := identity.machineFingerprintHash
  runtimeDeploymentId := some identity.deploymentId
  runtimeInstallId := some identity.installId
  runtimeMachineFingerprintHash := some identity.machineFingerprintHash
  verificationIssues := ["no_active_license"]
  allowedModules := []
  allowedFeatures := []
  moduleCount := 0
  featureCount := 0

/-- What `_status_from_record` computes before it fills the response: the
effective status, the issues, and the modules and features that stay allowed. -/
def effectiveStatus (identity : InstallIdentity) (now : Instant) (record : License)
    (stored : LicenseStatus) : LicenseStatus × List String × List String × List String :=
  let issues := licenseIdentityIssues record identity
  if issues ≠ [] then (.mismatch, issues, [], [])
  else if ExpiredAt record now then
    (.expired, issues ++ ["license_expired"], record.allowedModules, record.allowedFeatures)
  else if stored ≠ .active then
    (stored, issues ++ ["license_status_" ++ TextEnum.value stored], [], [])
  else (stored, issues, record.allowedModules, record.allowedFeatures)

def statusFromRecord (identity : InstallIdentity) (now : Instant) (record : License) :
    Except Exc LicenseStatusResponse := do
  let stored ← readEnum "LicenseStatus" record.status
  let (status, issues, allowedModules, allowedFeatures) :=
    effectiveStatus identity now record stored
  return {
    status := status
    licenseType := record.licenseType
    customerName := record.customerName
    deploymentId := record.deploymentId
    installId := record.installId
    machineFingerprintHash := record.machineFingerprintHash
    runtimeDeploymentId := some identity.deploymentId
    runtimeInstallId := some identity.installId
    runtimeMachineFingerprintHash := some identity.machineFingerprintHash
    verificationIssues := issues
    allowedModules := allowedModules
    allowedFeatures := allowedFeatures
    maintenanceUntil := record.maintenanceUntil
    expiresAt := record.expiresAt
    activatedAt := record.activatedAt
    maxUsers := record.maxUsers
    maxAgents := record.maxAgents
    maxKbSizeGb := record.maxKbSizeGb
    moduleCount := allowedModules.length
    featureCount := allowedFeatures.length }

variable {identity : InstallIdentity} {now : Instant} {record : License}
  {response : LicenseStatusResponse}

structure InForce (identity : InstallIdentity) (now : Instant) (record : License) : Prop where
  stored : record.status = TextEnum.value LicenseStatus.active
  bound : BoundTo record identity
  unexpired : ¬ ExpiredAt record now

theorem effectiveStatus_active {stored : LicenseStatus} :
    (effectiveStatus identity now record stored).1 = .active ↔
      BoundTo record identity ∧ ¬ ExpiredAt record now ∧ stored = .active := by
  rw [← licenseIdentityIssues_eq_nil]
  unfold effectiveStatus
  by_cases issues : licenseIdentityIssues record identity = [] <;>
  by_cases expired : ExpiredAt record now <;>
  by_cases active : stored = .active <;>
  simp [issues, expired, active]

variable (read : statusFromRecord identity now record = .ok response)

include read

theorem statusFromRecord_ok :
    ∃ stored : LicenseStatus, record.status = TextEnum.value stored ∧
      response.status = (effectiveStatus identity now record stored).1 ∧
      response.allowedModules = (effectiveStatus identity now record stored).2.2.1 ∧
      response.allowedFeatures = (effectiveStatus identity now record stored).2.2.2 := by
  unfold statusFromRecord at read
  cases stored : (readEnum "LicenseStatus" record.status : Except Exc LicenseStatus) with
  | error x =>
    rw [stored] at read
    cases read
  | ok status =>
    rw [stored] at read
    cases read
    exact ⟨status, readEnum_ok.mp stored, rfl, rfl, rfl⟩

theorem statusFromRecord_active_iff :
    response.status = .active ↔ InForce identity now record := by
  obtain ⟨stored, text, status, _, _⟩ := statusFromRecord_ok read
  rw [status, effectiveStatus_active]
  constructor
  · intro h
    refine ⟨?_, h.1, h.2.1⟩
    rw [text, h.2.2]
  · intro h
    exact ⟨h.bound, h.unexpired, TextEnum.injective (text.symm.trans h.stored)⟩

theorem statusFromRecord_allowed (active : response.status = .active) :
    response.allowedModules = record.allowedModules ∧
      response.allowedFeatures = record.allowedFeatures := by
  have inForce := (statusFromRecord_active_iff read).mp active
  obtain ⟨stored, text, _, modules, features⟩ := statusFromRecord_ok read
  have bound := (licenseIdentityIssues_eq_nil record identity).mpr inForce.bound
  have isActive : stored = .active := TextEnum.injective (text.symm.trans inForce.stored)
  simp only [effectiveStatus, bound, inForce.unexpired, isActive] at modules features
  exact ⟨modules, features⟩

end LicenseService
end AgentHive
