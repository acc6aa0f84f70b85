import AgentHive.Services.LicenseActivation
import AgentHive.Services.Secrets

/-!
Channels: their rows, the copies that the process keeps of them, and the webhooks
that are routed by them.
-/

namespace AgentHive

inductive ChannelType
  | wecom
  | dingtalk
  | feishu
  | webWidget
  | restApi
deriving DecidableEq

inductive ChannelStatus
  | active
  | disabled
  | testing
  | error
deriving DecidableEq

/-- A row of `channel_configs` but for its id. -/
structure ChannelConfig where
  tenantId : UUID
  name : String
  channelType : ChannelType
  channelKey : String
  agentId : Option UUID := none
  createdBy : Option UUID := none
  status : ChannelStatus := .active
  secretRef : Option String := none
  previousSecretRef : Option String := none
  secretConfigured : Bool := false
  createdAt : Instant := 0
  updatedAt : Instant := 0
deriving DecidableEq

structure ChannelRecord where
  id : UUID
  tenantId : UUID
  name : String
  channelType : ChannelType
  channelKey : String
  agentId : Option UUID
  createdBy : Option UUID
  status : ChannelStatus
  secret : Option String
  createdAt : Instant
  updatedAt : Instant
  secretConfigured : Option Bool := none
  secretError : Option String := none
  previousSecret : Option String := none
deriving DecidableEq

structure ChannelStore where
  rows : OrderedDict UUID ChannelConfig
  channelsByTenant : OrderedDict (UUID × UUID) ChannelRecord
  channelIndex : OrderedDict (ChannelType × String) ChannelRecord

structure ChannelCreateRequest where
  name : String
  channelType : ChannelType
  channelKey : String
  agentId : Option UUID := none
  status : ChannelStatus := .active
  secret : Option String := none
  secret_ne : secret ≠ some ""

structure ChannelFaults where
  existence : Option StorageFault := none
  load : Option StorageFault := none
  reload : Option StorageFault := none
  flush : Option StorageFault := none
  commit : Option StorageFault := none
deriving DecidableEq

namespace ChannelService

open LicenseService

/-- `CHANNEL_FEATURE_KEYS`. -/
def channelFeatureKey : ChannelType → String
  | .dingtalk => "channel.dingtalk"
  | .feishu => "channel.feishu"
  | .restApi => "channel.rest_api"
  | .webWidget => "channel.web_widget"
  | .wecom => "channel.wecom"

section Records

variable (lib : SecretLibrary)

/-- `_decrypt_channel_secret`: the secret, and what is wrong with it. -/
def decryptChannelSecret (row : ChannelConfig) : Option String × Option String :=
  match row.secretRef.filter (· ≠ "") with
  | none => (none, none)
  | some token =>
    match lib.decryptSecret token with
    | some secret => (some secret, none)
    | none => (none, some "decrypt_failed")

def decryptPreviousSecret (row : ChannelConfig) : Option String :=
  (row.previousSecretRef.filter (· ≠ "")).bind lib.decryptSecret

def recordFromRow (id : UUID) (row : ChannelConfig) : ChannelRecord where
  id := id
  tenantId := row.tenantId
  name := row.name
  channelType := row.channelType
  channelKey := row.channelKey
  agentId := row.agentId
  createdBy := row.createdBy
  status := if (decryptChannelSecret lib row).2.isSome then .error else row.status
  secret := (decryptChannelSecret lib row).1
  createdAt := row.createdAt
  updatedAt := row.updatedAt
  secretConfigured := some (row.secretConfigured || truthy row.secretRef)
  secretError := (decryptChannelSecret lib row).2
  previousSecret := decryptPreviousSecret lib row

end Records

def cacheChannel (store : ChannelStore) (channel : ChannelRecord) : ChannelStore :=
  { store with
    channelsByTenant := store.channelsByTenant.set (channel.tenantId, channel.id) channel
    channelIndex := store.channelIndex.set (channel.channelType, channel.channelKey) channel }

section Lookup

variable (lib : SecretLibrary)

def tenantRow (store : ChannelStore) (tenantId channelId : UUID) : Option ChannelConfig :=
  (store.rows.get channelId).filter fun row => row.tenantId == tenantId

def getTenantChannel (fault : Option StorageFault) (store : ChannelStore)
    (tenantId channelId : UUID) : Except Exc ChannelRecord × ChannelStore :=
  match fault, tenantRow store tenantId channelId with
  | none, some row =>
    (.ok (recordFromRow lib channelId row), cacheChannel store (recordFromRow lib channelId row))
  | _, _ =>
    match store.channelsByTenant.get (tenantId, channelId) with
    | some channel => (.ok channel, store)
    | none => (.error (.http 404 (.text "Channel not found.")), store)

def rowsByKey (store : ChannelStore) (key : ChannelType × String) : List (UUID × ChannelConfig) :=
  store.rows.entries.filter fun e => e.2.channelType == key.1 && e.2.channelKey == key.2

def getChannelByKey (fault : Option StorageFault) (store : ChannelStore)
    (key : ChannelType × String) : Option ChannelRecord × ChannelStore :=
  match fault, rowsByKey store key with
  | none, (id, row) :: _ =>
    (some (recordFromRow lib id row), cacheChannel store (recordFromRow lib id row))
  | _, _ => (store.channelIndex.get key, store)

end Lookup

/-- `_commit_audit_best_effort`: what the session has flushed becomes the row. -/
def commitAuditBestEffort (fault : Option StorageFault) (store : ChannelStore) (channelId : UUID)
    (staged : Option ChannelConfig) : ChannelStore :=
  match fault, staged with
  | none, some row => { store with rows := store.rows.set channelId row }
  | _, _ => store

def ensureChannelFeatureLicensed (license : Except Exc LicenseStatusResponse)
    (channelType : ChannelType) : Except Exc Unit := do
  let response ← license
  if channelFeatureKey channelType ∈ response.allowedFeatures then .ok ()
  else
    .error (.http 403 (.text ("Channel type requires licensed feature: " ++
      channelFeatureKey channelType ++ ".")))

/-- The search for a channel that has the key already. A failure of the database is
passed over, and so is an answer of several rows. -/
def ensureKeyIsFree (fault : Option StorageFault) (store : ChannelStore)
    (key : ChannelType × String) : Except Exc Unit :=
  match fault, rowsByKey store key with
  | some (.os className message), _ => .error (.os className message)
  | none, [_] => .error (.http 409 (.text "Channel key already exists for this channel type."))
  | _, _ => .ok ()

section Changes

variable (lib : SecretLibrary) (faults : ChannelFaults) (store : ChannelStore) (tenantId : UUID)
  (now : Instant)

/-- The record that `create_channel_for_tenant` makes of its request. -/
def createdRecord (request : ChannelCreateRequest) (actorId : Option UUID) (newId : UUID) :
    ChannelRecord where
  id := newId
  tenantId := tenantId
  name := request.name
  channelType := request.channelType
  channelKey := request.channelKey
  agentId := request.agentId
  createdBy := actorId
  status := request.status
  secret := request.secret
  createdAt := now
  updatedAt := now
  secretConfigured := some (truthy request.secret)

def createdRow (request : ChannelCreateRequest) (actorId : Option UUID) : ChannelConfig where
  tenantId := tenantId
  name := request.name
  channelType := request.channelType
  channelKey := request.channelKey
  agentId := request.agentId
  createdBy := actorId
  status := request.status
  secretRef := (request.secret.filter (· ≠ "")).map lib.encryptSecret
  secretConfigured := truthy request.secret
  createdAt := now
  updatedAt := now

def stagedInsert (row : ChannelConfig) (newId : UUID) : Option ChannelConfig :=
  if faults.flush = none ∧ newId ∉ store.rows.keys ∧
      rowsByKey store (row.channelType, row.channelKey) = [] then some row
  else none

def createChannelForTenant (license : Except Exc LicenseStatusResponse)
    (request : ChannelCreateRequest) (actorId : Option UUID) (newId : UUID) :
    Except Exc ChannelRecord × ChannelStore :=
  let allowed := do
    ensureChannelFeatureLicensed license request.channelType
    ensureKeyIsFree faults.existence store (request.channelType, request.channelKey)
  match allowed with
  | .error x => (.error x, store)
  | .ok () =>
    let channel := createdRecord tenantId now request actorId newId
    let staged := stagedInsert faults store (createdRow lib tenantId now request actorId) newId
    (.ok channel, commitAuditBestEffort faults.commit (cacheChannel store channel) newId staged)

variable (channelId : UUID)

def stagedUpdate (change : ChannelConfig → ChannelConfig) : Option ChannelConfig :=
  if (faults.load = none ∨ faults.reload = none) ∧ faults.flush = none then
    (tenantRow store tenantId channelId).map change
  else none

def changeChannel (changeRow : ChannelConfig → ChannelConfig)
    (changeRecord : ChannelRecord → ChannelRecord) : Except Exc ChannelRecord × ChannelStore :=
  match getTenantChannel lib faults.load store tenantId channelId with
  | (.error x, store') => (.error x, store')
  | (.ok channel, store') =>
    let staged := stagedUpdate faults store' tenantId channelId changeRow
    let updated := changeRecord channel
    (.ok updated, commitAuditBestEffort faults.commit (cacheChannel store' updated) channelId staged)

def updateChannelStatusForTenant (status : ChannelStatus) :
    Except Exc ChannelRecord × ChannelStore :=
  changeChannel lib faults store tenantId channelId
    (fun row => { row with status := status, updatedAt := now })
    fun channel => { channel with status := status, updatedAt := now }

def rotateChannelSecretForTenant (newSecret : String) : Except Exc ChannelRecord × ChannelStore :=
  changeChannel lib faults store tenantId channelId
    (fun row =>
      let secretRef := if newSecret = "" then none else some (lib.encryptSecret newSecret)
      { row with
        previousSecretRef := row.secretRef
        secretRef := secretRef
        secretConfigured := truthy secretRef
        updatedAt := now })
    fun channel =>
      { channel with
        secret := some newSecret
        previousSecret := channel.secret
        secretConfigured := some (newSecret != "")
        updatedAt := now }

def promoteChannelSecretForTenant : Except Exc ChannelRecord × ChannelStore :=
  changeChannel lib faults store tenantId channelId
    (fun row => { row with previousSecretRef := none, updatedAt := now })
    fun channel => { channel with previousSecret := none, updatedAt := now }

end Changes

section License

variable {lib : SecretLibrary} {faults : ChannelFaults} {store : ChannelStore} {tenantId : UUID}
  {now : Instant} {request : ChannelCreateRequest} {actorId : Option UUID} {newId : UUID}

/-- `get_license_status_for_tenant`, as the database answers it. -/
def licenseStatus (fault : Option StorageFault) (identity : InstallIdentity) (now : Instant)
    (licenses : List License) (tenantId : UUID) : Except Exc LicenseStatusResponse :=
  match fault with
  | some _ => .ok (inactiveLicenseStatus identity)
  | none => getLicenseStatusForTenant identity now licenses tenantId

variable {license : Except Exc LicenseStatusResponse}

theorem ensureChannelFeatureLicensed_ok {channelType : ChannelType} :
    ensureChannelFeatureLicensed license channelType = .ok () ↔
      ∃ response, license = .ok response ∧
        channelFeatureKey channelType ∈ response.allowedFeatures := by
  rw [ensureChannelFeatureLicensed, Process.Fallible.bind_ok]
  refine exists_congr fun response => and_congr_right fun _ => ?_
  split
  · rename_i licensed
    exact ⟨fun _ => licensed, fun _ => rfl⟩
  · rename_i unlicensed
    refine ⟨fun eq => ?_, fun licensed => absurd licensed unlicensed⟩
    cases eq

theorem createChannelForTenant_ok :
    (∃ channel, (createChannelForTenant lib faults store tenantId now license request actorId
        newId).1 = .ok channel) ↔
      ensureChannelFeatureLicensed license request.channelType = .ok () ∧
        ensureKeyIsFree faults.existence store (request.channelType, request.channelKey) =
          .ok () := by
  have checks : (do
      ensureChannelFeatureLicensed license request.channelType
      ensureKeyIsFree faults.existence store (request.channelType, request.channelKey)) =
        Except.ok () ↔ ensureChannelFeatureLicensed license request.channelType = .ok () ∧
          ensureKeyIsFree faults.existence store (request.channelType, request.channelKey) =
            .ok () := by
    rw [Process.Fallible.bind_ok]
    constructor
    · intro ⟨_, licensed, free⟩
      exact ⟨licensed, free⟩
    · intro ⟨licensed, free⟩
      exact ⟨(), licensed, free⟩
  rw [← checks, createChannelForTenant]
  constructor
  · intro ⟨channel, created⟩
    split at created
    · cases created
    · rename_i allowed
      exact allowed
  · intro allowed
    rw [allowed]
    exact ⟨_, rfl⟩

variable {identity : InstallIdentity} {feature : String}

theorem mem_effectiveStatus_features {record : License} {stored : LicenseStatus} :
    feature ∈ (effectiveStatus identity now record stored).2.2.2 ↔
      BoundTo record identity ∧ (ExpiredAt record now ∨ stored = .active) ∧
        feature ∈ record.allowedFeatures := by
  rw [← licenseIdentityIssues_eq_nil]
  unfold effectiveStatus
  by_cases issues : licenseIdentityIssues record identity = [] <;>
  by_cases expired : ExpiredAt record now <;>
  by_cases active : stored = .active <;>
  simp [issues, expired, active]

def LapsedWith (identity : InstallIdentity) (now : Instant) (licenses : List License)
    (tenantId : UUID) (feature : String) : Prop :=
  ∃ record, ∃ stored : LicenseStatus, loadCurrentLicense licenses tenantId = some record ∧
    record.status = TextEnum.value stored ∧ BoundTo record identity ∧ ExpiredAt record now ∧
    feature ∈ record.allowedFeatures

theorem active_or_lapsed {fault : Option StorageFault} {licenses : List License}
    {response : LicenseStatusResponse}
    (read : licenseStatus fault identity now licenses tenantId = .ok response)
    (lists : feature ∈ response.allowedFeatures) :
    response.status = .active ∨
      fault = none ∧ LapsedWith identity now licenses tenantId feature := by
  cases fault with
  | some x =>
    cases read
    cases lists
  | none =>
    simp only [licenseStatus, getLicenseStatusForTenant] at read
    split at read
    · cases read
      cases lists
    · rename_i record current
      obtain ⟨stored, text, status, _, features⟩ := statusFromRecord_ok read
      rw [features, mem_effectiveStatus_features] at lists
      obtain ⟨bound, live, listed⟩ := lists
      by_cases expired : ExpiredAt record now
      · exact .inr ⟨rfl, record, stored, current, text, bound, expired, listed⟩
      · refine .inl (status.trans (effectiveStatus_active.mpr ⟨bound, expired, ?_⟩))
        exact live.resolve_left expired

theorem listed_of_lapsed {licenses : List License}
    (lapsed : LapsedWith identity now licenses tenantId feature) :
    ∃ response, licenseStatus none identity now licenses tenantId = .ok response ∧
      response.status ≠ .active ∧ feature ∈ response.allowedFeatures := by
  obtain ⟨record, stored, current, text, bound, expired, listed⟩ := lapsed
  have read : ∃ response, statusFromRecord identity now record = .ok response := by
    rw [statusFromRecord, text, readEnum_value]
    exact ⟨_, rfl⟩
  obtain ⟨response, read⟩ := read
  obtain ⟨stored', text', status, _, features⟩ := statusFromRecord_ok read
  refine ⟨response, ?_, fun active => ?_, ?_⟩
  · rw [licenseStatus, getLicenseStatusForTenant, current]
    exact read
  · exact (effectiveStatus_active.mp (status.symm.trans active)).2.1 expired
  · rw [features, mem_effectiveStatus_features]
    exact ⟨bound, .inl expired, listed⟩

/-- A channel is created only under a license in force that has its feature, just where the
tenant has no lapsed license with the feature, or the key of the channel is refused. -/
theorem created_channel_licensed_iff {fault : Option StorageFault} {identity : InstallIdentity}
    {licenses : List License} :
    (∀ channel, (createChannelForTenant lib faults store tenantId now
        (licenseStatus fault identity now licenses tenantId) request actorId newId).1 =
          .ok channel →
      ∃ response, licenseStatus fault identity now licenses tenantId = .ok response ∧
        response.status = .active ∧
        channelFeatureKey request.channelType ∈ response.allowedFeatures) ↔
      ¬ (fault = none ∧
        LapsedWith identity now licenses tenantId (channelFeatureKey request.channelType) ∧
        ensureKeyIsFree faults.existence store (request.channelType, request.channelKey) =
          .ok ()) := by
  constructor
  · intro licensed ⟨works, lapsed, free⟩
    subst works
    obtain ⟨response, read, inactive, lists⟩ := listed_of_lapsed lapsed
    have gate := ensureChannelFeatureLicensed_ok.mpr ⟨response, read, lists⟩
    have created : ∃ channel, (createChannelForTenant lib faults store tenantId now
        (licenseStatus none identity now licenses tenantId) request actorId newId).1 =
          .ok channel := createChannelForTenant_ok.mpr ⟨gate, free⟩
    obtain ⟨channel, created⟩ := created
    obtain ⟨response', read', active, _⟩ := licensed channel created
    rw [read] at read'
    cases read'
    exact inactive active
  · intro unlapsed channel created
    obtain ⟨gate, free⟩ := createChannelForTenant_ok.mp ⟨channel, created⟩
    obtain ⟨response, read, lists⟩ := ensureChannelFeatureLicensed_ok.mp gate
    rcases active_or_lapsed read lists with active | lapsed
    · exact ⟨response, read, active, lists⟩
    · exact absurd ⟨lapsed.1, lapsed.2, free⟩ unlapsed

def lapsedLicense : License where
  id := 1
  tenantId := 1
  customerName := ""
  status := "active"
  deploymentId := 1
  installId := 1
  machineFingerprintHash := ""
  allowedFeatures := ["channel.web_widget"]
  expiresAt := some 5
  createdAt := 0

def emptyChannels : ChannelStore := ⟨.empty, .empty, .empty⟩

def widgetRequest : ChannelCreateRequest where
  name := "Shop"
  channelType := .webWidget
  channelKey := "shop"
  secret_ne := by decide

theorem channel_created_under_lapsed_license :
    ¬ ∀ (lib : SecretLibrary) (faults : ChannelFaults) (store : ChannelStore) (tenantId : UUID)
      (now : Instant) (request : ChannelCreateRequest) (actorId : Option UUID) (newId : UUID)
      (fault : Option StorageFault) (identity : InstallIdentity) (licenses : List License)
      (channel : ChannelRecord),
      (createChannelForTenant lib faults store tenantId now
        (licenseStatus fault identity now licenses tenantId) request actorId newId).1 =
          .ok channel →
      ∃ response, licenseStatus fault identity now licenses tenantId = .ok response ∧
        response.status = .active ∧
        channelFeatureKey request.channelType ∈ response.allowedFeatures := by
  intro claimed
  obtain ⟨response, read, active, _⟩ := claimed plainSecrets {} emptyChannels 1 5 widgetRequest none
    2 none ⟨1, 1, ""⟩ [lapsedLicense] _ rfl
  have expired : (licenseStatus none ⟨1, 1, ""⟩ 5 [lapsedLicense] 1).toOption.map
      LicenseStatusResponse.status = some .expired := by
    decide +kernel
  rw [read] at expired
  have status : response.status = .expired := Option.some.inj expired
  rw [active] at status
  cases status

end License

end ChannelService
end AgentHive
