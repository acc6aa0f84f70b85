import AgentHive.Llm.Schemas
import AgentHive.Store.OrderedDict
import Mathlib.Data.List.Sort

/-!
The provider credentials of a tenant: saving one for the tenant, a department
or a user, and the provider configurations that a request is sent with.
-/

namespace AgentHive

inductive CredentialOwner
  | tenant | department | user
  | other (name : String)
deriving DecidableEq

structure LLMProvider where
  id : UUID
  tenantId : UUID
  providerKey : String
  name : String
  adapterType : String
  baseUrl : Option String := none
  region : Option String := none
  isActive : Bool := true
  config : Dict := []
deriving DecidableEq

structure LLMCredential where
  tenantId : UUID
  providerId : UUID
  ownerType : CredentialOwner := .tenant
  ownerId : Option UUID := none
  displayName : String
  secretRef : String
  maskedSecret : String
  isActive : Bool := true
deriving DecidableEq

structure ProviderTables where
  providers : List LLMProvider
  credentials : List LLMCredential
  uniqueKeys : (providers.map fun p => (p.tenantId, p.providerKey)).Nodup
  references : ∀ c ∈ credentials, ∃ p ∈ providers, p.id = c.providerId

structure ProviderRecord extends ProviderConfig where
  region : Option String := none
  capabilities : List String := []
deriving DecidableEq

/-- What the two functions take from outside: the built-in providers, the
environment, and the encryption of secrets. `decrypt` fails on an invalid token. -/
structure CredentialSettings where
  builtIn : List ProviderRecord
  isDevelopment : Bool
  encrypt : String → String
  decrypt : String → Option String
  mask : String → String
  /-- `str()` of an owner id. -/
  uuidText : UUID → String

structure LLMCredentialUpsertRequest where
  displayName : String
  apiKey : String
  baseUrl : Option String := none
  ownerType : CredentialOwner := .tenant
  ownerId : Option UUID := none
deriving DecidableEq

namespace ProviderCredentials

variable (settings : CredentialSettings)

def providerConfig (key : String) : Except Exc ProviderRecord :=
  match settings.builtIn.find? fun p => p.providerKey == key with
  | some p => .ok p
  | none => .error (.http 404 (.text ("Unsupported LLM provider: " ++ key)))

/-- `_validate_credential_owner_scope`, with the ids the tenant has. -/
def validateCredentialOwnerScope (departments users : UUID → Bool)
    (payload : LLMCredentialUpsertRequest) : Except Exc Unit :=
  match payload.ownerType, payload.ownerId with
  | .tenant, _ => .ok ()
  | _, none =>
    .error (.http 422 (.text "owner_id is required for department or user credentials."))
  | .department, some id =>
    if departments id then .ok ()
    else .error (.http 404
      (.text "Credential owner department was not found in this tenant."))
  | .user, some id =>
    if users id then .ok ()
    else .error (.http 404 (.text "Credential owner user was not found in this tenant."))
  | .other _, some _ => .ok ()

def adapterTypeValue : LLMAdapterType → String
  | .litellm => "litellm"
  | .openaiCompatible => "openai_compatible"
  | .anthropicCompatible => "anthropic_compatible"
  | .unsupported name => name

def isProvider (tenantId : UUID) (key : String) (p : LLMProvider) : Bool :=
  p.tenantId == tenantId && p.providerKey == key

/-- `_get_or_create_provider`: the tables with the row, and its id. -/
def getOrCreateProvider (tables : ProviderTables) (tenantId newId : UUID)
    (static : ProviderRecord) (baseUrl : Option String) : ProviderTables × UUID :=
  match found : tables.providers.find? (isProvider tenantId static.providerKey) with
  | some p => (tables, p.id)
  | none =>
    let row : LLMProvider :=
      { id := newId
        tenantId := tenantId
        providerKey := static.providerKey
        name := static.name
        adapterType := adapterTypeValue static.adapterType
        baseUrl := pyOr baseUrl static.baseUrl
        region := static.region
        config := [("capabilities", .strs static.capabilities)] }
    ({ providers := tables.providers ++ [row]
       credentials := tables.credentials
       uniqueKeys := by
         rw [List.map_append, List.nodup_append]
         refine ⟨tables.uniqueKeys, List.nodup_singleton _, ?_⟩
         intro key inKeys other last same
         rw [List.map_singleton, List.mem_singleton] at last
         obtain ⟨p, mem, keyed⟩ := List.mem_map.mp inKeys
         have absent := List.find?_eq_none.mp found p mem
         rw [same, last, Prod.mk.injEq] at keyed
         simp [isProvider, keyed] at absent
         exact absent rfl rfl
       references := by
         intro c mem
         obtain ⟨p, mem, same⟩ := tables.references c mem
         exact ⟨p, List.mem_append_left _ mem, same⟩ },
      newId)

def isTarget (tenantId providerId : UUID) (payload : LLMCredentialUpsertRequest)
    (c : LLMCredential) : Bool :=
  c.tenantId == tenantId && c.providerId == providerId && c.ownerType == payload.ownerType &&
    c.ownerId == payload.ownerId

def writeCredential (payload : LLMCredentialUpsertRequest) (c : LLMCredential) : LLMCredential :=
  { c with
    displayName := payload.displayName
    ownerId := payload.ownerId
    secretRef := settings.encrypt payload.apiKey
    maskedSecret := settings.mask payload.apiKey
    isActive := true }

def writeProvider (tenantId : UUID) (key : String) (payload : LLMCredentialUpsertRequest)
    (p : LLMProvider) : LLMProvider :=
  if isProvider tenantId key p then
    { p with
      baseUrl := if payload.baseUrl.isSome then payload.baseUrl else p.baseUrl
      isActive := true }
  else p

def storeCredential (tenantId providerId : UUID) (payload : LLMCredentialUpsertRequest)
    (credentials : List LLMCredential) : Except Exc (List LLMCredential) :=
  match credentials.filter (isTarget tenantId providerId payload) with
  | [] =>
    .ok (credentials ++
      [{ tenantId := tenantId
         providerId := providerId
         ownerType := payload.ownerType
         ownerId := payload.ownerId
         displayName := payload.displayName
         secretRef := settings.encrypt payload.apiKey
         maskedSecret := settings.mask payload.apiKey }])
  | [_] => .ok (credentials.map fun c =>
    if isTarget tenantId providerId payload c then writeCredential settings payload c else c)
  | _ => .error (.sqlAlchemy "MultipleResultsFound"
      "Multiple rows were found when one or none was required")

theorem getOrCreateProvider_known (tables : ProviderTables) (tenantId newId : UUID)
    (static : ProviderRecord) (baseUrl : Option String) :
    ∃ p ∈ (getOrCreateProvider tables tenantId newId static baseUrl).1.providers,
      p.id = (getOrCreateProvider tables tenantId newId static baseUrl).2 := by
  unfold getOrCreateProvider
  split
  · rename_i p found
    exact ⟨p, List.mem_of_find?_eq_some found, rfl⟩
  · exact ⟨_, List.mem_append_right _ List.mem_cons_self, rfl⟩

variable {tenantId : UUID} {payload : LLMCredentialUpsertRequest}

theorem storeCredential_providers {providerId : UUID} {credentials stored : List LLMCredential}
    (h : storeCredential settings tenantId providerId payload credentials = .ok stored) :
    ∀ c ∈ stored, c.providerId = providerId ∨ ∃ old ∈ credentials, old.providerId = c.providerId := by
  unfold storeCredential at h
  intro c mem
  split at h
  · cases h
    rcases List.mem_append.mp mem with old | new
    · exact .inr ⟨c, old, rfl⟩
    · rw [List.mem_singleton] at new
      exact .inl (by rw [new])
  · cases h
    obtain ⟨old, was, same⟩ := List.mem_map.mp mem
    refine .inr ⟨old, was, ?_⟩
    rw [← same]
    split <;> rfl
  · cases h

theorem writeProvider_key (tenantId : UUID) (key : String) (payload : LLMCredentialUpsertRequest)
    (p : LLMProvider) :
    (writeProvider tenantId key payload p).id = p.id ∧
      (writeProvider tenantId key payload p).tenantId = p.tenantId ∧
      (writeProvider tenantId key payload p).providerKey = p.providerKey := by
  unfold writeProvider
  split <;> exact ⟨rfl, rfl, rfl⟩

def write (tenantId providerId : UUID) (key : String) (payload : LLMCredentialUpsertRequest)
    (tables : ProviderTables) (known : ∃ p ∈ tables.providers, p.id = providerId) :
    Except Exc ProviderTables :=
  match h : storeCredential settings tenantId providerId payload tables.credentials with
  | .error x => .error x
  | .ok stored => .ok
      { providers := tables.providers.map (writeProvider tenantId key payload)
        credentials := stored
        uniqueKeys := by
          have same : (fun p : LLMProvider => (p.tenantId, p.providerKey)) ∘
              writeProvider tenantId key payload = fun p => (p.tenantId, p.providerKey) := by
            funext p
            have kept := writeProvider_key tenantId key payload p
            exact Prod.ext kept.2.1 kept.2.2
          rw [List.map_map, same]
          exact tables.uniqueKeys
        references := by
          intro c mem
          have there : ∃ p ∈ tables.providers, p.id = c.providerId := by
            rcases storeCredential_providers settings h c mem with new | ⟨old, was, same⟩
            · exact new ▸ known
            · exact same ▸ tables.references old was
          obtain ⟨p, mem, same⟩ := there
          exact ⟨_, List.mem_map_of_mem mem,
            (writeProvider_key tenantId key payload p).1.trans same⟩ }

/-- `upsert_provider_credential`, but for the deployment it also saves. -/
def upsertProviderCredential (departments users : UUID → Bool) (tenantId newId : UUID)
    (key : String) (payload : LLMCredentialUpsertRequest) (tables : ProviderTables) :
    Except Exc ProviderTables :=
  match providerConfig settings key with
  | .error x => .error x
  | .ok static =>
    match validateCredentialOwnerScope departments users payload with
    | .error x => .error x
    | .ok () =>
      let found := getOrCreateProvider tables tenantId newId static payload.baseUrl
      write settings tenantId found.2 static.providerKey payload found.1
        (getOrCreateProvider_known tables tenantId newId static payload.baseUrl)

def credentialScopeRank (c : LLMCredential) (departmentId userId : Option UUID) : Option Nat :=
  match c.ownerType with
  | .user => if c.ownerId.isSome ∧ c.ownerId = userId then some 30 else none
  | .department => if c.ownerId.isSome ∧ c.ownerId = departmentId then some 20 else none
  | .tenant => if c.ownerId = none then some 10 else none
  | .other _ => none

structure Candidate where
  rank : Nat
  provider : LLMProvider
  credential : LLMCredential
deriving DecidableEq

def candidatesOf (credentials : List LLMCredential) (departmentId userId : Option UUID)
    (p : LLMProvider) : List Candidate :=
  (credentials.filter fun c => c.providerId == p.id && c.isActive).filterMap fun c =>
    (credentialScopeRank c departmentId userId).map fun rank => ⟨rank, p, c⟩

def candidates (tables : ProviderTables) (tenantId : UUID) (departmentId userId : Option UUID) :
    List Candidate :=
  (tables.providers.filter fun p => p.tenantId == tenantId && p.isActive).flatMap
    (candidatesOf tables.credentials departmentId userId)

def groupByKey (rows : List Candidate) (selected : OrderedDict String (List Candidate)) :
    OrderedDict String (List Candidate) :=
  rows.foldl (fun selected row => selected.set row.provider.providerKey
    ((selected.get row.provider.providerKey).getD [] ++ [row])) selected

def developmentMockAllowed (p : LLMProvider) : Bool :=
  settings.isDevelopment && p.config.get "mock_allowed_in_development" == .bool true

/-- The first candidate whose secret can be read, with the key to call with and
whether it stands in for a secret that could not be read. -/
def decrypted : List Candidate → Option (Candidate × String × Bool)
  | [] => none
  | candidate :: rest =>
    match settings.decrypt candidate.credential.secretRef with
    | some apiKey => some (candidate, apiKey, false)
    | none =>
      if developmentMockAllowed settings candidate.provider then some (candidate, "", true)
      else decrypted rest

def adapterTypeOf (text : String) : Except Exc LLMAdapterType :=
  if text = "litellm" then .ok .litellm
  else if text = "openai_compatible" then .ok .openaiCompatible
  else if text = "anthropic_compatible" then .ok .anthropicCompatible
  else .error (.other "ValueError" ("'" ++ text ++ "' is not a valid LLMAdapterType"))

def capabilitiesOf (config : Dict) (static : List String) : Except Exc (List String) :=
  match config.get "capabilities" with
  | .strs values => .ok (if values.isEmpty then static else values)
  | .str text => .ok (if text = "" then static else text.toList.map (·.toString))
  | value => if value.truthy then .error (.other "TypeError" "object is not iterable")
      else .ok static

def ownerTypeText : CredentialOwner → String
  | .tenant => "tenant"
  | .department => "department"
  | .user => "user"
  | .other name => name

def credentialMetadata (candidate : Candidate) (apiKey : String) (demo : Bool) : Dict :=
  [("credential_source", .str "database"),
    ("credential_owner_type", .str (ownerTypeText candidate.credential.ownerType)),
    ("credential_owner_id", .ofOption (candidate.credential.ownerId.map settings.uuidText)),
    ("credential_scope_rank", .int candidate.rank),
    ("api_key", .str apiKey),
    ("credential_decrypt_failed", .bool demo),
    ("mock_adapter", .bool demo),
    ("live_network_call", .bool !demo)]

def resolveProvider (rows : List Candidate) : Except Exc (Option ProviderRecord) :=
  match decrypted settings (rows.insertionSort fun a b => b.rank ≤ a.rank) with
  | none => .ok none
  | some (candidate, apiKey, demo) => do
    let p := candidate.provider
    let static ← providerConfig settings p.providerKey
    let adapterType ← adapterTypeOf p.adapterType
    let capabilities ← capabilitiesOf p.config static.capabilities
    .ok (some
      { providerKey := p.providerKey
        name := p.name
        adapterType := adapterType
        baseUrl := pyOr p.baseUrl static.baseUrl
        credentialConfigured := !demo
        metadata := static.metadata.merge (credentialMetadata settings candidate apiKey demo)
        region := p.region
        capabilities := capabilities })

def resolveAll : List (String × List Candidate) → Except Exc (List ProviderRecord)
  | [] => .ok []
  | (_, rows) :: rest => do
    let here ← resolveProvider settings rows
    let others ← resolveAll rest
    .ok (here.toList ++ others)

def runtimeProviders (tables : ProviderTables) (tenantId : UUID)
    (departmentId userId : Option UUID) : Except Exc (List ProviderRecord) :=
  resolveAll settings
    (groupByKey (candidates tables tenantId departmentId userId) OrderedDict.empty).entries

def IsForeign (payload : LLMCredentialUpsertRequest) (departmentId userId : Option UUID) : Prop :=
  (payload.ownerType = .user ∧ ∃ id, payload.ownerId = some id ∧ userId ≠ some id) ∨
    (payload.ownerType = .department ∧ ∃ id, payload.ownerId = some id ∧ departmentId ≠ some id)

variable {departmentId userId : Option UUID}

theorem rank_foreign (foreign : IsForeign payload departmentId userId) {c : LLMCredential}
    (ownerType : c.ownerType = payload.ownerType) (ownerId : c.ownerId = payload.ownerId) :
    credentialScopeRank c departmentId userId = none := by
  unfold credentialScopeRank
  rcases foreign with ⟨type, id, owner, other⟩ | ⟨type, id, owner, other⟩
  · simp [ownerType, type, ownerId, owner, Ne.symm other]
  · simp [ownerType, type, ownerId, owner, Ne.symm other]

theorem candidatesOf_stored {providerId : UUID} (foreign : IsForeign payload departmentId userId)
    {credentials stored : List LLMCredential}
    (h : storeCredential settings tenantId providerId payload credentials = .ok stored)
    (p : LLMProvider) :
    candidatesOf stored departmentId userId p = candidatesOf credentials departmentId userId p := by
  unfold candidatesOf
  rw [List.filterMap_filter, List.filterMap_filter]
  unfold storeCredential at h
  split at h
  · cases h
    rw [List.filterMap_append]
    simp [rank_foreign foreign]
  · cases h
    rw [List.filterMap_map]
    refine List.filterMap_congr fun c _ => ?_
    dsimp only [Function.comp]
    split
    · rename_i target
      simp only [isTarget, Bool.and_eq_true, beq_iff_eq] at target
      rw [rank_foreign foreign (c := c) target.1.2 target.2,
        rank_foreign foreign (c := writeCredential settings payload c) target.1.2 rfl]
      simp
    · rfl
  · cases h

def activated (tenantId : UUID) (key : String) (p : LLMProvider) : LLMProvider :=
  if isProvider tenantId key p then { p with isActive := true } else p

def activateProvider (tenantId : UUID) (key : String) (tables : ProviderTables) :
    ProviderTables where
  providers := tables.providers.map (activated tenantId key)
  credentials := tables.credentials
  uniqueKeys := by
    have same : (fun p : LLMProvider => (p.tenantId, p.providerKey)) ∘ activated tenantId key =
        fun p => (p.tenantId, p.providerKey) := by
      funext p
      dsimp only [Function.comp, activated]
      split <;> rfl
    rw [List.map_map, same]
    exact tables.uniqueKeys
  references := by
    intro c mem
    obtain ⟨p, there, same⟩ := tables.references c mem
    refine ⟨_, List.mem_map_of_mem there, ?_⟩
    rw [← same, activated]
    split <;> rfl

def setBaseUrl (key : String) (payload : LLMCredentialUpsertRequest) (p : LLMProvider) :
    LLMProvider :=
  if p.providerKey = key ∧ payload.baseUrl.isSome then { p with baseUrl := payload.baseUrl } else p

def Candidate.setBaseUrl (key : String) (payload : LLMCredentialUpsertRequest)
    (row : Candidate) : Candidate :=
  { row with provider := ProviderCredentials.setBaseUrl key payload row.provider }

def withBaseUrl (key : String) (payload : LLMCredentialUpsertRequest) (static : ProviderRecord)
    (p : ProviderRecord) : ProviderRecord :=
  if p.providerKey = key ∧ payload.baseUrl.isSome then
    { p with baseUrl := pyOr payload.baseUrl static.baseUrl }
  else p

theorem setBaseUrl_fields (key : String) (payload : LLMCredentialUpsertRequest) (p : LLMProvider) :
    (setBaseUrl key payload p).id = p.id ∧ (setBaseUrl key payload p).providerKey = p.providerKey ∧
      (setBaseUrl key payload p).config = p.config := by
  unfold setBaseUrl
  split <;> exact ⟨rfl, rfl, rfl⟩

theorem candidatesOf_setBaseUrl (key : String) (payload : LLMCredentialUpsertRequest)
    (credentials : List LLMCredential) (departmentId userId : Option UUID) (p : LLMProvider) :
    candidatesOf credentials departmentId userId (setBaseUrl key payload p) =
      (candidatesOf credentials departmentId userId p).map (·.setBaseUrl key payload) := by
  unfold candidatesOf
  rw [(setBaseUrl_fields key payload p).1, List.map_filterMap]
  refine List.filterMap_congr fun c _ => ?_
  rw [Option.map_map]
  rfl

variable {key : String}

theorem writeProvider_active {p : LLMProvider} (tenant : p.tenantId = tenantId)
    (active : p.isActive = true) :
    writeProvider tenantId key payload p = setBaseUrl key payload p := by
  obtain ⟨id, rowTenant, rowKey, name, adapterType, baseUrl, region, isActive, config⟩ := p
  subst tenant active
  unfold writeProvider setBaseUrl isProvider
  by_cases same : rowKey = key
  · cases payload.baseUrl <;> simp [same]
  · simp [same]

theorem writeProvider_activated (tenantId : UUID) (key : String)
    (payload : LLMCredentialUpsertRequest) (p : LLMProvider) :
    writeProvider tenantId key payload (activated tenantId key p) =
      writeProvider tenantId key payload p := by
  unfold activated
  split
  · rename_i mine
    unfold writeProvider isProvider at *
    simp only [mine, if_true]
  · rfl

theorem isShown_writeProvider (tenantId : UUID) (key : String)
    (payload : LLMCredentialUpsertRequest) (p : LLMProvider) :
    (writeProvider tenantId key payload p).isActive = (activated tenantId key p).isActive ∧
      (activated tenantId key p).tenantId = p.tenantId := by
  unfold writeProvider activated
  split <;> exact ⟨rfl, rfl⟩

theorem shown_providers (tenantId : UUID) (key : String) (payload : LLMCredentialUpsertRequest)
    (providers : List LLMProvider) :
    ((providers.map (writeProvider tenantId key payload)).filter
        fun p => p.tenantId == tenantId && p.isActive) =
      ((providers.map (activated tenantId key)).filter
        fun p => p.tenantId == tenantId && p.isActive).map (setBaseUrl key payload) := by
  induction providers with
  | nil => rfl
  | cons p rest ih =>
    have write := isShown_writeProvider tenantId key payload p
    have kept := (writeProvider_key tenantId key payload p).2.1
    simp only [List.map_cons, List.filter_cons, write.1, write.2, kept]
    by_cases shown : (p.tenantId == tenantId && (activated tenantId key p).isActive) = true
    · rw [if_pos shown, if_pos shown, List.map_cons, ih]
      rw [Bool.and_eq_true, beq_iff_eq] at shown
      rw [← writeProvider_active (write.2.trans shown.1) shown.2, writeProvider_activated]
    · rw [if_neg shown, if_neg shown, ih]

variable {tables : ProviderTables}

theorem candidates_write {providerId : UUID} (foreign : IsForeign payload departmentId userId)
    {after : ProviderTables} {known : ∃ p ∈ tables.providers, p.id = providerId}
    (h : write settings tenantId providerId key payload tables known = .ok after) :
    candidates after tenantId departmentId userId =
      (candidates (activateProvider tenantId key tables) tenantId departmentId userId).map
        (·.setBaseUrl key payload) := by
  unfold write at h
  split at h
  · cases h
  · rename_i stored storing
    cases h
    have same : candidatesOf stored departmentId userId =
        candidatesOf tables.credentials departmentId userId := by
      funext p
      exact candidatesOf_stored settings foreign storing p
    unfold candidates
    dsimp only [activateProvider]
    rw [shown_providers, same, List.flatMap_map, List.map_flatMap]
    refine List.flatMap_congr fun p _ => ?_
    exact candidatesOf_setBaseUrl key payload _ departmentId userId p

variable {static : ProviderRecord}

theorem candidates_getOrCreate {newId : UUID} {baseUrl : Option String}
    (fresh : ∀ p ∈ tables.providers, p.id ≠ newId) (key : String)
    (departmentId userId : Option UUID) :
    candidates (activateProvider tenantId key
        (getOrCreateProvider tables tenantId newId static baseUrl).1) tenantId departmentId userId =
      candidates (activateProvider tenantId key tables) tenantId departmentId userId := by
  unfold getOrCreateProvider
  split
  · rfl
  · have unreferenced : ∀ p : LLMProvider, p.id = newId →
        candidatesOf tables.credentials departmentId userId p = [] := by
      intro p new
      unfold candidatesOf
      have none : (tables.credentials.filter fun c => c.providerId == p.id && c.isActive) = [] := by
        refine List.filter_eq_nil_iff.mpr fun c mem => ?_
        obtain ⟨other, there, same⟩ := tables.references c mem
        have different : c.providerId ≠ p.id := fun eq =>
          fresh other there (same.trans (eq.trans new))
        simp [different]
      rw [none]
      rfl
    unfold candidates
    dsimp only [activateProvider]
    rw [List.map_append, List.filter_append, List.flatMap_append]
    refine (congrArg _ (List.flatMap_eq_nil_iff.mpr ?_)).trans (List.append_nil _)
    intro p mem
    have isRow := List.mem_singleton.mp (List.mem_filter.mp mem).1
    refine unreferenced p ?_
    rw [isRow, activated]
    split <;> rfl

theorem groupByKey_map (key : String) (payload : LLMCredentialUpsertRequest)
    (rows : List Candidate) (selected : OrderedDict String (List Candidate)) :
    groupByKey (rows.map (·.setBaseUrl key payload))
        (selected.mapValues fun _ => List.map (·.setBaseUrl key payload)) =
      (groupByKey rows selected).mapValues fun _ => List.map (·.setBaseUrl key payload) := by
  induction rows generalizing selected with
  | nil => rfl
  | cons row rest ih =>
    have keyed : (row.setBaseUrl key payload).provider.providerKey = row.provider.providerKey :=
      (setBaseUrl_fields key payload row.provider).2.1
    simp only [groupByKey, List.map_cons, List.foldl_cons] at ih ⊢
    rw [← ih, OrderedDict.mapValues_set, keyed, OrderedDict.get_mapValues]
    cases selected.get row.provider.providerKey <;> simp

theorem decrypted_map (key : String) (payload : LLMCredentialUpsertRequest)
    (rows : List Candidate) :
    decrypted settings (rows.map (·.setBaseUrl key payload)) =
      (decrypted settings rows).map fun found => (found.1.setBaseUrl key payload, found.2) := by
  induction rows with
  | nil => rfl
  | cons row rest ih =>
    have config : (row.setBaseUrl key payload).provider.config = row.provider.config :=
      (setBaseUrl_fields key payload row.provider).2.2
    have secret : (row.setBaseUrl key payload).credential = row.credential := rfl
    have mocked : developmentMockAllowed settings (row.setBaseUrl key payload).provider =
        developmentMockAllowed settings row.provider := by
      unfold developmentMockAllowed
      rw [config]
    simp only [List.map_cons, decrypted, secret, mocked]
    cases settings.decrypt row.credential.secretRef with
    | some apiKey => rfl
    | none =>
      dsimp only
      split
      · rfl
      · exact ih

theorem resolveProvider_map (builtIn : providerConfig settings key = .ok static)
    (rows : List Candidate) :
    resolveProvider settings (rows.map (·.setBaseUrl key payload)) =
      (resolveProvider settings rows).map (Option.map (withBaseUrl key payload static)) := by
  have sorted : (rows.map (·.setBaseUrl key payload)).insertionSort (fun a b => b.rank ≤ a.rank) =
      (rows.insertionSort fun a b => b.rank ≤ a.rank).map (·.setBaseUrl key payload) :=
    (List.map_insertionSort (r := fun a b : Candidate => b.rank ≤ a.rank)
      (s := fun a b : Candidate => b.rank ≤ a.rank) (·.setBaseUrl key payload) rows
      fun _ _ _ _ => Iff.rfl).symm
  unfold resolveProvider
  rw [sorted, decrypted_map]
  cases decrypted settings (rows.insertionSort fun a b => b.rank ≤ a.rank) with
  | none => rfl
  | some found =>
    obtain ⟨⟨rank, p, c⟩, apiKey, demo⟩ := found
    simp only [Option.map_some, Candidate.setBaseUrl, setBaseUrl]
    by_cases written : p.providerKey = key ∧ payload.baseUrl.isSome
    · rw [if_pos written]
      rw [written.1, builtIn]
      cases adapterTypeOf p.adapterType with
      | error x => rfl
      | ok adapterType =>
        simp only [bind, Except.bind]
        cases capabilitiesOf p.config static.capabilities with
        | error x => rfl
        | ok capabilities =>
          simp [Except.map, withBaseUrl, written.2, credentialMetadata]
    · rw [if_neg written]
      cases providerConfig settings p.providerKey with
      | error x => rfl
      | ok other =>
        cases adapterTypeOf p.adapterType with
        | error x => rfl
        | ok adapterType =>
          simp only [bind, Except.bind]
          cases capabilitiesOf p.config other.capabilities with
          | error x => rfl
          | ok capabilities =>
            simp [Except.map, withBaseUrl, written]

theorem resolveAll_map (builtIn : providerConfig settings key = .ok static)
    (entries : List (String × List Candidate)) :
    resolveAll settings (entries.map fun e => (e.1, e.2.map (·.setBaseUrl key payload))) =
      (resolveAll settings entries).map (List.map (withBaseUrl key payload static)) := by
  induction entries with
  | nil => rfl
  | cons entry rest ih =>
    obtain ⟨k, rows⟩ := entry
    simp only [List.map_cons, resolveAll, resolveProvider_map settings builtIn, ih]
    cases resolveProvider settings rows with
    | error x => rfl
    | ok here =>
      cases resolveAll settings rest with
      | error x => rfl
      | ok others => cases here <;> rfl

theorem activateProvider_of_active
    (active : ∀ p ∈ tables.providers, isProvider tenantId key p = true → p.isActive = true) :
    activateProvider tenantId key tables = tables := by
  have same : tables.providers.map (activated tenantId key) = tables.providers := by
    refine (List.map_congr_left fun p mem => ?_).trans (List.map_id tables.providers)
    unfold activated
    split
    · rename_i mine
      have already := active p mem mine
      obtain ⟨id, rowTenant, rowKey, name, adapterType, baseUrl, region, isActive, config⟩ := p
      dsimp only at already
      rw [already]
      rfl
    · rfl
  obtain ⟨providers, credentials, uniqueKeys, references⟩ := tables
  simp only [activateProvider, ProviderTables.mk.injEq]
  exact ⟨same, trivial⟩

/-- A credential that is saved for another user or department reaches a
principal through the shared provider row alone: the row is active afterwards,
and where the request has a base URL, the configuration of that provider key
has it too. Every other field of every configuration is as before. -/
theorem foreign_credential_is_not_resolved {departments users : UUID → Bool}
    {tenantId newId : UUID} {key : String} {payload : LLMCredentialUpsertRequest}
    {tables after : ProviderTables} {departmentId userId : Option UUID}
    (foreign : IsForeign payload departmentId userId) (fresh : ∀ p ∈ tables.providers, p.id ≠ newId)
    (saved : upsertProviderCredential settings departments users tenantId newId key payload
      tables = .ok after) :
    ∃ static, providerConfig settings key = .ok static ∧
      runtimeProviders settings after tenantId departmentId userId =
        (runtimeProviders settings (activateProvider tenantId key tables) tenantId departmentId
          userId).map (List.map (withBaseUrl key payload static)) ∧
      ((∀ p ∈ tables.providers, isProvider tenantId key p = true → p.isActive = true) →
        activateProvider tenantId key tables = tables) := by
  unfold upsertProviderCredential at saved
  cases builtIn : providerConfig settings key with
  | error x => simp [builtIn] at saved
  | ok static =>
    refine ⟨static, rfl, ?_, activateProvider_of_active⟩
    have keyed : static.providerKey = key := by
      unfold providerConfig at builtIn
      split at builtIn
      · rename_i p found
        cases builtIn
        simpa using List.find?_some found
      · cases builtIn
    rw [builtIn] at saved
    cases inTenant : validateCredentialOwnerScope departments users payload with
    | error x => simp [inTenant] at saved
    | ok valid =>
      simp only [inTenant, keyed] at saved
      have rows := candidates_write settings foreign saved
      rw [candidates_getOrCreate fresh] at rows
      unfold runtimeProviders
      rw [rows, ← resolveAll_map settings builtIn]
      have grouped := groupByKey_map key payload
        (candidates (activateProvider tenantId key tables) tenantId departmentId userId)
        OrderedDict.empty
      exact congrArg (fun d => resolveAll settings (OrderedDict.entries d)) grouped

private theorem ok_of_any {α : Type} {P : α → Prop} [DecidablePred P] {x : Except Exc α}
    (h : (x.toOption.any fun a => decide (P a)) = true) : ∃ a, x = .ok a ∧ P a := by
  cases x with
  | error e => simp [Except.toOption] at h
  | ok a => exact ⟨a, rfl, by simpa [Except.toOption] using h⟩

def openai : ProviderRecord where
  providerKey := "openai"
  name := "OpenAI"
  adapterType := .openaiCompatible
  baseUrl := some "https://api.openai.com/v1"
  credentialConfigured := false
  capabilities := ["chat"]

def oneProvider : CredentialSettings where
  builtIn := [openai]
  isDevelopment := false
  encrypt := fun secret => "g" ++ secret
  decrypt := fun token =>
    match token.toList with
    | 'g' :: secret => some (String.ofList secret)
    | _ => none
  mask := fun _ => "***"
  uuidText := fun id => toString id

def sharedTables (isActive : Bool) : ProviderTables where
  providers :=
    [{ id := 5, tenantId := 1, providerKey := "openai", name := "OpenAI"
       adapterType := "openai_compatible", baseUrl := some "https://models.example/v1"
       isActive := isActive }]
  credentials :=
    [{ tenantId := 1, providerId := 5, displayName := "Shared", secretRef := "gtenant-key"
       maskedSecret := "***" }]
  uniqueKeys := by simp
  references := by simp

def ownCredential (baseUrl : Option String) : LLMCredentialUpsertRequest where
  displayName := "Own"
  apiKey := "own-key"
  baseUrl := baseUrl
  ownerType := .user
  ownerId := some 11

def resolved (tables : ProviderTables) : Option (List (Option String × PyValue)) :=
  (runtimeProviders oneProvider tables 1 none (some 12)).toOption.map fun providers =>
    providers.map fun p => (p.baseUrl, p.metadata.get "api_key")

theorem ownCredential_foreign (baseUrl : Option String) :
    IsForeign (ownCredential baseUrl) none (some 12) :=
  .inl ⟨rfl, 11, rfl, by decide⟩

theorem own_credential_stays_own :
    ∃ after static,
      upsertProviderCredential oneProvider (fun _ => false) (fun _ => true) 1 6 "openai"
          (ownCredential none) (sharedTables true) = .ok after ∧
        providerConfig oneProvider "openai" = .ok static ∧
        runtimeProviders oneProvider after 1 none (some 12) =
          (runtimeProviders oneProvider (activateProvider 1 "openai" (sharedTables true)) 1 none
            (some 12)).map (List.map (withBaseUrl "openai" (ownCredential none) static)) ∧
        resolved after = some [(some "https://models.example/v1", .str "tenant-key")] := by
  obtain ⟨after, saved, kept⟩ : ∃ after, upsertProviderCredential oneProvider (fun _ => false)
      (fun _ => true) 1 6 "openai" (ownCredential none) (sharedTables true) = .ok after ∧
      resolved after = some [(some "https://models.example/v1", .str "tenant-key")] :=
    ok_of_any (by decide +kernel)
  obtain ⟨static, builtIn, same, _⟩ := foreign_credential_is_not_resolved oneProvider
    (ownCredential_foreign none) (by simp [sharedTables]) saved
  exact ⟨after, static, saved, builtIn, same, kept⟩

theorem own_base_url_is_shared :
    IsForeign (ownCredential (some "https://own.example/v1")) none (some 12) ∧
      resolved (sharedTables true) = some [(some "https://models.example/v1", .str "tenant-key")] ∧
      resolved (sharedTables false) = some [] ∧
      (∃ after, upsertProviderCredential oneProvider (fun _ => false) (fun _ => true) 1 6 "openai"
          (ownCredential (some "https://own.example/v1")) (sharedTables true) = .ok after ∧
        resolved after = some [(some "https://own.example/v1", .str "tenant-key")]) ∧
      ∃ after, upsertProviderCredential oneProvider (fun _ => false) (fun _ => true) 1 6 "openai"
          (ownCredential none) (sharedTables false) = .ok after ∧
        resolved after = some [(some "https://models.example/v1", .str "tenant-key")] := by
  refine ⟨ownCredential_foreign _, by decide +kernel, by decide +kernel, ?_, ?_⟩
  · exact ok_of_any (by decide +kernel)
  · exact ok_of_any (by decide +kernel)

end ProviderCredentials

end AgentHive
