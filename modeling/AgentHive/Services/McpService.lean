import AgentHive.Process.Fallible
import AgentHive.Services.LicenseStatus
import AgentHive.Services.Secrets
import AgentHive.Store.OrderedDict
import Mathlib.Algebra.Order.Field.Rat
import Mathlib.Data.List.Sort
import Mathlib.Logic.Relation

/-!
MCP servers of the tenants: their rows, the copies that the process keeps of them, and
the endpoints that are mounted for an agent run.
-/

namespace AgentHive

open OrderedDict (get_erase get_of_mem_entries get_set mem_entries_of_get mem_keys)

inductive McpTransport
  | http
  | sse
deriving DecidableEq

inductive McpServerStatus
  | active
  | disabled
  | error
deriving DecidableEq

/-- The functions that authorization headers are stored by: `dumps` and `loads` of
dictionaries of texts, and the secrets. -/
structure HeaderLibrary extends SecretLibrary where
  dumps : List (String × String) → String
  loads : String → Option (List (String × String))
  loads_dumps : ∀ headers, loads (dumps headers) = some headers

/-- A row of `mcp_server_configs` but for its id. -/
structure McpServerConfig where
  tenantId : UUID
  name : String
  serverKey : String
  transport : McpTransport
  endpointUrl : String
  authRef : Option String
  authConfigured : Bool
  status : McpServerStatus
  timeoutSeconds : ℚ
  metadata : String
  createdBy : Option UUID
  createdAt : Instant
  updatedAt : Instant
deriving DecidableEq

structure McpServerRecord where
  id : UUID
  tenantId : UUID
  name : String
  serverKey : String
  transport : McpTransport
  endpointUrl : String
  authHeaders : List (String × String)
  status : McpServerStatus
  timeoutSeconds : ℚ
  metadata : String
  createdBy : Option UUID
  createdAt : Instant
  updatedAt : Instant
  authConfigured : Bool
deriving DecidableEq

structure McpEndpoint where
  serverId : UUID
  serverKey : String
  transport : McpTransport
  endpointUrl : String
  authHeaders : List (String × String)
  timeoutSeconds : ℚ
deriving DecidableEq

structure McpServerCreateRequest where
  name : String
  serverKey : String
  transport : McpTransport := .http
  endpointUrl : String
  authHeaders : List (String × String) := []
  timeoutSeconds : ℚ := 30
  status : McpServerStatus := .active
  metadata : String := "{}"

structure McpServerUpdateRequest where
  name : Option String := none
  transport : Option McpTransport := none
  endpointUrl : Option String := none
  authHeaders : Option (List (String × String)) := none
  timeoutSeconds : Option ℚ := none
  status : Option McpServerStatus := none
  metadata : Option String := none

structure McpStore where
  rows : OrderedDict UUID McpServerConfig
  serversByTenant : OrderedDict (UUID × UUID) McpServerRecord

structure McpFaults where
  existence : Option StorageFault := none
  lookup : Option StorageFault := none
  load : Option StorageFault := none
  flush : Option StorageFault := none
  commit : Option StorageFault := none

def McpServerRecord.toEndpoint (record : McpServerRecord) : McpEndpoint where
  serverId := record.id
  serverKey := record.serverKey
  transport := record.transport
  endpointUrl := record.endpointUrl
  authHeaders := record.authHeaders
  timeoutSeconds := record.timeoutSeconds

namespace McpService

section Records

variable (lib : HeaderLibrary)

def decryptAuthHeaders (authRef : Option String) : List (String × String) :=
  match authRef.filter (· ≠ "") with
  | none => []
  | some token => ((lib.decryptSecret token).bind lib.loads).getD []

def encryptAuthHeaders (headers : List (String × String)) : Option String :=
  if headers = [] then none else some (lib.encryptSecret (lib.dumps headers))

def recordFromRow (id : UUID) (row : McpServerConfig) : McpServerRecord where
  id := id
  tenantId := row.tenantId
  name := row.name
  serverKey := row.serverKey
  transport := row.transport
  endpointUrl := row.endpointUrl
  authHeaders := decryptAuthHeaders lib row.authRef
  status := row.status
  timeoutSeconds := row.timeoutSeconds
  metadata := row.metadata
  createdBy := row.createdBy
  createdAt := row.createdAt
  updatedAt := row.updatedAt
  authConfigured := row.authConfigured

@[simp] theorem decryptAuthHeaders_encrypt (headers : List (String × String)) :
    decryptAuthHeaders lib (encryptAuthHeaders lib headers) = headers := by
  rw [encryptAuthHeaders]
  split
  · rename_i empty
    exact empty.symm
  · have token : (some (lib.encryptSecret (lib.dumps headers))).filter (· ≠ "") =
        some (lib.encryptSecret (lib.dumps headers)) := by
      rw [Option.filter_some, if_pos (by simpa using lib.encrypt_ne (lib.dumps headers))]
    simp only [decryptAuthHeaders, token, lib.decrypt_encrypt, Option.bind_some, lib.loads_dumps,
      Option.getD_some]

end Records

/-! Texts one after the other, each of its characters marked by a letter and its end by a
point. -/

def dumpTexts (texts : List (List Char)) : List Char :=
  texts.flatMap fun text => text.flatMap (fun c => ['x', c]) ++ ['.']

def loadTexts : List Char → Option (List (List Char))
  | [] => some []
  | '.' :: rest => (loadTexts rest).map ([] :: ·)
  | 'x' :: c :: rest =>
    match loadTexts rest with
    | some (text :: texts) => some ((c :: text) :: texts)
    | _ => none
  | _ => none

theorem loadTexts_dumpTexts (texts : List (List Char)) :
    loadTexts (dumpTexts texts) = some texts := by
  induction texts with
  | nil => rfl
  | cons text texts ih =>
    rw [dumpTexts, List.flatMap_cons, List.append_assoc]
    induction text with
    | nil => exact congrArg (Option.map ([] :: ·)) ih
    | cons c text sofar =>
      rw [List.flatMap_cons, List.append_assoc]
      simp only [List.cons_append, List.nil_append] at sofar ⊢
      rw [loadTexts, sofar]

def pairUp : List (List Char) → List (String × String)
  | key :: value :: rest => (String.ofList key, String.ofList value) :: pairUp rest
  | _ => []

def plainHeaders : HeaderLibrary where
  toSecretLibrary := plainSecrets
  dumps headers :=
    String.ofList (dumpTexts (headers.flatMap fun e => [e.1.toList, e.2.toList]))
  loads text := (loadTexts text.toList).map pairUp
  loads_dumps headers := by
    rw [String.toList_ofList, loadTexts_dumpTexts, Option.map_some]
    refine congrArg some ?_
    induction headers with
    | nil => rfl
    | cons e headers ih =>
      rw [List.flatMap_cons]
      simp only [List.cons_append, List.nil_append, pairUp, ih, String.ofList_toList]

variable (store : McpStore)

def cacheServer (record : McpServerRecord) : McpStore :=
  { store with
    serversByTenant := store.serversByTenant.set (record.tenantId, record.id) record }

variable (tenantId : UUID)

def evictServer (serverId : UUID) : McpStore :=
  { store with serversByTenant := store.serversByTenant.erase (tenantId, serverId) }

def tenantRow (serverId : UUID) : Option McpServerConfig :=
  (store.rows.get serverId).filter fun row => row.tenantId == tenantId

def cachedServers : List McpServerRecord :=
  (store.serversByTenant.entries.filter fun e => e.1.1 == tenantId).map Prod.snd

section Operations

variable (lib : HeaderLibrary) (faults : McpFaults) (store : McpStore) (tenantId : UUID)

def tenantRows : List (UUID × McpServerConfig) :=
  (store.rows.entries.filter fun e => e.2.tenantId == tenantId).insertionSort
    fun e f => e.2.createdAt ≤ f.2.createdAt

def listMcpServersForTenant : List McpServerRecord × McpStore :=
  let records := if faults.lookup.isSome then [] else
    (tenantRows store tenantId).map fun e => recordFromRow lib e.1 e.2
  let cached := records.foldl cacheServer store
  if records = [] then
    ((cachedServers cached tenantId).insertionSort fun r s => r.createdAt ≤ s.createdAt, cached)
  else (records, cached)

variable (serverId : UUID)

def getMcpServerForTenant : Except Exc McpServerRecord × McpStore :=
  match faults.lookup, tenantRow store tenantId serverId with
  | none, some row =>
    (.ok (recordFromRow lib serverId row), cacheServer store (recordFromRow lib serverId row))
  | _, _ =>
    match store.serversByTenant.get (tenantId, serverId) with
    | some record => (.ok record, store)
    | none => (.error (.http 404 (.text "MCP server not found for this tenant.")), store)

def ensureServerKeyIsFree (serverKey : String) : Except Exc Unit :=
  match faults.existence with
  | some (.os className message) => .error (.os className message)
  | some (.sqlAlchemy ..) => .ok ()
  | none =>
    if store.rows.entries.any fun e => e.2.tenantId == tenantId && e.2.serverKey == serverKey then
      .error (.http 409 (.text "MCP server_key already exists for this tenant."))
    else .ok ()

variable (now : Instant) (request : McpServerCreateRequest)

def createdRow (actorId : Option UUID) :
    McpServerConfig where
  tenantId := tenantId
  name := request.name
  serverKey := request.serverKey
  transport := request.transport
  endpointUrl := request.endpointUrl
  authRef := encryptAuthHeaders lib request.authHeaders
  authConfigured := request.authHeaders ≠ []
  status := request.status
  timeoutSeconds := request.timeoutSeconds
  metadata := request.metadata
  createdBy := actorId
  createdAt := now
  updatedAt := now

def createdRecord (actorId : Option UUID) (newId : UUID) :
    McpServerRecord where
  id := newId
  tenantId := tenantId
  name := request.name
  serverKey := request.serverKey
  transport := request.transport
  endpointUrl := request.endpointUrl
  authHeaders := request.authHeaders
  status := request.status
  timeoutSeconds := request.timeoutSeconds
  metadata := request.metadata
  createdBy := actorId
  createdAt := now
  updatedAt := now
  authConfigured := request.authHeaders ≠ []

def flushInsert (serverKey : String) (newId : UUID) : Except Exc Unit :=
  match faults.flush with
  | some (.os className message) => .error (.os className message)
  | some (.sqlAlchemy ..) =>
    .error (.http 500 (.text "Failed to persist MCP server configuration."))
  | none =>
    if newId ∈ store.rows.keys ∨ store.rows.entries.any fun e =>
        e.2.tenantId == tenantId && e.2.serverKey == serverKey then
      .error (.http 500 (.text "Failed to persist MCP server configuration."))
    else .ok ()

def commitChange {α : Type} (answer : α) (cached : McpStore)
    (rows : OrderedDict UUID McpServerConfig) : Except Exc α × McpStore :=
  match faults.commit with
  | some fault => (.error fault.toExc, cached)
  | none => (.ok answer, { cached with rows := rows })

def createMcpServerForTenant (actorId : Option UUID) (newId : UUID) :
    Except Exc McpServerRecord × McpStore :=
  let flushed := do
    ensureServerKeyIsFree faults store tenantId request.serverKey
    flushInsert faults store tenantId request.serverKey newId
  match flushed with
  | .error x => (.error x, store)
  | .ok () =>
    let record := createdRecord tenantId now request actorId newId
    commitChange faults record (cacheServer store record)
      (store.rows.set newId (createdRow lib tenantId now request actorId))

def changedFields (request : McpServerUpdateRequest) (row : McpServerConfig) : List String :=
  (if request.name.any (· ≠ row.name) then ["name"] else []) ++
  (if request.transport.any (· ≠ row.transport) then ["transport"] else []) ++
  (if request.endpointUrl.any (· ≠ row.endpointUrl) then ["endpoint_url"] else []) ++
  (if request.authHeaders.isSome then ["auth_configured"] else []) ++
  (if request.timeoutSeconds.any (|· - row.timeoutSeconds| > 1 / 10 ^ 9) then
    ["timeout_seconds"] else []) ++
  (if request.status.any (· ≠ row.status) then ["status"] else []) ++
  (if request.metadata.isSome then ["metadata"] else [])

def applyUpdate (request : McpServerUpdateRequest) (row : McpServerConfig) : McpServerConfig :=
  { row with
    name := request.name.getD row.name
    transport := request.transport.getD row.transport
    endpointUrl := request.endpointUrl.getD row.endpointUrl
    authRef := (request.authHeaders.map (encryptAuthHeaders lib)).getD row.authRef
    authConfigured := (request.authHeaders.map fun headers => decide (headers ≠ [])).getD
      row.authConfigured
    timeoutSeconds :=
      (request.timeoutSeconds.filter (|· - row.timeoutSeconds| > 1 / 10 ^ 9)).getD
        row.timeoutSeconds
    status := request.status.getD row.status
    metadata := request.metadata.getD row.metadata
    updatedAt := now }

def loadForUpdate : Except Exc McpServerConfig :=
  match faults.load, tenantRow store tenantId serverId with
  | some (.os className message), _ => .error (.os className message)
  | none, some row => .ok row
  | _, _ =>
    .error (.http 404 (.text "MCP server configuration unavailable; cache-only fallback."))

def updateMcpServerForTenant (serverId : UUID) (request : McpServerUpdateRequest) :
    Except Exc McpServerRecord × McpStore :=
  match getMcpServerForTenant lib faults store tenantId serverId with
  | (.error x, store') => (.error x, store')
  | (.ok _, store') =>
    match loadForUpdate faults store' tenantId serverId with
    | .error x => (.error x, store')
    | .ok row =>
      if changedFields request row = [] then
        (.ok (recordFromRow lib serverId row),
          cacheServer store' (recordFromRow lib serverId row))
      else
        match faults.flush with
        | some fault => (.error fault.toExc, store')
        | none =>
          let row' := applyUpdate lib now request row
          let updated := recordFromRow lib serverId row'
          commitChange faults updated (cacheServer store' updated)
            (store'.rows.set serverId row')

def flushDelete : Except Exc Unit :=
  match faults.load, tenantRow store tenantId serverId, faults.flush with
  | some (.os className message), _, _ => .error (.os className message)
  | none, some _, some (.os className message) => .error (.os className message)
  | some _, _, _ | none, some _, some _ =>
    .error (.http 500 (.text "Failed to delete MCP server configuration."))
  | none, _, _ => .ok ()

def deleteMcpServerForTenant : Except Exc Unit × McpStore :=
  match getMcpServerForTenant lib faults store tenantId serverId with
  | (.error x, store') => (.error x, store')
  | (.ok _, store') =>
    match flushDelete faults store' tenantId serverId with
    | .error x => (.error x, store')
    | .ok () =>
      let rows :=
        if (tenantRow store' tenantId serverId).isSome then store'.rows.erase serverId
        else store'.rows
      commitChange faults () (evictServer store' tenantId serverId) rows

end Operations

/-- `get_active_mcp_endpoints_for_tenant`. An empty list of keys counts as none. -/
def getActiveMcpEndpointsForTenant (serverKeys : Option (List String)) : List McpEndpoint :=
  let wanted := serverKeys.filter (· ≠ [])
  ((cachedServers store tenantId).filter fun record =>
      record.status == .active && wanted.all (record.serverKey ∈ ·)).map
    McpServerRecord.toEndpoint

end McpService

structure McpRequest where
  tenantId : UUID
  actorId : Option UUID := none
  now : Instant := 0
  faults : McpFaults := {}

inductive McpOperation
  | list
  | get (serverId : UUID)
  | create (request : McpServerCreateRequest) (newId : UUID)
  | update (serverId : UUID) (request : McpServerUpdateRequest)
  | delete (serverId : UUID)

namespace McpService

def operate (lib : HeaderLibrary) (store : McpStore) (step : McpRequest × McpOperation) :
    McpStore :=
  match step.2 with
  | .list => (listMcpServersForTenant lib step.1.faults store step.1.tenantId).2
  | .get serverId => (getMcpServerForTenant lib step.1.faults store step.1.tenantId serverId).2
  | .create request newId =>
    (createMcpServerForTenant lib step.1.faults store step.1.tenantId step.1.now request
      step.1.actorId newId).2
  | .update serverId request =>
    (updateMcpServerForTenant lib step.1.faults store step.1.tenantId step.1.now serverId
      request).2
  | .delete serverId => (deleteMcpServerForTenant lib step.1.faults store step.1.tenantId serverId).2

def operateAll (lib : HeaderLibrary) (store : McpStore)
    (steps : List (McpRequest × McpOperation)) : McpStore :=
  steps.foldl (operate lib) store

section Moves

variable {lib : HeaderLibrary} {store store' : McpStore} {tenantId serverId : UUID}

theorem tenantRow_eq_some {row : McpServerConfig} :
    tenantRow store tenantId serverId = some row ↔
      store.rows.get serverId = some row ∧ row.tenantId = tenantId := by
  rw [tenantRow, Option.filter_eq_some_iff, beq_iff_eq]

inductive Move (lib : HeaderLibrary) (store : McpStore) : McpStore → Prop
  | cached {tenantId serverId : UUID} {row : McpServerConfig}
      (stored : tenantRow store tenantId serverId = some row) :
      Move lib store (cacheServer store (recordFromRow lib serverId row))
  | written {serverId : UUID} {row : McpServerConfig}
      (own : ∀ old, store.rows.get serverId = some old → old.tenantId = row.tenantId) :
      Move lib store
        { cacheServer store (recordFromRow lib serverId row) with
          rows := store.rows.set serverId row }
  | removed {tenantId serverId : UUID} {row : McpServerConfig}
      (stored : tenantRow store tenantId serverId = some row) :
      Move lib store
        { evictServer store tenantId serverId with rows := store.rows.erase serverId }
  | evicted {tenantId serverId : UUID} (missing : tenantRow store tenantId serverId = none) :
      Move lib store (evictServer store tenantId serverId)

abbrev Moves (lib : HeaderLibrary) : McpStore → McpStore → Prop :=
  Relation.ReflTransGen (Move lib)

def Agrees (lib : HeaderLibrary) (store : McpStore) : Prop :=
  ∀ tenantId serverId record, store.serversByTenant.get (tenantId, serverId) = some record →
    ∃ row, tenantRow store tenantId serverId = some row ∧ record = recordFromRow lib serverId row

def Complete (store : McpStore) (tenantId : UUID) : Prop :=
  ∀ serverId row, tenantRow store tenantId serverId = some row →
    (store.serversByTenant.get (tenantId, serverId)).isSome

theorem tenantRow_set {row : McpServerConfig} (servers : OrderedDict (UUID × UUID) McpServerRecord)
    (t i : UUID) :
    tenantRow { rows := store.rows.set serverId row, serversByTenant := servers } t i =
      if i = serverId then (if row.tenantId = t then some row else none)
      else tenantRow store t i := by
  rw [tenantRow, get_set]
  by_cases same : i = serverId
  · rw [if_pos same, if_pos same, Option.filter_some]
    simp only [beq_iff_eq]
  · rw [if_neg same, if_neg same, tenantRow]

theorem tenantRow_erase (servers : OrderedDict (UUID × UUID) McpServerRecord) (t i : UUID) :
    tenantRow { rows := store.rows.erase serverId, serversByTenant := servers } t i =
      if i = serverId then none else tenantRow store t i := by
  rw [tenantRow, get_erase]
  split
  · rfl
  · rfl

theorem Move.agrees (move : Move lib store store') (agrees : Agrees lib store) :
    Agrees lib store' := by
  intro t i record found
  cases move with
  | cached stored =>
    rename_i tenantId serverId row
    rw [cacheServer, get_set] at found
    split at found
    · rename_i same
      cases same
      cases found
      exact ⟨row, tenantRow_eq_some.mpr ⟨(tenantRow_eq_some.mp stored).1, rfl⟩, rfl⟩
    · exact agrees t i record found
  | written own =>
    rename_i serverId row
    rw [cacheServer, get_set] at found
    rw [tenantRow_set]
    split at found
    · rename_i same
      cases same
      cases found
      exact ⟨row, (if_pos rfl).trans (if_pos rfl), rfl⟩
    · rename_i differs
      obtain ⟨old, stored, made⟩ := agrees t i record found
      refine ⟨old, ?_, made⟩
      rw [if_neg, stored]
      intro same
      subst same
      obtain ⟨row', tenant⟩ := tenantRow_eq_some.mp stored
      exact differs (Prod.ext (tenant.symm.trans (own old row')) rfl)
  | removed stored =>
    rename_i tenantId serverId row
    rw [evictServer, get_erase] at found
    split at found
    · cases found
    · rename_i differs
      obtain ⟨old, kept, made⟩ := agrees t i record found
      refine ⟨old, ?_, made⟩
      rw [tenantRow_erase, if_neg, kept]
      intro same
      subst same
      obtain ⟨first, tenant⟩ := tenantRow_eq_some.mp stored
      obtain ⟨second, other⟩ := tenantRow_eq_some.mp kept
      rw [first] at second
      cases second
      exact differs (Prod.ext (other.symm.trans tenant) rfl)
  | evicted missing =>
    rw [evictServer, get_erase] at found
    split at found
    · cases found
    · exact agrees t i record found

theorem Move.complete (move : Move lib store store') {t : UUID} (complete : Complete store t) :
    Complete store' t := by
  intro i row' stored'
  cases move with
  | cached stored =>
    rw [cacheServer, get_set]
    split
    · rfl
    · exact complete i row' stored'
  | written own =>
    rename_i serverId row
    rw [tenantRow_set] at stored'
    rw [cacheServer, get_set]
    split
    · rfl
    · rename_i differs
      split at stored'
      · rename_i same
        split at stored'
        · rename_i tenant
          exact absurd (Prod.ext tenant.symm same) differs
        · cases stored'
      · exact complete i row' stored'
  | removed stored =>
    rename_i tenantId serverId row
    rw [tenantRow_erase] at stored'
    split at stored'
    · cases stored'
    · rename_i other
      rw [evictServer, get_erase, if_neg fun same => other (congrArg Prod.snd same)]
      exact complete i row' stored'
  | evicted missing =>
    rename_i tenantId serverId
    rw [evictServer, get_erase, if_neg]
    · exact complete i row' stored'
    · intro same
      cases same
      rw [show tenantRow store t i = some row' from stored'] at missing
      cases missing

theorem Moves.agrees (moves : Moves lib store store') (agrees : Agrees lib store) :
    Agrees lib store' := by
  induction moves with
  | refl => exact agrees
  | tail _ move ih => exact move.agrees ih

theorem Moves.complete (moves : Moves lib store store') {t : UUID} (complete : Complete store t) :
    Complete store' t := by
  induction moves with
  | refl => exact complete
  | tail _ move ih => exact move.complete ih

end Moves

section Operations

variable {lib : HeaderLibrary} {faults : McpFaults} {store : McpStore} {tenantId serverId : UUID}

theorem getMcpServerForTenant_moves :
    Moves lib store (getMcpServerForTenant lib faults store tenantId serverId).2 := by
  rw [getMcpServerForTenant]
  split
  · rename_i row _ found
    exact .single (.cached found)
  · split
    · exact .refl
    · exact .refl

theorem cacheServer_moves {entries : List (UUID × McpServerConfig)}
    (stored : ∀ e ∈ entries, store.rows.get e.1 = some e.2) :
    Moves lib store
      ((entries.map fun e => recordFromRow lib e.1 e.2).foldl cacheServer store) := by
  induction entries generalizing store with
  | nil => exact .refl
  | cons e rest ih =>
    have own : tenantRow store e.2.tenantId e.1 = some e.2 :=
      tenantRow_eq_some.mpr ⟨stored e (List.mem_cons_self ..), rfl⟩
    refine .trans (.single (.cached own)) (ih ?_)
    intro e' mem
    exact stored e' (List.mem_cons_of_mem e mem)

theorem mem_tenantRows {e : UUID × McpServerConfig} :
    e ∈ tenantRows store tenantId ↔ tenantRow store tenantId e.1 = some e.2 := by
  rw [tenantRows, List.mem_insertionSort, List.mem_filter, beq_iff_eq, tenantRow_eq_some]
  refine and_congr_left fun _ => ⟨get_of_mem_entries, mem_entries_of_get⟩

theorem listMcpServersForTenant_snd :
    (listMcpServersForTenant lib faults store tenantId).2 =
      (if faults.lookup.isSome then [] else
        (tenantRows store tenantId).map fun e => recordFromRow lib e.1 e.2).foldl cacheServer
          store := by
  rw [listMcpServersForTenant]
  generalize (if faults.lookup.isSome then [] else
    (tenantRows store tenantId).map fun e => recordFromRow lib e.1 e.2) = records
  split
  · rfl
  · rfl

theorem listMcpServersForTenant_moves :
    Moves lib store (listMcpServersForTenant lib faults store tenantId).2 := by
  rw [listMcpServersForTenant_snd]
  split
  · exact .refl
  · exact cacheServer_moves fun e mem => (tenantRow_eq_some.mp (mem_tenantRows.mp mem)).1

theorem createMcpServerForTenant_moves {now : Instant} {request : McpServerCreateRequest}
    {actorId : Option UUID} {newId : UUID} (committed : faults.commit = none) :
    Moves lib store (createMcpServerForTenant lib faults store tenantId now request actorId
      newId).2 := by
  simp only [createMcpServerForTenant]
  split
  · exact .refl
  · rename_i flushed
    have fresh : newId ∉ store.rows.keys := by
      rw [Process.Fallible.bind_ok] at flushed
      obtain ⟨_, _, flushed⟩ := flushed
      rw [flushInsert] at flushed
      split at flushed
      · cases flushed
      · cases flushed
      · split at flushed
        · cases flushed
        · rename_i free
          exact fun inKeys => free (.inl inKeys)
    have made : createdRecord tenantId now request actorId newId =
        recordFromRow lib newId (createdRow lib tenantId now request actorId) := by
      rw [recordFromRow, createdRow, decryptAuthHeaders_encrypt, createdRecord]
    rw [commitChange, committed, made]
    refine .single (.written ?_)
    intro old stored
    exact absurd (mem_keys.mpr (by rw [stored]; rfl)) fresh

theorem tenantRow_of_loaded {row : McpServerConfig}
    (loaded : loadForUpdate faults store tenantId serverId = .ok row) :
    tenantRow store tenantId serverId = some row := by
  rw [loadForUpdate] at loaded
  split at loaded
  · cases loaded
  · cases loaded
    assumption
  · cases loaded

theorem updateMcpServerForTenant_moves {now : Instant} {request : McpServerUpdateRequest}
    (committed : faults.commit = none) :
    Moves lib store
      (updateMcpServerForTenant lib faults store tenantId now serverId request).2 := by
  have found : Moves lib store (getMcpServerForTenant lib faults store tenantId serverId).2 :=
    getMcpServerForTenant_moves
  simp only [updateMcpServerForTenant]
  split
  · rename_i looked
    rw [looked] at found
    exact found
  · rename_i store' looked
    rw [looked] at found
    split
    · exact found
    · rename_i row loaded
      have stored := tenantRow_of_loaded loaded
      split
      · exact found.tail (.cached stored)
      · split
        · exact found
        · rw [commitChange, committed]
          refine found.tail (.written ?_)
          intro old same
          rw [(tenantRow_eq_some.mp stored).1] at same
          cases same
          rfl

theorem deleteMcpServerForTenant_moves (committed : faults.commit = none) :
    Moves lib store (deleteMcpServerForTenant lib faults store tenantId serverId).2 := by
  have found : Moves lib store (getMcpServerForTenant lib faults store tenantId serverId).2 :=
    getMcpServerForTenant_moves
  simp only [deleteMcpServerForTenant]
  split
  · rename_i looked
    rw [looked] at found
    exact found
  · rename_i store' looked
    rw [looked] at found
    split
    · exact found
    · rw [commitChange, committed]
      cases stored : tenantRow store' tenantId serverId with
      | none => exact found.tail (.evicted stored)
      | some row => exact found.tail (.removed stored)

theorem operate_moves {step : McpRequest × McpOperation}
    (committed : step.1.faults.commit = none) : Moves lib store (operate lib store step) := by
  obtain ⟨request, operation⟩ := step
  cases operation with
  | list => exact listMcpServersForTenant_moves
  | get serverId => exact getMcpServerForTenant_moves
  | create request newId => exact createMcpServerForTenant_moves committed
  | update serverId request => exact updateMcpServerForTenant_moves committed
  | delete serverId => exact deleteMcpServerForTenant_moves committed

theorem operateAll_moves {steps : List (McpRequest × McpOperation)}
    (committed : ∀ step ∈ steps, step.1.faults.commit = none) :
    Moves lib store (operateAll lib store steps) := by
  induction steps generalizing store with
  | nil => exact .refl
  | cons step steps ih =>
    refine .trans (operate_moves (committed step (List.mem_cons_self ..))) (ih ?_)
    intro other mem
    exact committed other (List.mem_cons_of_mem step mem)

theorem foldl_cacheServer (records : List McpServerRecord) (store : McpStore) :
    records.foldl cacheServer store =
      { store with
        serversByTenant := store.serversByTenant.setAll
          (records.map fun record => ((record.tenantId, record.id), record)) } := by
  induction records generalizing store with
  | nil => rfl
  | cons record rest ih => exact ih _

theorem complete_of_list (answered : faults.lookup = none) :
    Complete (listMcpServersForTenant lib faults store tenantId).2 tenantId := by
  intro i row stored
  rw [listMcpServersForTenant_snd, answered, if_neg (by simp), foldl_cacheServer] at stored ⊢
  have listed : (i, row) ∈ tenantRows store tenantId := mem_tenantRows.mpr stored
  refine mem_keys.mp (OrderedDict.mem_keys_setAll.mpr (.inl ?_))
  rw [List.map_map, List.map_map]
  refine List.mem_map.mpr ⟨(i, row), listed, ?_⟩
  exact Prod.ext (tenantRow_eq_some.mp stored).2 rfl

end Operations

section Mounting

variable {lib : HeaderLibrary} {store : McpStore} {tenantId : UUID}

def MountsExactly (lib : HeaderLibrary) (store : McpStore) (tenantId : UUID)
    (serverKeys : Option (List String)) : Prop :=
  (∀ endpoint, endpoint ∈ getActiveMcpEndpointsForTenant store tenantId serverKeys ↔
    ∃ serverId row, tenantRow store tenantId serverId = some row ∧ row.status = .active ∧
      (∀ keys ∈ serverKeys, row.serverKey ∈ keys) ∧
      endpoint = (recordFromRow lib serverId row).toEndpoint) ∧
  ((getActiveMcpEndpointsForTenant store tenantId serverKeys).map McpEndpoint.serverId).Nodup

theorem mem_cachedServers {record : McpServerRecord} :
    record ∈ cachedServers store tenantId ↔
      ∃ serverId, store.serversByTenant.get (tenantId, serverId) = some record := by
  rw [cachedServers, List.mem_map]
  constructor
  · intro ⟨e, mem, own⟩
    obtain ⟨inEntries, tenant⟩ := List.mem_filter.mp mem
    rw [beq_iff_eq] at tenant
    refine ⟨e.1.2, ?_⟩
    rw [← tenant, ← own]
    exact get_of_mem_entries inEntries
  · intro ⟨serverId, found⟩
    refine ⟨((tenantId, serverId), record), List.mem_filter.mpr ⟨?_, ?_⟩, rfl⟩
    · exact mem_entries_of_get found
    · exact beq_iff_eq.mpr rfl

theorem mem_cachedServers_iff (agrees : Agrees lib store) (complete : Complete store tenantId)
    {record : McpServerRecord} :
    record ∈ cachedServers store tenantId ↔
      ∃ serverId row, tenantRow store tenantId serverId = some row ∧
        record = recordFromRow lib serverId row := by
  rw [mem_cachedServers]
  refine exists_congr fun serverId => ?_
  constructor
  · intro found
    exact agrees tenantId serverId record found
  · intro ⟨row, stored, made⟩
    obtain ⟨copy, found⟩ := Option.isSome_iff_exists.mp (complete serverId row stored)
    obtain ⟨row', stored', made'⟩ := agrees tenantId serverId copy found
    rw [stored] at stored'
    cases stored'
    rw [made, ← made', found]

theorem nodup_cachedServers (agrees : Agrees lib store) :
    ((cachedServers store tenantId).map McpServerRecord.id).Nodup := by
  have byKey : (cachedServers store tenantId).map McpServerRecord.id =
      (store.serversByTenant.entries.filter fun e => e.1.1 == tenantId).map fun e => e.1.2 := by
    rw [cachedServers, List.map_map]
    refine List.map_congr_left fun e mem => ?_
    have found := get_of_mem_entries (List.mem_of_mem_filter mem)
    obtain ⟨row, _, made⟩ := agrees e.1.1 e.1.2 e.2 found
    rw [Function.comp_apply, made]
    rfl
  have keys : ((store.serversByTenant.entries.filter fun e => e.1.1 == tenantId).map
      Prod.fst).Nodup :=
    store.serversByTenant.distinct.sublist (List.filter_sublist.map Prod.fst)
  have ofTenant : ∀ k ∈ (store.serversByTenant.entries.filter fun e => e.1.1 == tenantId).map
      Prod.fst, k.1 = tenantId := by
    intro k mem
    obtain ⟨e, kept, own⟩ := List.mem_map.mp mem
    rw [← own]
    exact beq_iff_eq.mp (List.mem_filter.mp kept).2
  have ids := List.Nodup.map_on (fun k first l second same =>
    Prod.ext ((ofTenant k first).trans (ofTenant l second).symm) same) keys
  rw [List.map_map] at ids
  rw [byKey]
  exact ids

theorem mem_getActive {serverKeys : Option (List String)} {endpoint : McpEndpoint} :
    endpoint ∈ getActiveMcpEndpointsForTenant store tenantId serverKeys ↔
      ∃ record ∈ cachedServers store tenantId, record.status = .active ∧
        (∀ keys ∈ serverKeys, keys ≠ [] → record.serverKey ∈ keys) ∧
        endpoint = record.toEndpoint := by
  simp only [getActiveMcpEndpointsForTenant, List.mem_map, List.mem_filter, Bool.and_eq_true,
    beq_iff_eq, and_assoc]
  refine exists_congr fun record => and_congr_right fun _ => and_congr_right fun _ => ?_
  refine and_congr ?_ eq_comm
  cases serverKeys with
  | none => simp
  | some keys => by_cases empty : keys = [] <;> simp [empty]

theorem mountsExactly_iff {serverKeys : Option (List String)} (agrees : Agrees lib store)
    (complete : Complete store tenantId) :
    MountsExactly lib store tenantId serverKeys ↔
      ¬ (serverKeys = some [] ∧
        ∃ serverId row, tenantRow store tenantId serverId = some row ∧ row.status = .active) := by
  constructor
  · intro mounts ⟨empty, serverId, row, stored, active⟩
    subst empty
    have cached : recordFromRow lib serverId row ∈ cachedServers store tenantId :=
      (mem_cachedServers_iff agrees complete).mpr ⟨serverId, row, stored, rfl⟩
    have mounted := mem_getActive.mpr ⟨_, cached, active, fun keys given filled =>
      absurd (Option.some.inj given).symm filled, rfl⟩
    obtain ⟨_, row', _, _, asked, _⟩ := (mounts.1 _).mp mounted
    exact List.not_mem_nil (asked [] rfl)
  · intro asked
    refine ⟨fun endpoint => ?_, ?_⟩
    · rw [mem_getActive]
      constructor
      · intro ⟨record, cached, active, keyed, made⟩
        obtain ⟨serverId, row, stored, own⟩ := (mem_cachedServers_iff agrees complete).mp cached
        subst own
        refine ⟨serverId, row, stored, active, fun keys given => keyed keys given ?_, made⟩
        intro empty
        exact asked ⟨given.trans (congrArg some empty), serverId, row, stored, active⟩
      · intro ⟨serverId, row, stored, active, keyed, made⟩
        exact ⟨_, (mem_cachedServers_iff agrees complete).mpr ⟨serverId, row, stored, rfl⟩,
          active, fun keys given _ => keyed keys given, made⟩
    · rw [getActiveMcpEndpointsForTenant, List.map_map]
      exact (nodup_cachedServers agrees).sublist (List.filter_sublist.map _)

/-- In a process that starts without copies and whose commits work, once the servers of a
tenant have been listed, or where it had none, its endpoints are those of its active
servers, but for an empty list of keys. -/
theorem mounts_active_servers_iff (rows : OrderedDict UUID McpServerConfig)
    {steps : List (McpRequest × McpOperation)} {serverKeys : Option (List String)}
    (committed : ∀ step ∈ steps, step.1.faults.commit = none)
    (listed : (∀ e ∈ rows.entries, e.2.tenantId ≠ tenantId) ∨
      ∃ step ∈ steps, step.1.tenantId = tenantId ∧ step.2 = .list ∧
        step.1.faults.lookup = none) :
    MountsExactly lib (operateAll lib ⟨rows, .empty⟩ steps) tenantId serverKeys ↔
      ¬ (serverKeys = some [] ∧ ∃ serverId row,
        tenantRow (operateAll lib ⟨rows, .empty⟩ steps) tenantId serverId = some row ∧
          row.status = .active) := by
  have start : Agrees lib ⟨rows, .empty⟩ := by
    intro t i record found
    cases found
  refine mountsExactly_iff ((operateAll_moves committed).agrees start) ?_
  rcases listed with empty | ⟨step, mem, own, list, answered⟩
  · refine (operateAll_moves committed).complete ?_
    intro i row stored
    obtain ⟨found, tenant⟩ := tenantRow_eq_some.mp stored
    exact absurd tenant (empty _ (mem_entries_of_get found))
  · obtain ⟨before, after, split⟩ := List.append_of_mem mem
    subst split
    rw [operateAll, List.foldl_append, List.foldl_cons]
    have later : ∀ other ∈ after, other.1.faults.commit = none := fun other inAfter =>
      committed other (List.mem_append_right _ (List.mem_cons_of_mem step inAfter))
    refine (operateAll_moves later).complete ?_
    subst own
    rw [operate, list]
    exact complete_of_list answered

def searchServer : McpServerCreateRequest where
  name := "Search"
  serverKey := "search"
  endpointUrl := "https://search"

theorem created_server_mounted :
    MountsExactly plainHeaders
      (operateAll plainHeaders ⟨.empty, .empty⟩ [({ tenantId := 1 }, .create searchServer 7)]) 1
      none := by
  refine (mounts_active_servers_iff .empty ?_ (.inl fun e mem => nomatch mem)).mpr fun asked => ?_
  · intro step mem
    rw [List.mem_singleton.mp mem]
  · cases asked.1

theorem uncommitted_server_mounted :
    ¬ ∀ (lib : HeaderLibrary) (steps : List (McpRequest × McpOperation)) (tenantId : UUID)
      (serverKeys : Option (List String)),
      MountsExactly lib (operateAll lib ⟨.empty, .empty⟩ steps) tenantId serverKeys := by
  intro claimed
  let failing : McpRequest :=
    { tenantId := 1, faults := { commit := some (.sqlAlchemy "OperationalError" "") } }
  have mounts := (claimed plainHeaders [(failing, .create searchServer 7)] 1 none).1
    (createdRecord 1 0 searchServer none 7).toEndpoint
  obtain ⟨serverId, row, stored, _⟩ := mounts.mp (List.mem_singleton_self _)
  cases stored

end Mounting

end McpService
end AgentHive
