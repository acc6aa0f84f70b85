import AgentHive.Services.ChannelService

/-!
Changes of channels that are reported as done, and the webhooks that come after
them.
-/

namespace AgentHive
namespace ChannelService

variable (lib : SecretLibrary)

/-- What `verify_signature` finds: nothing is valid without a secret. -/
def signatureValid (verify : String → Bool) (secret : Option String) : Bool :=
  match secret.filter (· ≠ "") with
  | none => false
  | some secret => verify secret

def channelSecretConfigured (channel : ChannelRecord) : Bool :=
  channel.secretConfigured.getD channel.secret.isSome

def webhookSigned (verify : String → Bool) (channel : ChannelRecord) : Bool :=
  if channel.secretError.isSome then signatureValid verify none
  else
    signatureValid verify channel.secret ||
      truthy channel.previousSecret && signatureValid verify channel.previousSecret

/-- Why a webhook is not handed to the agent of its channel; `isText` says that it
brings a text. -/
def webhookError (verify : String → Bool) (isText : Bool) (channel : ChannelRecord) :
    Option String :=
  if channel.secretError.isSome then some "channel_secret_unavailable"
  else if channelSecretConfigured channel && !webhookSigned verify channel then
    some "invalid_signature"
  else if channel.status ≠ .active then some "channel_disabled"
  else if !isText then some "unsupported_or_empty_message"
  else none

def receiveChannelWebhook (fault : Option StorageFault) (store : ChannelStore)
    (key : ChannelType × String) : Option ChannelRecord × ChannelStore :=
  getChannelByKey lib fault store key

def rowByKey (store : ChannelStore) (key : ChannelType × String) : Option (UUID × ChannelConfig) :=
  (rowsByKey store key).head?

variable {key : ChannelType × String}

theorem receiveChannelWebhook_of_row {store : ChannelStore} {e : UUID × ChannelConfig}
    (found : rowByKey store key = some e) :
    (receiveChannelWebhook lib none store key).1 = some (recordFromRow lib e.1 e.2) := by
  rw [rowByKey] at found
  simp only [receiveChannelWebhook, getChannelByKey]
  cases rows : rowsByKey store key with
  | nil =>
    rw [rows] at found
    cases found
  | cons first rest =>
    rw [rows] at found
    cases found
    rfl

theorem receiveChannelWebhook_of_no_row {store : ChannelStore}
    (missing : rowByKey store key = none) :
    (receiveChannelWebhook lib none store key).1 = store.channelIndex.get key := by
  have rows : rowsByKey store key = [] := List.head?_eq_none_iff.mp missing
  simp only [receiveChannelWebhook, getChannelByKey, rows]

theorem rows_receiveChannelWebhook (fault : Option StorageFault) (store : ChannelStore)
    (key : ChannelType × String) :
    (receiveChannelWebhook lib fault store key).2.rows = store.rows := by
  simp only [receiveChannelWebhook, getChannelByKey]
  split <;> rfl

/-! A channel that is not active is not routed, and without the secret before it the
secret of a channel is the only one that is accepted. -/

section Change

variable {lib : SecretLibrary} {faults : ChannelFaults} {store : ChannelStore} {tenantId : UUID}
  {channelId : UUID} {changeRow : ChannelConfig → ChannelConfig}
  {changeRecord : ChannelRecord → ChannelRecord} {channel : ChannelRecord}

def KeepsKey (changeRow : ChannelConfig → ChannelConfig) : Prop :=
  ∀ row, (changeRow row).channelType = row.channelType ∧ (changeRow row).channelKey = row.channelKey

theorem rows_getTenantChannel (fault : Option StorageFault) :
    (getTenantChannel lib fault store tenantId channelId).2.rows = store.rows := by
  unfold getTenantChannel
  split
  · rfl
  · split <;> rfl

theorem getTenantChannel_error {fault : Option StorageFault} {x : Exc}
    (failed : (getTenantChannel lib fault store tenantId channelId).1 = .error x) :
    (getTenantChannel lib fault store tenantId channelId).2 = store := by
  unfold getTenantChannel at failed ⊢
  split
  · rename_i found
    simp only [found] at failed
    cases failed
  · split <;> rfl

theorem rowByKey_set {row : ChannelConfig} (keeps : KeepsKey changeRow)
    (stored : store.rows.get channelId = some row) (key : ChannelType × String) :
    rowByKey { store with rows := store.rows.set channelId (changeRow row) } key =
      (rowByKey store key).map fun e => (e.1, if e.1 = channelId then changeRow e.2 else e.2) := by
  have present : channelId ∈ store.rows.keys := OrderedDict.mem_keys.mpr (by rw [stored]; rfl)
  have entries : (store.rows.set channelId (changeRow row)).entries =
      store.rows.entries.map fun e => (e.1, if e.1 = channelId then changeRow e.2 else e.2) := by
    rw [OrderedDict.entries_set, if_pos present]
    refine List.map_congr_left fun e mem => ?_
    by_cases own : e.1 = channelId
    · have found := OrderedDict.get_of_mem_entries mem
      rw [own, stored] at found
      rw [if_pos own, if_pos own, Option.some.inj found]
    · rw [if_neg own, if_neg own]
  rw [rowByKey, rowsByKey, entries, List.filter_map, List.head?_map, rowByKey, rowsByKey]
  congr 3
  funext e
  simp only [Function.comp_apply]
  split
  · rw [(keeps e.2).1, (keeps e.2).2]
  · rfl

def ChangeWritten (faults : ChannelFaults) : Prop :=
  faults.commit = none ∧ faults.flush = none ∧ (faults.load = none ∨ faults.reload = none)

instance (faults : ChannelFaults) : Decidable (ChangeWritten faults) :=
  inferInstanceAs (Decidable (_ ∧ _ ∧ _))

theorem rowByKey_congr {other : ChannelStore} (same : other.rows = store.rows)
    (key : ChannelType × String) : rowByKey other key = rowByKey store key := by
  rw [rowByKey, rowsByKey, same, rowByKey, rowsByKey]

variable {key : ChannelType × String}

theorem stored_of_rowByKey {e : UUID × ChannelConfig} (found : rowByKey store key = some e) :
    store.rows.get e.1 = some e.2 :=
  OrderedDict.get_of_mem_entries (List.mem_of_mem_filter (List.mem_of_head? found))

def writtenRow (faults : ChannelFaults) (store : ChannelStore) (tenantId channelId : UUID) :
    Option ChannelConfig :=
  if ChangeWritten faults then tenantRow store tenantId channelId else none

theorem rows_changeChannel
    (found : (getTenantChannel lib faults.load store tenantId channelId).1 = .ok channel) :
    (changeChannel lib faults store tenantId channelId changeRow changeRecord).2.rows =
      match writtenRow faults store tenantId channelId with
      | some row => store.rows.set channelId (changeRow row)
      | none => store.rows := by
  have rows : (getTenantChannel lib faults.load store tenantId channelId).2.rows = store.rows :=
    rows_getTenantChannel faults.load
  rw [changeChannel]
  cases looked : getTenantChannel lib faults.load store tenantId channelId with
  | mk r store' =>
    rw [looked] at found rows
    subst found
    have ofTenant : tenantRow store' tenantId channelId = tenantRow store tenantId channelId := by
      rw [tenantRow, tenantRow, rows]
    simp only [stagedUpdate, ofTenant, writtenRow]
    have kept : (cacheChannel store' (changeRecord channel)).rows = store.rows := rows
    by_cases written : ChangeWritten faults
    · rw [if_pos written, if_pos ⟨written.2.2, written.2.1⟩, written.1]
      cases tenantRow store tenantId channelId with
      | none => exact kept
      | some row => simp only [commitAuditBestEffort, Option.map_some, kept]
    · rw [if_neg written]
      by_cases flushed : (faults.load = none ∨ faults.reload = none) ∧ faults.flush = none
      · have fails : faults.commit ≠ none := fun works => written ⟨works, flushed.2, flushed.1⟩
        obtain ⟨x, failed⟩ := Option.ne_none_iff_exists'.mp fails
        rw [failed]
        exact kept
      · rw [if_neg flushed]
        unfold commitAuditBestEffort
        split
        · rename_i none
          cases none
        · exact kept

theorem tenantRow_eq_some {row : ChannelConfig} :
    tenantRow store tenantId channelId = some row ↔
      store.rows.get channelId = some row ∧ row.tenantId = tenantId := by
  rw [tenantRow, Option.filter_eq_some_iff, beq_iff_eq]

theorem rowByKey_changed (keeps : KeepsKey changeRow)
    (found : (getTenantChannel lib faults.load store tenantId channelId).1 = .ok channel)
    (key : ChannelType × String) :
    rowByKey (changeChannel lib faults store tenantId channelId changeRow changeRecord).2 key =
      (rowByKey store key).map fun e =>
        (e.1, if e.1 = channelId ∧ e.2.tenantId = tenantId ∧ ChangeWritten faults then
          changeRow e.2 else e.2) := by
  have rows : (changeChannel lib faults store tenantId channelId changeRow changeRecord).2.rows =
      match writtenRow faults store tenantId channelId with
      | some row => store.rows.set channelId (changeRow row)
      | none => store.rows := rows_changeChannel found
  cases written : writtenRow faults store tenantId channelId with
  | some row =>
    rw [written] at rows
    rw [writtenRow] at written
    split at written
    · rename_i done
      obtain ⟨stored, ofTenant⟩ := tenantRow_eq_some.mp written
      let changed : ChannelStore :=
        { store with rows := store.rows.set channelId (changeRow row) }
      rw [show rowByKey (changeChannel lib faults store tenantId channelId changeRow
        changeRecord).2 key = rowByKey changed key from rowByKey_congr rows key,
        rowByKey_set keeps stored]
      refine Option.map_congr fun e mem => ?_
      by_cases own : e.1 = channelId
      · have same := stored_of_rowByKey mem
        rw [own, stored] at same
        cases same
        rw [if_pos own, if_pos ⟨own, ofTenant, done⟩]
      · rw [if_neg own, if_neg fun other => own other.1]
    · cases written
  | none =>
    rw [written] at rows
    rw [rowByKey_congr rows]
    refine Option.map_id'.symm.trans (Option.map_congr fun e mem => ?_)
    rw [if_neg]
    intro ⟨own, ofTenant, done⟩
    rw [writtenRow, if_pos done] at written
    have stored := stored_of_rowByKey mem
    rw [own] at stored
    rw [tenantRow_eq_some.mpr ⟨stored, ofTenant⟩] at written
    cases written

theorem changeChannel_fst :
    (changeChannel lib faults store tenantId channelId changeRow changeRecord).1 =
      (getTenantChannel lib faults.load store tenantId channelId).1.map changeRecord := by
  rw [changeChannel]
  cases getTenantChannel lib faults.load store tenantId channelId with
  | mk r store' =>
    cases r with
    | error x => rfl
    | ok channel => rfl

theorem changeChannel_error {x : Exc}
    (failed : (changeChannel lib faults store tenantId channelId changeRow changeRecord).1 =
      .error x) :
    (changeChannel lib faults store tenantId channelId changeRow changeRecord).2 = store := by
  have unchanged : ∀ x, (getTenantChannel lib faults.load store tenantId channelId).1 = .error x →
      (getTenantChannel lib faults.load store tenantId channelId).2 = store :=
    fun x => getTenantChannel_error
  rw [changeChannel] at failed ⊢
  cases looked : getTenantChannel lib faults.load store tenantId channelId with
  | mk r store' =>
    rw [looked] at failed unchanged
    cases r with
    | error y => exact unchanged y rfl
    | ok channel => cases failed

theorem rowByKey_kept_by_change {e : UUID × ChannelConfig} (found : rowByKey store key = some e)
    (other : e.1 ≠ channelId) (keeps : KeepsKey changeRow) :
    rowByKey (changeChannel lib faults store tenantId channelId changeRow changeRecord).2 key =
      some e := by
  cases looked : (getTenantChannel lib faults.load store tenantId channelId).1 with
  | error x =>
    have failed : (changeChannel lib faults store tenantId channelId changeRow changeRecord).1 =
        .error x := by
      rw [changeChannel_fst, looked]
      rfl
    rw [changeChannel_error failed]
    exact found
  | ok channel =>
    rw [rowByKey_changed keeps looked, found, Option.map_some,
      if_neg fun own => other own.1]

end Change

section Creation

variable {lib : SecretLibrary} {faults : ChannelFaults} {store : ChannelStore} {tenantId : UUID}
  {now : Instant} {license : Except Exc LicenseStatusResponse} {request : ChannelCreateRequest}
  {actorId : Option UUID} {newId : UUID}

def CreationWritten (faults : ChannelFaults) (store : ChannelStore) (newId : UUID)
    (key : ChannelType × String) : Prop :=
  faults.commit = none ∧ faults.flush = none ∧ newId ∉ store.rows.keys ∧ rowByKey store key = none

instance creationWrittenDecidable (faults : ChannelFaults) (store : ChannelStore) (newId : UUID)
    (key : ChannelType × String) : Decidable (CreationWritten faults store newId key) :=
  inferInstanceAs (Decidable (_ ∧ _ ∧ _ ∧ _))

def CreationAllowed (faults : ChannelFaults) (store : ChannelStore)
    (license : Except Exc LicenseStatusResponse) (key : ChannelType × String) : Prop :=
  ensureChannelFeatureLicensed license key.1 = .ok () ∧
    ensureKeyIsFree faults.existence store key = .ok ()

theorem createChannelForTenant_of_allowed
    (allowed : CreationAllowed faults store license (request.channelType, request.channelKey)) :
    createChannelForTenant lib faults store tenantId now license request actorId newId =
      (.ok (createdRecord tenantId now request actorId newId),
        commitAuditBestEffort faults.commit
          (cacheChannel store (createdRecord tenantId now request actorId newId)) newId
          (stagedInsert faults store (createdRow lib tenantId now request actorId) newId)) := by
  have licensed : ensureChannelFeatureLicensed license request.channelType = .ok () := allowed.1
  have free := allowed.2
  simp only [createChannelForTenant, licensed, free]
  rfl

theorem createChannelForTenant_of_refused
    (refused : ¬ CreationAllowed faults store license (request.channelType, request.channelKey)) :
    ∃ x, createChannelForTenant lib faults store tenantId now license request actorId newId =
      (.error x, store) := by
  rw [createChannelForTenant]
  split
  · exact ⟨_, rfl⟩
  · rename_i allowed
    rw [Process.Fallible.bind_ok] at allowed
    obtain ⟨_, licensed, free⟩ := allowed
    exact absurd ⟨licensed, free⟩ refused

theorem rows_createChannelForTenant
    (allowed : CreationAllowed faults store license (request.channelType, request.channelKey)) :
    (createChannelForTenant lib faults store tenantId now license request actorId newId).2.rows =
      if CreationWritten faults store newId (request.channelType, request.channelKey) then
        store.rows.set newId (createdRow lib tenantId now request actorId)
      else store.rows := by
  rw [createChannelForTenant_of_allowed allowed, stagedInsert]
  have missing : rowsByKey store (request.channelType, request.channelKey) = [] ↔
      rowByKey store (request.channelType, request.channelKey) = none :=
    List.head?_eq_none_iff.symm
  by_cases written : CreationWritten faults store newId (request.channelType, request.channelKey)
  · obtain ⟨committed, flushed, fresh, free⟩ := id written
    rw [if_pos written, if_pos ⟨flushed, fresh, missing.mpr free⟩, committed]
    rfl
  · rw [if_neg written]
    split
    · rename_i staged
      cases committed : faults.commit with
      | some x => rfl
      | none =>
        exact absurd ⟨committed, staged.1, staged.2.1, missing.mp staged.2.2⟩ written
    · cases faults.commit <;> rfl

theorem rowByKey_insert {row : ChannelConfig} {other : ChannelStore}
    (inserted : other.rows = store.rows.set newId row) (fresh : newId ∉ store.rows.keys)
    (key : ChannelType × String) :
    rowByKey other key =
      (rowByKey store key).or
        (if row.channelType = key.1 ∧ row.channelKey = key.2 then some (newId, row) else none) := by
  rw [rowByKey, rowsByKey, inserted, OrderedDict.entries_set, if_neg fresh, List.filter_append,
    List.head?_append, rowByKey, rowsByKey]
  congr 1
  by_cases same : row.channelType = key.1 ∧ row.channelKey = key.2
  · rw [if_pos same, List.filter_cons_of_pos (by simp [same])]
    rfl
  · rw [if_neg same, List.filter_cons_of_neg (by simpa using same)]
    rfl

theorem rowByKey_kept_by_creation {key : ChannelType × String} {e : UUID × ChannelConfig}
    (found : rowByKey store key = some e) :
    rowByKey (createChannelForTenant lib faults store tenantId now license request actorId newId).2
      key = some e := by
  by_cases allowed :
      CreationAllowed faults store license (request.channelType, request.channelKey)
  · have rows := @rows_createChannelForTenant lib faults store tenantId now license request actorId
      newId allowed
    split at rows
    · rename_i written
      rw [rowByKey_insert rows written.2.2.1, found]
      rfl
    · exact (rowByKey_congr rows key).trans found
  · obtain ⟨x, refused⟩ := @createChannelForTenant_of_refused lib faults store tenantId now license
      request actorId newId allowed
    rw [refused]
    exact found

theorem rowByKey_created
    (allowed : CreationAllowed faults store license (request.channelType, request.channelKey))
    (missing : rowByKey store (request.channelType, request.channelKey) = none) :
    rowByKey (createChannelForTenant lib faults store tenantId now license request actorId newId).2
        (request.channelType, request.channelKey) =
      if CreationWritten faults store newId (request.channelType, request.channelKey) then
        some (newId, createdRow lib tenantId now request actorId)
      else none := by
  have rows := @rows_createChannelForTenant lib faults store tenantId now license request actorId
    newId allowed
  split
  · rename_i written
    rw [if_pos written] at rows
    rw [rowByKey_insert rows written.2.2.1, missing, if_pos ⟨rfl, rfl⟩]
    rfl
  · rename_i unwritten
    rw [if_neg unwritten] at rows
    exact (rowByKey_congr rows _).trans missing

end Creation

end ChannelService

inductive ChannelOperation
  | create (license : Except Exc LicenseStatusResponse) (request : ChannelCreateRequest)
      (newId : UUID)
  | updateStatus (channelId : UUID) (status : ChannelStatus)
  | rotateSecret (channelId : UUID) (newSecret : String) (given : newSecret ≠ "")
  | promoteSecret (channelId : UUID)

structure ChannelRequest where
  tenantId : UUID
  actorId : Option UUID := none
  now : Instant := 0
  faults : ChannelFaults := {}

namespace ChannelOperation

open ChannelService

variable (lib : SecretLibrary) (by_ : ChannelRequest) (store : ChannelStore)

def run : ChannelOperation → Except Exc ChannelRecord × ChannelStore
  | .create license request newId =>
    createChannelForTenant lib by_.faults store by_.tenantId by_.now license request by_.actorId
      newId
  | .updateStatus channelId status =>
    updateChannelStatusForTenant lib by_.faults store by_.tenantId by_.now channelId status
  | .rotateSecret channelId newSecret _ =>
    rotateChannelSecretForTenant lib by_.faults store by_.tenantId by_.now channelId newSecret
  | .promoteSecret channelId =>
    promoteChannelSecretForTenant lib by_.faults store by_.tenantId by_.now channelId

def subject : ChannelOperation → Except Exc ChannelRecord
  | .create license request newId => do
    ensureChannelFeatureLicensed license request.channelType
    ensureKeyIsFree by_.faults.existence store (request.channelType, request.channelKey)
    .ok (createdRecord by_.tenantId by_.now request by_.actorId newId)
  | .updateStatus channelId _ | .rotateSecret channelId _ _ | .promoteSecret channelId =>
    (getTenantChannel lib by_.faults.load store by_.tenantId channelId).1

def Shows : ChannelOperation → ChannelRecord → Prop
  | .create _ request _, channel =>
    channel.status = request.status ∧ channel.secret = request.secret
  | .updateStatus _ status, channel => channel.secretError ≠ none ∨ channel.status = status
  | .rotateSecret _ newSecret _, channel => channel.secret = some newSecret
  | .promoteSecret _, channel => channel.previousSecret = none

def Inserts : ChannelOperation → Prop
  | .create _ request newId =>
    CreationWritten by_.faults store newId (request.channelType, request.channelKey)
  | _ => False

def Changes (e : UUID × ChannelConfig) : ChannelOperation → Prop
  | .create .. => False
  | .updateStatus channelId _ | .rotateSecret channelId _ _ | .promoteSecret channelId =>
    e.1 = channelId ∧ e.2.tenantId = by_.tenantId ∧ ChangeWritten by_.faults

def Spares (id : UUID) : ChannelOperation → Prop
  | .create .. => True
  | .updateStatus channelId _ | .rotateSecret channelId _ _ | .promoteSecret channelId =>
    channelId ≠ id

def Reaches (op : ChannelOperation) : Prop :=
  ∀ channel, op.subject lib by_ store = .ok channel →
    op.Inserts by_ store ∨
      ∃ e, rowByKey store (channel.channelType, channel.channelKey) = some e ∧
        e.1 = channel.id ∧ e.2.tenantId = channel.tenantId ∧
        (op.Changes by_ e ∨ op.Shows (recordFromRow lib e.1 e.2))

end ChannelOperation

inductive ChannelEvent
  | webhook (fault : Option StorageFault) (key : ChannelType × String)
  | lookup (fault : Option StorageFault) (tenantId channelId : UUID)
  | operation (by_ : ChannelRequest) (op : ChannelOperation)
  | restart

namespace ChannelEvent

open ChannelService

variable (lib : SecretLibrary)

def step (store : ChannelStore) : ChannelEvent → ChannelStore
  | .webhook fault key => (receiveChannelWebhook lib fault store key).2
  | .lookup fault tenantId channelId => (getTenantChannel lib fault store tenantId channelId).2
  | .operation by_ op => (op.run lib by_ store).2
  | .restart => { store with channelsByTenant := .empty, channelIndex := .empty }

def Spares (id : UUID) : ChannelEvent → Prop
  | .operation _ op => op.Spares id
  | _ => True

def after (store : ChannelStore) (events : List ChannelEvent) : ChannelStore :=
  events.foldl (step lib) store

variable {lib} {key : ChannelType × String}

theorem rowByKey_step {store : ChannelStore} {e : UUID × ChannelConfig} {event : ChannelEvent}
    (found : rowByKey store key = some e) (spares : event.Spares e.1) :
    rowByKey (event.step lib store) key = some e := by
  cases event with
  | webhook fault other =>
    exact (rowByKey_congr (rows_receiveChannelWebhook lib fault store other) key).trans found
  | lookup fault tenantId channelId =>
    exact (rowByKey_congr (rows_getTenantChannel fault) key).trans found
  | restart => exact found
  | operation by_ op =>
    cases op with
    | create license request newId => exact rowByKey_kept_by_creation found
    | updateStatus channelId status =>
      exact rowByKey_kept_by_change found (Ne.symm spares) fun _ => ⟨rfl, rfl⟩
    | rotateSecret channelId newSecret given =>
      exact rowByKey_kept_by_change found (Ne.symm spares) fun _ => ⟨rfl, rfl⟩
    | promoteSecret channelId =>
      exact rowByKey_kept_by_change found (Ne.symm spares) fun _ => ⟨rfl, rfl⟩

theorem rowByKey_after {store : ChannelStore} {e : UUID × ChannelConfig}
    {events : List ChannelEvent} (found : rowByKey store key = some e)
    (spares : ∀ event ∈ events, event.Spares e.1) :
    rowByKey (after lib store events) key = some e := by
  induction events generalizing store with
  | nil => exact found
  | cons event events ih =>
    exact ih (rowByKey_step found (spares event (List.mem_cons_self ..))) fun other mem =>
      spares other (List.mem_cons_of_mem event mem)

end ChannelEvent

namespace ChannelOperation

open ChannelService

variable {lib : SecretLibrary} {by_ : ChannelRequest} {store : ChannelStore}
  {op : ChannelOperation} {channel : ChannelRecord}

def changed (by_ : ChannelRequest) : ChannelOperation → ChannelRecord → ChannelRecord
  | .create .., channel => channel
  | .updateStatus _ status, channel => { channel with status := status, updatedAt := by_.now }
  | .rotateSecret _ newSecret _, channel =>
    { channel with
      secret := some newSecret
      previousSecret := channel.secret
      secretConfigured := some (newSecret != "")
      updatedAt := by_.now }
  | .promoteSecret _, channel => { channel with previousSecret := none, updatedAt := by_.now }

theorem run_fst (op : ChannelOperation) :
    (op.run lib by_ store).1 = (op.subject lib by_ store).map (op.changed by_) := by
  cases op with
  | updateStatus channelId status => exact changeChannel_fst
  | rotateSecret channelId newSecret given => exact changeChannel_fst
  | promoteSecret channelId => exact changeChannel_fst
  | create license request newId =>
    simp only [run, subject, createChannelForTenant]
    cases ensureChannelFeatureLicensed license request.channelType with
    | error x => rfl
    | ok _ =>
      cases ensureKeyIsFree by_.faults.existence store
        (request.channelType, request.channelKey) with
      | error x => rfl
      | ok _ => rfl

theorem run_error {x : Exc} (failed : (op.run lib by_ store).1 = .error x) :
    (op.run lib by_ store).2 = store := by
  cases op with
  | updateStatus channelId status => exact changeChannel_error failed
  | rotateSecret channelId newSecret given => exact changeChannel_error failed
  | promoteSecret channelId => exact changeChannel_error failed
  | create license request newId =>
    simp only [run, createChannelForTenant] at failed ⊢
    split
    · rfl
    · rename_i allowed
      rw [allowed] at failed
      cases failed

theorem creationAllowed_of_subject {license : Except Exc LicenseStatusResponse}
    {request : ChannelCreateRequest} {newId : UUID}
    (found : (create license request newId).subject lib by_ store = .ok channel) :
    CreationAllowed by_.faults store license (request.channelType, request.channelKey) ∧
      channel = createdRecord by_.tenantId by_.now request by_.actorId newId := by
  simp only [subject, Process.Fallible.bind_ok] at found
  obtain ⟨_, licensed, _, free, made⟩ := found
  cases made
  exact ⟨⟨licensed, free⟩, rfl⟩

theorem decryptChannelSecret_encrypted {row : ChannelConfig} {secret : String}
    (encrypted : row.secretRef = some (lib.encryptSecret secret)) :
    decryptChannelSecret lib row = (some secret, none) := by
  have token : (some (lib.encryptSecret secret)).filter (· ≠ "") =
      some (lib.encryptSecret secret) := by
    rw [Option.filter_some, if_pos (by simpa using lib.encrypt_ne secret)]
  simp only [decryptChannelSecret, encrypted, token, lib.decrypt_encrypt]

theorem decryptChannelSecret_created (lib : SecretLibrary) (tenantId : UUID) (now : Instant)
    (request : ChannelCreateRequest) (actorId : Option UUID) :
    decryptChannelSecret lib (createdRow lib tenantId now request actorId) =
      (request.secret, none) := by
  cases given : request.secret with
  | none => simp [decryptChannelSecret, createdRow, given]
  | some secret =>
    have filled : secret ≠ "" := fun empty => request.secret_ne (given.trans (congrArg some empty))
    refine decryptChannelSecret_encrypted ?_
    simp [createdRow, given, filled]

variable {changeRow : ChannelConfig → ChannelConfig} {changeRecord : ChannelRecord → ChannelRecord}
    {key : ChannelType × String}

theorem row_of_change {faults : ChannelFaults} {tenantId channelId : UUID}
    {e : UUID × ChannelConfig} {shows : ChannelRecord → Prop}
    (found : (getTenantChannel lib faults.load store tenantId channelId).1 = .ok channel)
    (row : rowByKey store key = some e) (keeps : KeepsKey changeRow)
    (keepsTenant : (changeRow e.2).tenantId = e.2.tenantId)
    (shown : shows (recordFromRow lib e.1 (changeRow e.2))) :
    ∃ e', rowByKey (changeChannel lib faults store tenantId channelId changeRow changeRecord).2
        key = some e' ∧ e'.1 = e.1 ∧ e'.2.tenantId = e.2.tenantId ∧
      ((e.1 = channelId ∧ e.2.tenantId = tenantId ∧ ChangeWritten faults) →
        shows (recordFromRow lib e'.1 e'.2)) ∧
      (¬ (e.1 = channelId ∧ e.2.tenantId = tenantId ∧ ChangeWritten faults) → e' = e) := by
  have changed := @rowByKey_changed lib faults store tenantId channelId changeRow changeRecord
    channel keeps found key
  rw [row, Option.map_some] at changed
  refine ⟨_, changed, rfl, ?_, ?_, ?_⟩
  · split
    · exact keepsTenant
    · rfl
  · intro changes
    rw [if_pos changes]
    exact shown
  · intro spared
    rw [if_neg spared]

theorem no_row_of_change {faults : ChannelFaults} {tenantId channelId : UUID}
    (found : (getTenantChannel lib faults.load store tenantId channelId).1 = .ok channel)
    (missing : rowByKey store key = none) (keeps : KeepsKey changeRow) :
    rowByKey (changeChannel lib faults store tenantId channelId changeRow changeRecord).2 key =
      none := by
  rw [rowByKey_changed keeps found, missing, Option.map_none]

theorem row_of_run {e : UUID × ChannelConfig} (found : op.subject lib by_ store = .ok channel)
    (row : rowByKey store (channel.channelType, channel.channelKey) = some e) :
    ∃ e', rowByKey (op.run lib by_ store).2 (channel.channelType, channel.channelKey) = some e' ∧
      e'.1 = e.1 ∧ e'.2.tenantId = e.2.tenantId ∧
      (op.Changes by_ e → op.Shows (recordFromRow lib e'.1 e'.2)) ∧
      (¬ op.Changes by_ e → e' = e) := by
  cases op with
  | create license request newId =>
    exact ⟨e, rowByKey_kept_by_creation row, rfl, rfl, False.elim, fun _ => rfl⟩
  | updateStatus channelId status =>
    refine row_of_change found row (fun _ => ⟨rfl, rfl⟩) rfl ?_
    by_cases broken : (decryptChannelSecret lib e.2).2 = none
    · have readable : ¬ (decryptChannelSecret lib e.2).2.isSome := by
        rw [broken]
        exact Bool.false_ne_true
      exact .inr (if_neg readable)
    · exact .inl broken
  | rotateSecret channelId newSecret given =>
    refine row_of_change found row (fun _ => ⟨rfl, rfl⟩) rfl ?_
    rw [Shows, recordFromRow, @decryptChannelSecret_encrypted lib _ newSecret (if_neg given)]
  | promoteSecret channelId =>
    exact row_of_change found row (fun _ => ⟨rfl, rfl⟩) rfl rfl

theorem no_row_of_run (found : op.subject lib by_ store = .ok channel)
    (missing : rowByKey store (channel.channelType, channel.channelKey) = none)
    (kept : ¬ op.Inserts by_ store) :
    rowByKey (op.run lib by_ store).2 (channel.channelType, channel.channelKey) = none := by
  cases op with
  | create license request newId =>
    obtain ⟨allowed, made⟩ := creationAllowed_of_subject found
    subst made
    exact (rowByKey_created allowed missing).trans (if_neg kept)
  | updateStatus channelId status =>
    exact no_row_of_change found missing fun _ => ⟨rfl, rfl⟩
  | rotateSecret channelId newSecret given =>
    exact no_row_of_change found missing fun _ => ⟨rfl, rfl⟩
  | promoteSecret channelId =>
    exact no_row_of_change found missing fun _ => ⟨rfl, rfl⟩

theorem row_inserted (found : op.subject lib by_ store = .ok channel)
    (inserts : op.Inserts by_ store) :
    ∃ e, rowByKey (op.run lib by_ store).2 (channel.channelType, channel.channelKey) = some e ∧
      e.1 = channel.id ∧ e.2.tenantId = channel.tenantId ∧
      op.Shows (recordFromRow lib e.1 e.2) := by
  cases op with
  | create license request newId =>
    obtain ⟨allowed, made⟩ := creationAllowed_of_subject found
    subst made
    have written : CreationWritten by_.faults store newId
      (request.channelType, request.channelKey) := inserts
    refine ⟨_, (rowByKey_created allowed written.2.2.2).trans (if_pos written), rfl, rfl, ?_⟩
    have read := decryptChannelSecret_created lib by_.tenantId by_.now request by_.actorId
    rw [Shows, recordFromRow, read]
    exact ⟨rfl, rfl⟩
  | updateStatus channelId status => exact inserts.elim
  | rotateSecret channelId newSecret given => exact inserts.elim
  | promoteSecret channelId => exact inserts.elim

theorem ok_of_subject (found : op.subject lib by_ store = .ok channel) :
    (op.run lib by_ store).1 = .ok (op.changed by_ channel) := by
  rw [run_fst, found]
  rfl

theorem subject_of_ok (done : (op.run lib by_ store).1 = .ok channel) :
    ∃ found, op.subject lib by_ store = .ok found ∧ channel = op.changed by_ found := by
  rw [run_fst] at done
  cases looked : op.subject lib by_ store with
  | error x =>
    rw [looked] at done
    cases done
  | ok found =>
    rw [looked] at done
    cases done
    exact ⟨found, rfl, rfl⟩

def place (channel : ChannelRecord) : UUID × UUID × ChannelType × String :=
  (channel.id, channel.tenantId, channel.channelType, channel.channelKey)

theorem place_changed (op : ChannelOperation) (channel : ChannelRecord) :
    place (op.changed by_ channel) = place channel := by
  cases op <;> rfl

/-- Once the operation is done, whatever comes after it but other changes of the channel,
a webhook is handled by the channel, and the channel shows the change. -/
def InForce (lib : SecretLibrary) (by_ : ChannelRequest) (store : ChannelStore)
    (op : ChannelOperation) : Prop :=
  ∀ channel, (op.run lib by_ store).1 = .ok channel →
    ∀ events : List ChannelEvent, (∀ event ∈ events, event.Spares channel.id) →
      ∃ handler, (receiveChannelWebhook lib none
          (ChannelEvent.after lib (op.run lib by_ store).2 events)
          (channel.channelType, channel.channelKey)).1 = some handler ∧
        handler.id = channel.id ∧ handler.tenantId = channel.tenantId ∧ op.Shows handler

theorem row_of_reaches (reaches : op.Reaches lib by_ store)
    (found : op.subject lib by_ store = .ok channel) :
    ∃ e, rowByKey (op.run lib by_ store).2 (channel.channelType, channel.channelKey) = some e ∧
      e.1 = channel.id ∧ e.2.tenantId = channel.tenantId ∧
      op.Shows (recordFromRow lib e.1 e.2) := by
  rcases reaches channel found with inserts | ⟨e, row, id, tenant, shown⟩
  · exact row_inserted found inserts
  · obtain ⟨e', row', id', tenant', changed, kept⟩ := row_of_run found row
    refine ⟨e', row', id'.trans id, tenant'.trans tenant, ?_⟩
    by_cases changes : op.Changes by_ e
    · exact changed changes
    · rw [kept changes]
      exact shown.resolve_left changes

theorem reaches_of_row (found : op.subject lib by_ store = .ok channel) {handler : ChannelRecord}
    (handled : (receiveChannelWebhook lib none
      (ChannelEvent.after lib (op.run lib by_ store).2 [.restart])
      (channel.channelType, channel.channelKey)).1 = some handler)
    (id : handler.id = channel.id) (tenant : handler.tenantId = channel.tenantId)
    (shown : op.Shows handler) :
    op.Inserts by_ store ∨
      ∃ e, rowByKey store (channel.channelType, channel.channelKey) = some e ∧
        e.1 = channel.id ∧ e.2.tenantId = channel.tenantId ∧
        (op.Changes by_ e ∨ op.Shows (recordFromRow lib e.1 e.2)) := by
  by_cases inserts : op.Inserts by_ store
  · exact .inl inserts
  refine .inr ?_
  cases row : rowByKey store (channel.channelType, channel.channelKey) with
  | none =>
    have missing : rowByKey (ChannelEvent.after lib (op.run lib by_ store).2 [.restart])
        (channel.channelType, channel.channelKey) = none := no_row_of_run found row inserts
    rw [receiveChannelWebhook_of_no_row lib missing] at handled
    cases handled
  | some e =>
    obtain ⟨e', row', id', tenant', _, kept⟩ := row_of_run found row
    have restarted : rowByKey (ChannelEvent.after lib (op.run lib by_ store).2 [.restart])
        (channel.channelType, channel.channelKey) = some e' := row'
    rw [receiveChannelWebhook_of_row lib restarted] at handled
    cases handled
    refine ⟨e, rfl, id'.symm.trans id, tenant'.symm.trans tenant, ?_⟩
    by_cases changes : op.Changes by_ e
    · exact .inl changes
    · rw [← kept changes]
      exact .inr shown

/-- A change that is reported as done is in force, and one that fails changes nothing, just
where the change is written or the row shows it already. -/
theorem done_in_force_iff (lib : SecretLibrary) (by_ : ChannelRequest) (store : ChannelStore)
    (op : ChannelOperation) :
    (op.InForce lib by_ store ∧
      ∀ x, (op.run lib by_ store).1 = .error x → (op.run lib by_ store).2 = store) ↔
      op.Reaches lib by_ store := by
  constructor
  · intro ⟨inForce, _⟩ channel found
    obtain ⟨handler, handled, id, tenant, shown⟩ := inForce _ (ok_of_subject found) [.restart]
      (by simp [ChannelEvent.Spares])
    have same := @place_changed by_ op channel
    simp only [place, Prod.mk.injEq] at same
    obtain ⟨sameId, sameTenant, sameType, sameKey⟩ := same
    rw [sameType, sameKey] at handled
    exact reaches_of_row found handled (id.trans sameId) (tenant.trans sameTenant) shown
  · intro reaches
    refine ⟨?_, fun x failed => run_error failed⟩
    intro channel done events spares
    obtain ⟨found, subject, changed⟩ := subject_of_ok done
    have same := @place_changed by_ op found
    rw [← changed] at same
    simp only [place, Prod.mk.injEq] at same
    obtain ⟨sameId, sameTenant, sameType, sameKey⟩ := same
    obtain ⟨e, row, id, tenant, shown⟩ := row_of_reaches reaches subject
    rw [sameType, sameKey, sameId, sameTenant]
    refine ⟨_, receiveChannelWebhook_of_row lib (ChannelEvent.rowByKey_after row ?_), id, tenant,
      shown⟩
    intro event mem
    rw [id, ← sameId]
    exact spares event mem

def shopRow : ChannelConfig where
  tenantId := 1
  name := "Shop"
  channelType := .webWidget
  channelKey := "shop"

def shopStore : ChannelStore := ⟨OrderedDict.empty.set 5 shopRow, .empty, .empty⟩

def failedCommit : ChannelRequest where
  tenantId := 1
  faults := { commit := some (.sqlAlchemy "OperationalError" "") }

theorem disabled_channel_still_routed :
    ¬ ∀ (lib : SecretLibrary) (by_ : ChannelRequest) (store : ChannelStore)
      (op : ChannelOperation),
      op.InForce lib by_ store ∧
        ∀ x, (op.run lib by_ store).1 = .error x → (op.run lib by_ store).2 = store := by
  intro claimed
  have disabled := (claimed plainSecrets failedCommit shopStore (.updateStatus 5 .disabled)).1
  obtain ⟨handler, handled, _, _, shown⟩ := disabled _ rfl [] (fun event mem => nomatch mem)
  have routed : handler = recordFromRow plainSecrets 5 shopRow := (Option.some.inj handled).symm
  subst routed
  rcases shown with broken | status
  · exact broken rfl
  · cases status

end ChannelOperation
end AgentHive
