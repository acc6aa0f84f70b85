import AgentHive.Services.ProviderCredentials
import AgentHive.Process.Fallible
import AgentHive.Store.StableSort

/-!
Which credential a provider is offered with.

Of the credentials that a request may use, the closest one whose secret can be read is chosen, the
first of those that are as close. A provider none of whose secrets can be read is left out.
-/

namespace AgentHive.ProviderCredentials

open Process.Fallible

variable {settings : CredentialSettings} {tables : ProviderTables} {tenantId : UUID}
variable {departmentId userId : Option UUID} {rows : List Candidate} {x : Candidate}

def Owns (c : LLMCredential) (departmentId userId : Option UUID) : Prop :=
  match c.ownerType with
  | .user => c.ownerId.isSome = true ∧ c.ownerId = userId
  | .department => c.ownerId.isSome = true ∧ c.ownerId = departmentId
  | .tenant => c.ownerId = none
  | .other _ => False

def scopeOf : CredentialOwner → Nat
  | .user => 30
  | .department => 20
  | .tenant => 10
  | .other _ => 0

theorem scopeRank_eq_some {c : LLMCredential} {rank : Nat} :
    credentialScopeRank c departmentId userId = some rank ↔
      Owns c departmentId userId ∧ scopeOf c.ownerType = rank := by
  unfold credentialScopeRank Owns
  cases c.ownerType with
  | user | department | tenant => simp [scopeOf]
  | other name => simp

variable {credentials : List LLMCredential} {p : LLMProvider}

theorem mem_candidatesOf :
    x ∈ candidatesOf credentials departmentId userId p ↔
      x.provider = p ∧ x.credential ∈ credentials ∧ x.credential.providerId = p.id ∧
        x.credential.isActive = true ∧
        credentialScopeRank x.credential departmentId userId = some x.rank := by
  unfold candidatesOf
  rw [List.mem_filterMap]
  constructor
  · intro h
    obtain ⟨c, mem, made⟩ := h
    obtain ⟨rank, ranked, rfl⟩ := Option.map_eq_some_iff.mp made
    obtain ⟨listed, joined⟩ := List.mem_filter.mp mem
    rw [Bool.and_eq_true, beq_iff_eq] at joined
    exact ⟨rfl, listed, joined.1, joined.2, ranked⟩
  · intro h
    obtain ⟨rfl, listed, joined, active, ranked⟩ := h
    refine ⟨x.credential, List.mem_filter.mpr ⟨listed, ?_⟩, by rw [ranked]; rfl⟩
    rw [Bool.and_eq_true, beq_iff_eq]
    exact ⟨joined, active⟩

theorem candidates_of_key (listed : p ∈ tables.providers) (own : p.tenantId = tenantId)
    (active : p.isActive = true) :
    (candidates tables tenantId departmentId userId).filter
        (fun x => x.provider.providerKey == p.providerKey) =
      candidatesOf tables.credentials departmentId userId p := by
  have row : p ∈ tables.providers.filter fun p => p.tenantId == tenantId && p.isActive := by
    rw [List.mem_filter, Bool.and_eq_true, beq_iff_eq]
    exact ⟨listed, own, active⟩
  have one : ∀ q ∈ tables.providers, q.tenantId = p.tenantId → q.providerKey = p.providerKey →
      q = p := by
    intro q mem tenants keys
    exact List.inj_on_of_nodup_map tables.uniqueKeys mem listed (Prod.ext tenants keys)
  have distinct : (tables.providers.filter fun p => p.tenantId == tenantId && p.isActive).Nodup :=
    tables.uniqueKeys.of_map.filter _
  have kept : ∀ q, (candidatesOf tables.credentials departmentId userId q).filter
      (fun x => x.provider.providerKey == p.providerKey) =
        if q.providerKey = p.providerKey then candidatesOf tables.credentials departmentId userId q
        else [] := by
    intro q
    split
    next same =>
      refine List.filter_eq_self.mpr fun x mem => ?_
      rw [(mem_candidatesOf.mp mem).1]
      exact beq_iff_eq.mpr same
    next other =>
      refine List.filter_eq_nil_iff.mpr fun x mem => ?_
      rw [(mem_candidatesOf.mp mem).1, beq_iff_eq]
      exact other
  have others : ∀ q ∈ tables.providers.filter (fun p => p.tenantId == tenantId && p.isActive),
      q ≠ p → (candidatesOf tables.credentials departmentId userId q).filter
        (fun x => x.provider.providerKey == p.providerKey) = [] := by
    intro q mem other
    rw [kept, if_neg]
    intro keys
    rw [List.mem_filter, Bool.and_eq_true, beq_iff_eq] at mem
    exact other (one q mem.1 (mem.2.1.trans own.symm) keys)
  obtain ⟨front, back, parts⟩ := List.append_of_mem row
  rw [candidates, List.filter_flatMap]
  rw [parts] at distinct others ⊢
  rw [List.nodup_append] at distinct
  have before : front.flatMap (fun q =>
      (candidatesOf tables.credentials departmentId userId q).filter
        (fun x => x.provider.providerKey == p.providerKey)) = [] := by
    rw [List.flatMap_eq_nil_iff]
    intro q mem
    exact others q (List.mem_append_left _ mem) (distinct.2.2 q mem p (.head _))
  have after : back.flatMap (fun q =>
      (candidatesOf tables.credentials departmentId userId q).filter
        (fun x => x.provider.providerKey == p.providerKey)) = [] := by
    rw [List.flatMap_eq_nil_iff]
    intro q mem
    refine others q (List.mem_append_right _ (.tail _ mem)) fun same => ?_
    exact (List.nodup_cons.mp distinct.2.1).1 (same ▸ mem)
  rw [List.flatMap_append, List.flatMap_cons, before, after, kept, if_pos rfl, List.nil_append,
    List.append_nil]

theorem get_groupByKey (rows : List Candidate) (selected : OrderedDict String (List Candidate))
    (key : String) :
    ((groupByKey rows selected).get key).getD [] =
      (selected.get key).getD [] ++ rows.filter fun x => x.provider.providerKey == key := by
  induction rows generalizing selected with
  | nil => rw [List.filter_nil, List.append_nil]; rfl
  | cons row rest ih =>
    have step := ih (selected.set row.provider.providerKey
      ((selected.get row.provider.providerKey).getD [] ++ [row]))
    refine step.trans ?_
    rw [OrderedDict.get_set, List.filter_cons]
    by_cases same : key = row.provider.providerKey
    · simp [same]
    · simp [same, Ne.symm same]

theorem groups_nonempty (rows : List Candidate) (selected : OrderedDict String (List Candidate))
    (start : ∀ key group, selected.get key = some group → group ≠ []) :
    ∀ key group, (groupByKey rows selected).get key = some group → group ≠ [] := by
  induction rows generalizing selected with
  | nil => exact start
  | cons row rest ih =>
    refine ih _ fun key group found => ?_
    rw [OrderedDict.get_set] at found
    split at found
    · rw [← Option.some.inj found]
      simp
    · exact start key group found

theorem mem_groups {key : String} {group : List Candidate} :
    (key, group) ∈ (groupByKey rows OrderedDict.empty).entries ↔
      group = rows.filter (fun x => x.provider.providerKey == key) ∧ group ≠ [] := by
  have all := get_groupByKey rows OrderedDict.empty key
  rw [OrderedDict.get_empty, Option.getD_none, List.nil_append] at all
  have nonempty := groups_nonempty rows OrderedDict.empty
    (fun key group found => by rw [OrderedDict.get_empty] at found; cases found) key
  constructor
  · intro mem
    have found := OrderedDict.get_of_mem_entries mem
    rw [found, Option.getD_some] at all
    exact ⟨all, nonempty group found⟩
  · intro h
    obtain ⟨rfl, some'⟩ := h
    cases found : (groupByKey rows OrderedDict.empty).get key with
    | none =>
      rw [found, Option.getD_none] at all
      exact absurd all.symm some'
    | some group =>
      rw [found, Option.getD_some] at all
      rw [← all]
      exact OrderedDict.mem_entries_of_get found

def Readable (settings : CredentialSettings) (x : Candidate) : Bool :=
  (settings.decrypt x.credential.secretRef).isSome

variable (live : ∀ x ∈ rows, developmentMockAllowed settings x.provider = false)

include live in
theorem decrypted_live :
    decrypted settings rows = (rows.find? (Readable settings)).bind fun x =>
      (settings.decrypt x.credential.secretRef).map fun apiKey => (x, apiKey, false) := by
  induction rows with
  | nil => rfl
  | cons row rest ih =>
    obtain ⟨first, later⟩ := List.forall_mem_cons.mp live
    rw [decrypted, List.find?_cons]
    cases read : settings.decrypt row.credential.secretRef with
    | some apiKey => simp [Readable, read]
    | none => simp [Readable, read, first, ih later]

def closer (a b : Candidate) : Prop := b.rank ≤ a.rank

instance : DecidableRel closer := fun a b => inferInstanceAs (Decidable (b.rank ≤ a.rank))

instance : Std.Total closer := ⟨fun a b => Nat.le_total b.rank a.rank⟩

instance : IsTrans Candidate closer := ⟨fun _ _ _ first second => Nat.le_trans second first⟩

def Precedes (settings : CredentialSettings) (rows : List Candidate) (x : Candidate) : Prop :=
  ∃ front back, rows = front ++ x :: back ∧
    (∀ y ∈ front, x.rank ≤ y.rank → settings.decrypt y.credential.secretRef = none) ∧
    ∀ y ∈ back, x.rank < y.rank → settings.decrypt y.credential.secretRef = none

theorem unreadable_iff {y : Candidate} : settings.decrypt y.credential.secretRef = none ↔
    ¬ Readable settings y = true := by
  rw [Readable, Bool.not_eq_true, Option.isSome_eq_false_iff, Option.isNone_iff_eq_none]

theorem precedes_of_find (found : (rows.insertionSort closer).find? (Readable settings) = some x) :
    Precedes settings rows x := by
  have head : ((rows.filter (Readable settings)).insertionSort closer).head? = some x := by
    rw [← filter_insertionSort, List.head?_filter, found]
  cases sorted : (rows.filter (Readable settings)).insertionSort closer with
  | nil =>
    rw [sorted] at head
    cases head
  | cons y rest =>
    rw [sorted] at head
    cases head
    obtain ⟨front, back, parts, before, after⟩ := head_insertionSort sorted
    obtain ⟨left, right, split, kept, kept'⟩ := List.filter_eq_append_iff.mp parts
    obtain ⟨skipped, later, split', unread, _, kept''⟩ := List.filter_eq_cons_iff.mp kept'
    refine ⟨left ++ skipped, later, by rw [split, split', List.append_assoc], ?_, ?_⟩
    · intro y mem close
      rw [unreadable_iff]
      intro readable
      cases List.mem_append.mp mem with
      | inl inLeft =>
        exact before y (kept ▸ List.mem_filter.mpr ⟨inLeft, readable⟩) close
      | inr inSkipped => exact unread y inSkipped readable
    · intro y mem close
      rw [unreadable_iff]
      intro readable
      have far : y.rank ≤ x.rank := after y (kept'' ▸ List.mem_filter.mpr ⟨mem, readable⟩)
      exact absurd close (Nat.not_lt.mpr far)

include live in
theorem sorted_live :
    decrypted settings (rows.insertionSort closer) =
      ((rows.insertionSort closer).find? (Readable settings)).bind fun x =>
        (settings.decrypt x.credential.secretRef).map fun apiKey => (x, apiKey, false) :=
  decrypted_live fun x mem => live x ((List.mem_insertionSort closer).mp mem)

include live in
theorem decrypted_some
    {apiKey : String} {demo : Bool}
    (chosen : decrypted settings (rows.insertionSort closer) = some (x, apiKey, demo)) :
    Precedes settings rows x ∧ settings.decrypt x.credential.secretRef = some apiKey ∧
      demo = false := by
  rw [sorted_live live] at chosen
  obtain ⟨y, found, read⟩ := Option.bind_eq_some_iff.mp chosen
  obtain ⟨apiKey', decrypts, same⟩ := Option.map_eq_some_iff.mp read
  cases same
  exact ⟨precedes_of_find found, decrypts, rfl⟩

include live in
theorem decrypted_none :
    decrypted settings (rows.insertionSort closer) = none ↔
      ∀ x ∈ rows, settings.decrypt x.credential.secretRef = none := by
  rw [sorted_live live]
  cases found : (rows.insertionSort closer).find? (Readable settings) with
  | none =>
    refine ⟨fun _ x mem => unreadable_iff.mpr ?_, fun _ => rfl⟩
    exact List.find?_eq_none.mp found x ((List.mem_insertionSort closer).mpr mem)
  | some y =>
    have readable := List.find?_some found
    have mem := (List.mem_insertionSort closer).mp (List.mem_of_find?_eq_some found)
    obtain ⟨apiKey, read⟩ := Option.isSome_iff_exists.mp readable
    constructor
    · intro none
      rw [Option.bind_some, read] at none
      cases none
    · intro all
      rw [all y mem] at read
      cases read

structure Usable (departmentId userId : Option UUID) (p : LLMProvider) (c : LLMCredential) :
    Prop where
  joined : c.providerId = p.id
  active : c.isActive = true
  owned : Owns c departmentId userId

/-- No usable credential of a closer scope can be read, and none of the same scope before it. -/
def IsFirst (settings : CredentialSettings) (credentials : List LLMCredential)
    (departmentId userId : Option UUID) (p : LLMProvider) (c : LLMCredential) : Prop :=
  ∃ front back, credentials = front ++ c :: back ∧
    (∀ c' ∈ front, Usable departmentId userId p c' → scopeOf c.ownerType ≤ scopeOf c'.ownerType →
      settings.decrypt c'.secretRef = none) ∧
    ∀ c' ∈ back, Usable departmentId userId p c' → scopeOf c.ownerType < scopeOf c'.ownerType →
      settings.decrypt c'.secretRef = none

theorem candidatesOf_eq (credentials : List LLMCredential) (p : LLMProvider) :
    candidatesOf credentials departmentId userId p = credentials.filterMap fun c =>
      if (c.providerId == p.id && c.isActive) = true then
        (credentialScopeRank c departmentId userId).map fun rank => ⟨rank, p, c⟩
      else none := by
  rw [candidatesOf, List.filterMap_filter]

theorem candidate_of_usable {c : LLMCredential} (usable : Usable departmentId userId p c) :
    (if (c.providerId == p.id && c.isActive) = true then
        (credentialScopeRank c departmentId userId).map fun rank => (⟨rank, p, c⟩ : Candidate)
      else none) = some ⟨scopeOf c.ownerType, p, c⟩ := by
  have ranked := scopeRank_eq_some.mpr ⟨usable.owned, rfl⟩
  rw [if_pos (by rw [usable.joined, usable.active, beq_self_eq_true]; rfl), ranked]
  rfl

theorem usable_of_candidate (mem : x ∈ candidatesOf credentials departmentId userId p) :
    Usable departmentId userId p x.credential ∧ scopeOf x.credential.ownerType = x.rank := by
  obtain ⟨_, _, joined, active, ranked⟩ := mem_candidatesOf.mp mem
  obtain ⟨owned, scope⟩ := scopeRank_eq_some.mp ranked
  exact ⟨⟨joined, active, owned⟩, scope⟩

theorem isFirst_of_precedes
    (first : Precedes settings (candidatesOf credentials departmentId userId p) x) :
    IsFirst settings credentials departmentId userId p x.credential := by
  obtain ⟨front, back, parts, before, after⟩ := first
  have mem : x ∈ candidatesOf credentials departmentId userId p := by
    rw [parts]
    exact List.mem_append_right _ (.head _)
  have scope := (usable_of_candidate mem).2
  rw [candidatesOf_eq] at parts
  obtain ⟨left, right, split, made, rest⟩ := List.filterMap_eq_append_iff.mp parts
  obtain ⟨skipped, c, later, splits, unmade, here, more⟩ := List.filterMap_eq_cons_iff.mp rest
  have same : x.credential = c := by
    split at here
    next =>
      obtain ⟨rank, _, rfl⟩ := Option.map_eq_some_iff.mp here
      rfl
    next => cases here
  rw [same] at scope ⊢
  refine ⟨left ++ skipped, later, by rw [split, splits, List.append_assoc], ?_, ?_⟩
  · intro c' mem usable close
    have candidate := candidate_of_usable usable
    cases List.mem_append.mp mem with
    | inl inLeft =>
      refine before ⟨scopeOf c'.ownerType, p, c'⟩ ?_ (scope ▸ close)
      rw [← made]
      exact List.mem_filterMap.mpr ⟨c', inLeft, candidate⟩
    | inr inSkipped =>
      rw [unmade c' inSkipped] at candidate
      cases candidate
  · intro c' mem usable close
    refine after ⟨scopeOf c'.ownerType, p, c'⟩ ?_ (scope ▸ close)
    rw [← more]
    exact List.mem_filterMap.mpr ⟨c', mem, candidate_of_usable usable⟩

include live in
theorem resolveProvider_some
    {record : ProviderRecord} (resolved : resolveProvider settings rows = .ok (some record)) :
    ∃ x apiKey, Precedes settings rows x ∧ settings.decrypt x.credential.secretRef = some apiKey ∧
      record.providerKey = x.provider.providerKey ∧ record.credentialConfigured = true ∧
      ∃ static, providerConfig settings x.provider.providerKey = .ok static ∧
        record.metadata = static.metadata.merge (credentialMetadata settings x apiKey false) := by
  unfold resolveProvider at resolved
  split at resolved
  next => cases resolved
  next x apiKey demo chosen =>
    obtain ⟨first, read, rfl⟩ := decrypted_some live chosen
    obtain ⟨static, known, rest⟩ := bind_ok.mp resolved
    obtain ⟨adapterType, _, rest⟩ := bind_ok.mp rest
    obtain ⟨capabilities, _, last⟩ := bind_ok.mp rest
    cases last
    exact ⟨x, apiKey, first, read, rfl, rfl, static, known, rfl⟩

include live in
theorem resolveProvider_none
    {record : Option ProviderRecord} (resolved : resolveProvider settings rows = .ok record) :
    record = none ↔ ∀ x ∈ rows, settings.decrypt x.credential.secretRef = none := by
  rw [← decrypted_none live]
  unfold resolveProvider at resolved
  split at resolved
  next unread =>
    cases resolved
    exact ⟨fun _ => unread, fun _ => rfl⟩
  next x apiKey demo chosen =>
    obtain ⟨static, _, rest⟩ := bind_ok.mp resolved
    obtain ⟨adapterType, _, rest⟩ := bind_ok.mp rest
    obtain ⟨capabilities, _, last⟩ := bind_ok.mp rest
    cases last
    constructor
    · intro none
      cases none
    · intro none
      have taken : decrypted settings (rows.insertionSort closer) = some (x, apiKey, demo) := chosen
      rw [taken] at none
      cases none

theorem resolveAll_ok {entries : List (String × List Candidate)} {records : List ProviderRecord}
    (resolved : resolveAll settings entries = .ok records) :
    (∀ e ∈ entries, ∃ record, resolveProvider settings e.2 = .ok record ∧
      ∀ r, record = some r → r ∈ records) ∧
    ∀ r ∈ records, ∃ e ∈ entries, resolveProvider settings e.2 = .ok (some r) := by
  induction entries generalizing records with
  | nil =>
    cases resolved
    exact ⟨fun e mem => absurd mem List.not_mem_nil, fun r mem => absurd mem List.not_mem_nil⟩
  | cons e rest ih =>
    obtain ⟨here, first, later⟩ := bind_ok.mp resolved
    obtain ⟨others, more, last⟩ := bind_ok.mp later
    cases last
    obtain ⟨all, known⟩ := ih more
    constructor
    · intro e' mem
      cases mem with
      | head =>
        refine ⟨here, first, fun r same => ?_⟩
        rw [same]
        exact List.mem_append_left _ (.head _)
      | tail _ mem =>
        obtain ⟨record, found, there⟩ := all e' mem
        exact ⟨record, found, fun r same => List.mem_append_right _ (there r same)⟩
    · intro r mem
      cases List.mem_append.mp mem with
      | inl inHere => exact ⟨e, .head _, (Option.mem_toList.mp inHere) ▸ first⟩
      | inr inOthers =>
        obtain ⟨e', there, found⟩ := known r inOthers
        exact ⟨e', .tail _ there, found⟩

theorem get_set (d : Dict) (key : String) (value : PyValue) (other : String) :
    (d.set key value).get other = if other = key then value else d.get other := by
  induction d with
  | nil =>
    by_cases same : other = key
    · simp [Dict.set, Dict.get, same]
    · simp [Dict.set, Dict.get, same, List.lookup_cons, beq_eq_false_iff_ne.mpr same]
  | cons entry rest ih =>
    obtain ⟨k, v⟩ := entry
    unfold Dict.get at ih ⊢
    by_cases here : k = key
    · rw [Dict.set, if_pos (beq_iff_eq.mpr here), List.lookup_cons, List.lookup_cons, here]
      by_cases same : other = key
      · simp [same]
      · simp [same, beq_eq_false_iff_ne.mpr same]
    · rw [Dict.set, if_neg (by rw [beq_iff_eq]; exact here), List.lookup_cons, List.lookup_cons]
      by_cases first : other = k
      · simp [first, here]
      · simp only [beq_eq_false_iff_ne.mpr first]
        exact ih

structure Carries (settings : CredentialSettings) (record : ProviderRecord) (c : LLMCredential)
    (apiKey : String) : Prop where
  configured : record.credentialConfigured = true
  apiKey : record.metadata.get "api_key" = .str apiKey
  ownerType : record.metadata.get "credential_owner_type" = .str (ownerTypeText c.ownerType)
  ownerId : record.metadata.get "credential_owner_id" =
    .ofOption (c.ownerId.map settings.uuidText)

theorem carries_of_metadata {record : ProviderRecord} {static : Dict} {apiKey : String}
    (configured : record.credentialConfigured = true)
    (metadata : record.metadata = static.merge (credentialMetadata settings x apiKey false)) :
    Carries settings record x.credential apiKey := by
  constructor
  · exact configured
  all_goals
    rw [metadata]
    simp [Dict.merge, credentialMetadata, get_set]

/-- Every provider is offered with the first of the closest credentials whose secrets can be read,
and left out where there is none. -/
theorem credential_precedence (settings : CredentialSettings) (tables : ProviderTables)
    (tenantId : UUID) (departmentId userId : Option UUID) (records : List ProviderRecord)
    (returned : runtimeProviders settings tables tenantId departmentId userId = .ok records)
    (live : ∀ p ∈ tables.providers, developmentMockAllowed settings p = false) :
    (∀ record ∈ records, ∃ p ∈ tables.providers, ∃ c ∈ tables.credentials, ∃ apiKey,
      p.tenantId = tenantId ∧ p.isActive = true ∧ p.providerKey = record.providerKey ∧
      Usable departmentId userId p c ∧ settings.decrypt c.secretRef = some apiKey ∧
      IsFirst settings tables.credentials departmentId userId p c ∧
      Carries settings record c apiKey) ∧
    ∀ p ∈ tables.providers, p.tenantId = tenantId → p.isActive = true →
      ((∃ record ∈ records, record.providerKey = p.providerKey) ↔
        ∃ c ∈ tables.credentials, Usable departmentId userId p c ∧
          (settings.decrypt c.secretRef).isSome = true) := by
  obtain ⟨all, known⟩ := resolveAll_ok returned
  have rowLive : ∀ x ∈ candidates tables tenantId departmentId userId,
      developmentMockAllowed settings x.provider = false := by
    intro x mem
    obtain ⟨p, listed, candidate⟩ := List.mem_flatMap.mp mem
    rw [(mem_candidatesOf.mp candidate).1]
    exact live p (List.mem_of_mem_filter listed)
  have groupLive : ∀ {key : String} {group : List Candidate}, (key, group) ∈ (groupByKey
      (candidates tables tenantId departmentId userId) OrderedDict.empty).entries →
      ∀ x ∈ group, developmentMockAllowed settings x.provider = false := by
    intro key group mem x inGroup
    rw [(mem_groups.mp mem).1] at inGroup
    exact rowLive x (List.mem_of_mem_filter inGroup)
  have each : ∀ record ∈ records, ∃ p ∈ tables.providers, ∃ c ∈ tables.credentials, ∃ apiKey,
      p.tenantId = tenantId ∧ p.isActive = true ∧ p.providerKey = record.providerKey ∧
      Usable departmentId userId p c ∧ settings.decrypt c.secretRef = some apiKey ∧
      IsFirst settings tables.credentials departmentId userId p c ∧
      Carries settings record c apiKey := by
    intro record mem
    obtain ⟨⟨key, group⟩, listed, resolved⟩ := known record mem
    obtain ⟨x, apiKey, first, read, keys, configured, static, _, metadata⟩ :=
      resolveProvider_some (groupLive listed) resolved
    have grouped := (mem_groups.mp listed).1
    have inGroup : x ∈ group := by
      obtain ⟨front, back, parts, _⟩ := first
      rw [parts]
      exact List.mem_append_right _ (.head _)
    rw [grouped, List.mem_filter, beq_iff_eq] at inGroup
    obtain ⟨p, row, candidate⟩ := List.mem_flatMap.mp inGroup.1
    have here := (mem_candidatesOf.mp candidate).1
    obtain ⟨there, shown⟩ := List.mem_filter.mp row
    rw [Bool.and_eq_true, beq_iff_eq] at shown
    have rows : group = candidatesOf tables.credentials departmentId userId p := by
      rw [grouped, ← inGroup.2, here]
      exact candidates_of_key there shown.1 shown.2
    rw [rows] at first
    exact ⟨p, there, x.credential, (mem_candidatesOf.mp candidate).2.1, apiKey, shown.1, shown.2,
      by rw [keys, here], (usable_of_candidate candidate).1, read, isFirst_of_precedes first,
      carries_of_metadata configured metadata⟩
  refine ⟨each, fun p listed own active => ?_⟩
  constructor
  · intro h
    obtain ⟨record, mem, keys⟩ := h
    obtain ⟨q, there, c, credential, apiKey, tenant, _, same, usable, read, _⟩ := each record mem
    have one : q = p := List.inj_on_of_nodup_map tables.uniqueKeys there listed
      (Prod.ext (tenant.trans own.symm) (same.trans keys))
    exact ⟨c, credential, one ▸ usable, by rw [read]; rfl⟩
  · intro h
    obtain ⟨c, credential, usable, readable⟩ := h
    have candidate : (⟨scopeOf c.ownerType, p, c⟩ : Candidate) ∈
        candidatesOf tables.credentials departmentId userId p := by
      rw [candidatesOf_eq]
      exact List.mem_filterMap.mpr ⟨c, credential, candidate_of_usable usable⟩
    rw [← candidates_of_key listed own active] at candidate
    have group := mem_groups.mpr ⟨rfl, List.ne_nil_of_mem candidate⟩
    obtain ⟨record, resolved, there⟩ := all _ group
    cases record with
    | none =>
      have unread := (resolveProvider_none (groupLive group) resolved).mp rfl _ candidate
      rw [unread] at readable
      cases readable
    | some record =>
      have mem := there record rfl
      obtain ⟨x, _, first, _, keys, _⟩ := resolveProvider_some (groupLive group) resolved
      obtain ⟨front, back, parts, _⟩ := first
      have inGroup : x ∈ (candidates tables tenantId departmentId userId).filter
          (fun x => x.provider.providerKey == p.providerKey) := by
        rw [parts]
        exact List.mem_append_right _ (.head _)
      rw [List.mem_filter, beq_iff_eq] at inGroup
      exact ⟨record, mem, keys.trans inGroup.2⟩

def tenantCredential (secretRef : String) : ProviderTables where
  providers :=
    [{ id := 5, tenantId := 1, providerKey := "openai", name := "OpenAI"
       adapterType := "openai_compatible" }]
  credentials :=
    [{ tenantId := 1, providerId := 5, displayName := "Shared", secretRef := secretRef
       maskedSecret := "***" }]
  uniqueKeys := by simp
  references := by simp

theorem tenantCredential_live (secretRef : String) :
    ∀ p ∈ (tenantCredential secretRef).providers, developmentMockAllowed oneProvider p = false :=
  fun _ _ => rfl

theorem unreadable_provider_is_left_out :
    ¬ ∀ (settings : CredentialSettings) (tables : ProviderTables) (tenantId : UUID)
      (departmentId userId : Option UUID) (records : List ProviderRecord),
      runtimeProviders settings tables tenantId departmentId userId = .ok records →
      (∀ p ∈ tables.providers, developmentMockAllowed settings p = false) →
      ∀ p ∈ tables.providers, p.tenantId = tenantId → p.isActive = true →
        (∀ c ∈ tables.credentials, Usable departmentId userId p c →
          settings.decrypt c.secretRef = none) →
        ∃ record ∈ records, record.providerKey = p.providerKey := by
  intro claimed
  have returned : runtimeProviders oneProvider (tenantCredential "lost") 1 none none = .ok [] := by
    rfl
  obtain ⟨record, mem, _⟩ := claimed _ _ _ _ _ _ returned (tenantCredential_live "lost") _
    (.head _) rfl rfl (fun c mem _ => by
      cases mem with
      | head => rfl
      | tail _ none => cases none)
  cases mem

theorem shared_credential_is_chosen : ∃ records,
    runtimeProviders oneProvider (tenantCredential "gkey") 1 none none = .ok records ∧
      ∀ record ∈ records, ∃ p ∈ (tenantCredential "gkey").providers,
        ∃ c ∈ (tenantCredential "gkey").credentials, ∃ apiKey,
        p.tenantId = 1 ∧ p.isActive = true ∧ p.providerKey = record.providerKey ∧
        Usable none none p c ∧ oneProvider.decrypt c.secretRef = some apiKey ∧
        IsFirst oneProvider (tenantCredential "gkey").credentials none none p c ∧
        Carries oneProvider record c apiKey := by
  obtain ⟨records, returned⟩ : ∃ records,
      runtimeProviders oneProvider (tenantCredential "gkey") 1 none none = .ok records := ⟨_, rfl⟩
  exact ⟨records, returned, (credential_precedence oneProvider _ 1 none none records returned
    (tenantCredential_live "gkey")).1⟩

end AgentHive.ProviderCredentials
