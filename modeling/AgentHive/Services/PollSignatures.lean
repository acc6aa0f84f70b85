import AgentHive.Services.ChannelFiling
import AgentHive.Services.ChannelSignatures

/-!
Which polls of a protected channel are answered.

The check of a poll lets through what it finds no secret for, and does not look at the time.
-/

namespace AgentHive.PollSignatures

open ChannelService ChannelPoll ChannelSignatures

structure PollParams where
  externalUserId : String
  conversationKey : Option String := none
  after : Option UUID := none
  limit : Int := 50

section Endpoint

variable (sig : SignatureLibrary) (lib : SecretLibrary) (fault : Option StorageFault)
  (store : ChannelStore) (key : ChannelType × String) (request : ChannelSignatures.PollRequest)

def pollMessages (params : PollParams) (faults : PollFaults) (tables : ConversationTables) :
    Except Exc ChannelPollResponse :=
  match getChannelByKey lib fault store key with
  | (none, _) => .error (.http 404 (.text "Channel not found."))
  | (some channel, store') => do
    let verified ← verifyPollSignature sig channel request
    if verified then
      (pollChannelMessagesForTenant lib faults store' tables channel.tenantId channel.id
        params.externalUserId params.conversationKey params.after params.limit).1
    else .error (.http 401 (.text "Invalid or missing poll signature."))

def Fresh (now : Int) : Prop :=
  ∃ timestamp seconds, header request.headers "x-agenthive-timestamp" = some timestamp ∧
    parseTimestampSeconds sig timestamp = some seconds ∧
    (now - seconds).natAbs ≤ signatureMaxSkewSeconds

def Authenticated (channel : ChannelRecord) (now : Int) : Prop :=
  (∃ secret, UsableSecret channel secret ∧ SignedUnder sig request secret) ∧
    Fresh sig request now

/-- What is answered is authenticated, and a channel without its secret answers nothing. -/
def PollsSafely (params : PollParams) (channel : ChannelRecord) (now : Int) : Prop :=
  ∀ faults tables response,
    pollMessages sig lib fault store key request params faults tables = .ok response →
    Authenticated sig request channel now ∧ channel.secretError = none

end Endpoint

variable {sig : SignatureLibrary} {lib : SecretLibrary} {fault : Option StorageFault}
variable {store : ChannelStore} {key : ChannelType × String} {request : ChannelSignatures.PollRequest}
variable {params : PollParams} {now : Int} {id : UUID} {row : ChannelConfig}

theorem getChannelByKey_rows (lib : SecretLibrary) (fault : Option StorageFault)
    (store : ChannelStore) (key : ChannelType × String) :
    (getChannelByKey lib fault store key).2.rows = store.rows := by
  unfold getChannelByKey
  split
  · rfl
  · rfl

theorem pollMessages_found {faults : PollFaults} {tables : ConversationTables}
    (found : (getChannelByKey lib fault store key).1 = some (recordFromRow lib id row)) :
    pollMessages sig lib fault store key request params faults tables =
      (verifyPollSignature sig (recordFromRow lib id row) request >>= fun verified =>
        if verified then
          (pollChannelMessagesForTenant lib faults (getChannelByKey lib fault store key).2 tables
            row.tenantId id params.externalUserId params.conversationKey params.after
            params.limit).1
        else .error (.http 401 (.text "Invalid or missing poll signature."))) := by
  have looked : getChannelByKey lib fault store key =
      (some (recordFromRow lib id row), (getChannelByKey lib fault store key).2) :=
    Prod.ext found rfl
  unfold pollMessages
  rw [looked]
  rfl

theorem tenantRow_stored (stored : store.rows.get id = some row) :
    tenantRow store row.tenantId id = some row := by
  rw [tenantRow, stored]
  simp

theorem answerPoll_noRows {tenantId : UUID} {after : Option UUID} {limit : Int}
    {externalUserId : String} {conversationKey : Option String} {channel : ChannelRecord} :
    ∃ response, answerPoll {} ChannelFiling.noRows tenantId id externalUserId conversationKey after
      limit channel = .ok response := by
  have nobody : sessionsRead {} ChannelFiling.noRows tenantId id = [] := rfl
  have noPage : pageOf [] [] after (pageSize limit) = ([], false) := by
    cases after with
    | none => simp [pageOf, CursorPages.remaining]
    | some c => simp [pageOf, CursorPages.remaining]
  unfold answerPoll
  rw [nobody]
  simp only [selectMatchingSessions, List.filter_nil, List.map_nil, List.find?_nil, Option.or_none,
    messagesRead, paginateMessages, ne_eq, not_true_eq_false, false_and, if_false]
  rw [noPage]
  cases conversationKey with
  | none => exact ⟨_, rfl⟩
  | some text =>
    by_cases empty : text = ""
    · rw [empty]
      exact ⟨_, rfl⟩
    · have filled : (Rag.Json.str text).truthy = true := by simp [Rag.Json.truthy, empty]
      simp only [Option.map_some, responseKey, Option.filter_some, filled, if_true]
      exact ⟨_, rfl⟩

theorem answered_of_verified (params : PollParams) (stored : store.rows.get id = some row)
    (found : (getChannelByKey lib fault store key).1 = some (recordFromRow lib id row))
    (verified : verifyPollSignature sig (recordFromRow lib id row) request = .ok true) :
    ∃ response, pollMessages sig lib fault store key request params {} ChannelFiling.noRows =
      .ok response := by
  have rows := getChannelByKey_rows lib fault store key
  have there : tenantRow (getChannelByKey lib fault store key).2 row.tenantId id = some row :=
    tenantRow_stored (rows.symm ▸ stored)
  rw [pollMessages_found found, verified]
  unfold pollChannelMessagesForTenant getTenantChannel
  rw [there]
  exact answerPoll_noRows

theorem verified_of_answered {faults : PollFaults} {tables : ConversationTables}
    {response : ChannelPollResponse}
    (found : (getChannelByKey lib fault store key).1 = some (recordFromRow lib id row))
    (answered : pollMessages sig lib fault store key request params faults tables =
      .ok response) :
    verifyPollSignature sig (recordFromRow lib id row) request = .ok true := by
  rw [pollMessages_found found] at answered
  obtain ⟨verified, checked, answered⟩ := Process.Fallible.bind_ok.mp answered
  cases verified with
  | true => exact checked
  | false => cases answered

/-- Polls are authenticated where the channel has a secret that can be used, and what is signed
under one is fresh and comes while the current one can be decrypted. -/
theorem polls_safely_iff (stored : store.rows.get id = some row)
    (found : (getChannelByKey lib fault store key).1 = some (recordFromRow lib id row)) :
    PollsSafely sig lib fault store key request params (recordFromRow lib id row) now ↔
      (∃ secret, UsableSecret (recordFromRow lib id row) secret) ∧
      ∀ secret, UsableSecret (recordFromRow lib id row) secret → SignedUnder sig request secret →
        (recordFromRow lib id row).secretError = none ∧ Fresh sig request now := by
  constructor
  · intro safe
    have answers : verifyPollSignature sig (recordFromRow lib id row) request = .ok true → _ :=
      answered_of_verified params stored found
    refine ⟨?_, fun secret usable signed => ?_⟩
    · by_contra none
      obtain ⟨response, answered⟩ := answers (verifyPollSignature_iff.mpr (.inl none))
      obtain ⟨secret, usable, _⟩ := (safe _ _ _ answered).1.1
      exact none ⟨secret, usable⟩
    · obtain ⟨response, answered⟩ :=
        answers (verifyPollSignature_iff.mpr (.inr ⟨secret, usable, signed⟩))
      have authenticated := safe _ _ _ answered
      exact ⟨authenticated.2, authenticated.1.2⟩
  · intro h faults tables response answered
    obtain ⟨usable, signedFresh⟩ := h
    obtain ⟨secret, has, signed⟩ := (verifyPollSignature_iff.mp
      (verified_of_answered found answered)).resolve_left fun none => none usable
    obtain ⟨decrypts, fresh⟩ := signedFresh secret has signed
    exact ⟨⟨⟨secret, has, signed⟩, fresh⟩, decrypts⟩

def plainSignatures : SignatureLibrary where
  sha256 bytes := bytes
  utf8 text := text.toList.map fun c => UInt8.ofNat c.toNat
  int text := some (text.toList.foldl (fun n c => 10 * n + (c.toNat - 48 : Int)) 0)
  dumps _ := ""

def lockedChannel : ChannelConfig :=
  { shopChannel with secretRef := some "x", secretConfigured := true }

def sealedChannel : ChannelConfig :=
  { shopChannel with secretRef := some "ks", secretConfigured := true }

def storeWith (row : ChannelConfig) : ChannelStore :=
  { emptyChannels with rows := OrderedDict.empty.set 2 row }

def unsignedPoll : ChannelSignatures.PollRequest where
  method := "GET"
  path := "/api/v1/channels/poll/web_widget/shop"
  query := "external_user_id=ann"
  headers := []

def signedPoll : ChannelSignatures.PollRequest :=
  { unsignedPoll with headers := [("x-agenthive-timestamp", "1000"), ("x-agenthive-nonce", "n"),
      ("x-agenthive-signature", "sha256=" ++ expectedDigest plainSignatures unsignedPoll "1000" "n"
        "s")] }

theorem locked_channel_answers :
    ¬ ∀ (sig : SignatureLibrary) (lib : SecretLibrary) (fault : Option StorageFault)
      (store : ChannelStore) (key : ChannelType × String) (request : ChannelSignatures.PollRequest)
      (params : PollParams) (now : Int) (id : UUID) (row : ChannelConfig),
      store.rows.get id = some row →
      (getChannelByKey lib fault store key).1 = some (recordFromRow lib id row) →
      truthy row.secretRef = true →
      PollsSafely sig lib fault store key request params (recordFromRow lib id row) now := by
  intro claimed
  have safe := claimed plainSignatures plainSecrets none (storeWith lockedChannel)
    (.webWidget, "shop") unsignedPoll ⟨"ann", none, none, 50⟩ 1000 2 lockedChannel rfl rfl rfl
  have unguarded : verifyPollSignature plainSignatures (recordFromRow plainSecrets 2 lockedChannel)
      unsignedPoll = .ok true := rfl
  have found : (getChannelByKey plainSecrets none (storeWith lockedChannel)
      (.webWidget, "shop")).1 = some (recordFromRow plainSecrets 2 lockedChannel) := rfl
  obtain ⟨response, answered⟩ := answered_of_verified ⟨"ann", none, none, 50⟩ rfl found unguarded
  have decrypted := (safe _ _ _ answered).2
  cases decrypted

theorem sealed_channel_polls_safely :
    PollsSafely plainSignatures plainSecrets none (storeWith sealedChannel) (.webWidget, "shop")
      signedPoll ⟨"ann", none, none, 50⟩ (recordFromRow plainSecrets 2 sealedChannel) 1100 := by
  refine (polls_safely_iff rfl rfl).mpr ⟨⟨"s", .head _, by decide⟩, fun secret _ _ => ⟨rfl, ?_⟩⟩
  exact ⟨"1000", 1000, rfl, by decide +kernel, by decide⟩

end AgentHive.PollSignatures
