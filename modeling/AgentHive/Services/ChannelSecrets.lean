import AgentHive.Process.TwoRuns
import AgentHive.Services.ChannelDelivery
import AgentHive.Services.ChannelResponses
import AgentHive.Services.PollSignatures

/-!
What the answers of a channel and its audit rows tell about its secrets.
-/

namespace AgentHive.ChannelSecrets

open Process
open Process.Program (Runs AnswersAlike)
open ChannelInbound ChannelOutbound ChannelProcessing ChannelResponses
open ChannelSignatures (channelSecretConfigured webhookSignature)
open Rag (Json JsonDict)
open ChannelDelivery (answersWith plainLibrary)

structure ChannelSettings where
  secret : Option String
  previousSecret : Option String
  config : JsonDict

def configured (channel : ChannelRecord) (settings : ChannelSettings) : ConfiguredChannel where
  toChannelRecord :=
    { channel with secret := settings.secret, previousSecret := settings.previousSecret }
  config := settings.config

section Material

variable (lib : ChannelLibrary)

mutual

def publicValue : Json → Json
  | .arr items => .arr (publicItems items)
  | .obj entries => .obj (publicEntries entries)
  | value => value

def publicItems : List Json → List Json
  | [] => []
  | item :: rest => publicValue item :: publicItems rest

def publicEntries : List (String × Json) → List (String × Json)
  | [] => []
  | (key, item) :: rest =>
    (key, if isSensitiveKey lib key then .str "***" else publicValue item) :: publicEntries rest

end

def publicParameter (parameter : List Char) : List Char :=
  if "access_token=".toList.isPrefixOf parameter then "access_token=".toList else parameter

def publicUrl (url : String) : String :=
  let base := url.toList.takeWhile (· ≠ '?')
  let query := url.toList.dropWhile (· ≠ '?')
  String.ofList (base ++ ['&'].intercalate ((query.splitOn '&').map fun part =>
    if part.head? = some '?' then '?' :: publicParameter part.tail else publicParameter part))

def publicConfig (config : JsonDict) : JsonDict :=
  (publicEntries lib config).map fun entry =>
    match entry with
    | ("dingtalk_robot_webhook_url", .str url) => (entry.1, .str (publicUrl url))
    | entry => entry

def SecretsDiffer (settings settings' : ChannelSettings) : Prop :=
  publicConfig lib settings.config = publicConfig lib settings'.config

end Material

def Together : ChannelCall → ChannelCall → Prop
  | .selectConversations, .selectConversations | .rollback, .rollback => True
  | .flush row, .flush row' => row = row'
  | .commit rows, .commit rows' => rows = rows'
  | .runAgent agentKey request, .runAgent agentKey' request' =>
    agentKey = agentKey' ∧
      { request with maxTokens := none } = { request' with maxTokens := none }
  | .accessToken channelType _, .accessToken channelType' _ => channelType = channelType'
  | .post request, .post request' => request.payload = request'.payload
  | .audit event, .audit event' => event = event'
  | _, _ => False

def TokensAlike : Except Exc (Option String) → Except Exc (Option String) → Prop :=
  ResultsPaired (· = ·) fun token token' =>
    (token.filter (· ≠ "")).isSome = (token'.filter (· ≠ "")).isSome

def Alike : (call call' : ChannelCall) → ChannelAnswer call → ChannelAnswer call' → Prop
  | .selectConversations, .selectConversations, answer, answer' => answer = answer'
  | .flush _, .flush _, answer, answer' => answer = answer'
  | .commit _, .commit _, answer, answer' => answer = answer'
  | .rollback, .rollback, answer, answer' => answer = answer'
  | .runAgent _ _, .runAgent _ _, answer, answer' => answer = answer'
  | .accessToken _ _, .accessToken _ _, answer, answer' => TokensAlike answer answer'
  | .post _, .post _, answer, answer' => answer = answer'
  | .audit _, .audit _, answer, answer' => answer = answer'
  | _, _, _, _ => True

def readsClock : ChannelCall → Bool
  | .clock => true
  | _ => false

def ClockAt (instant : Nat) : (call : ChannelCall) → ChannelAnswer call → Prop
  | .clock, answer => answer = instant
  | _, _ => True

theorem together_calls {call call' : ChannelCall} (together : Together call call') :
    readsClock call = false ∧ readsClock call' = false := by
  cases call with
  | clock => exact together.elim
  | _ =>
    cases call' with
    | clock => exact together.elim
    | _ => exact ⟨rfl, rfl⟩

def pairing (instant : Nat) : Pairing ChannelCall ChannelAnswer where
  pairs := Together
  alike := Alike
  alone := readsClock
  given := ClockAt instant
  together _ _ := together_calls

def auditOf : Event ChannelCall ChannelAnswer → Option AuditEvent
  | ⟨.audit event, _⟩ => some event
  | _ => none

def audits (t : ChannelTrace) : List AuditEvent := t.filterMap auditOf

def SameOutside {α : Type} (m m' : ChannelAction α) : Prop :=
  ∀ (instant : Nat) (t t' : ChannelTrace) (r r' : Except Exc α), Runs (m.run ()) t r →
    Runs (m'.run ()) t' r' → AnswersAlike (pairing instant) t t' → audits t = audits t' ∧ r = r'

structure Hidden (lib : ChannelLibrary) (sig : SignatureLibrary)
    (channel channel' : ConfiguredChannel) : Prop where
  listed : toResponse lib channel = toResponse lib channel'
  webhook : ∀ (request : WebhookRequest) (now : Int) (draws : InboundDraws),
    webhookSignature sig channel.toChannelRecord request.payload request.headers now =
      webhookSignature sig channel'.toChannelRecord request.payload request.headers now →
    SameOutside (receiveChannelWebhook lib sig (some channel) request now draws)
      (receiveChannelWebhook lib sig (some channel') request now draws)
  push : ∀ (request : ChannelPushRequest) (requestId : Option String),
    SameOutside (pushToChannel lib channel request requestId)
      (pushToChannel lib channel' request requestId)

section Condition

variable (lib : ChannelLibrary)

def isShown (key : String) : Bool := key == "secret_health" || !isSensitiveKey lib key

def shownEntries (config : JsonDict) : JsonDict := config.filter fun entry => isShown lib entry.1

def sendsByVendor (config : JsonDict) : Prop :=
  (configText lib config "outbound_mode").getD "outbound_webhook" = "vendor_api"

def sendsWorkNotices (config : JsonDict) : Prop :=
  lib.lower ((configText lib config "dingtalk_outbound_kind").getD "robot_webhook") = "work_notice"

inductive TokenKey (config : JsonDict) : ChannelType → String → Prop
  | wecom : TokenKey config .wecom "wecom_access_token"
  | feishu : TokenKey config .feishu "feishu_tenant_access_token"
  | dingtalk (notices : sendsWorkNotices lib config) :
      TokenKey config .dingtalk "dingtalk_access_token"

structure SendsAlike (channelType : ChannelType) (config config' : JsonDict) : Prop where
  tokens : sendsByVendor lib config → ∀ key, TokenKey lib config channelType key →
    (configText lib config key).isSome = (configText lib config' key).isSome
  robot : sendsByVendor lib config → channelType = .dingtalk → ¬ sendsWorkNotices lib config →
    configText lib config "dingtalk_robot_webhook_url" ≠ none →
    configText lib config "dingtalk_robot_secret" = configText lib config' "dingtalk_robot_secret"

def FailuresAlike (x y : Exc) : Prop :=
  x = y ∨ x.isException = true ∧ y.isException = true ∧
    safeProcessingError (errorText x) = safeProcessingError (errorText y)

def limitFailure (channel : ConfiguredChannel) : Option Exc :=
  match configuredMaxTokens lib channel with
  | .error x => some x
  | .ok maxTokens =>
    if 1 ≤ maxTokens ∧ maxTokens ≤ 8192 then none
    else some (.other "ValidationError" "1 validation error for AgentRunRequest")

structure Masked (channel channel' : ConfiguredChannel) : Prop where
  flagged : channelSecretConfigured channel.toChannelRecord =
    channelSecretConfigured channel'.toChannelRecord
  shown : shownEntries lib channel.config = shownEntries lib channel'.config
  sends : channel.status = .active →
    SendsAlike lib channel.channelType channel.config channel'.config
  limits : channel.status = .active →
    Option.Rel FailuresAlike (limitFailure lib channel) (limitFailure lib channel')

/-- `str.lower` leaves texts of small letters alone. -/
def LowersLetters : Prop :=
  ∀ text : String, (∀ c ∈ text.toList, c.isLower || c == '_') → lib.lower text = text

end Condition

section Calls

variable {instant : Nat} {α : Type}

abbrev Same (instant : Nat) (m m' : ChannelAction α) : Prop :=
  Action.Paired (pairing instant) (· = ·) (· = ·) m m'

theorem paired_call (instant : Nat) {F : Exc → Exc → Prop} (call call' : ChannelCall)
    (together : Together call call') :
    Action.Paired (pairing instant) F (Alike call call')
      (Action.perform call : ChannelAction (ChannelAnswer call)) (Action.perform call') :=
  Action.paired_perform together

theorem same_pure (a : α) : Same instant (pure a) (pure a) :=
  Action.paired_pure rfl

theorem same_throw (x : Exc) : Same instant (Action.throw x : ChannelAction α) (Action.throw x) :=
  Action.paired_throw rfl

theorem same_ofExcept (r : Except Exc α) : Same instant (Action.ofExcept r) (Action.ofExcept r) :=
  Action.paired_ofExcept (resultsPaired_self (fun _ => rfl) r)

theorem same_commit (rows : List ChannelMessage) : Same instant (commit rows) (commit rows) :=
  (paired_call instant (.commit rows) (.commit rows) rfl).bind fun answer answer' alike => by
      cases (alike : answer = answer')
      exact same_ofExcept answer

theorem same_rollback {f f' : Except Exc Unit → ChannelAction α}
    (rest : ∀ answer, Same instant (f answer) (f' answer)) :
    Same instant (Action.perform ChannelCall.rollback >>= f)
      (Action.perform ChannelCall.rollback >>= f') :=
  (paired_call instant (.rollback) (.rollback) trivial).bind fun answer answer' alike => by
      cases (alike : answer = answer')
      exact rest answer

theorem same_commitAudit : Same instant commitAuditBestEffort commitAuditBestEffort := by
  refine (same_commit []).tryCatch fun x y same => ?_
  cases same
  cases x with
  | os | sqlAlchemy => exact same_rollback same_ofExcept
  | _ => exact same_throw _

theorem same_audit (lib : ChannelLibrary) (action status : String) (requestId : Option String)
    (details : JsonDict) :
    Same instant (recordAuditEvent lib action status requestId details)
      (recordAuditEvent lib action status requestId details) :=
  (paired_call instant (.audit _) (.audit _) rfl).bind fun answer answer' alike => by
      cases (alike : answer = answer')
      exact same_ofExcept answer

end Calls

section Configuration

variable {lib : ChannelLibrary} {config config' : JsonDict}

def openKeys : List String :=
  ["outbound_mode", "outbound_webhook_url", "outbound_timeout_seconds", "wecom_agent_id",
    "wecom_api_base_url", "wecom_to_user", "dingtalk_outbound_kind", "dingtalk_robot_webhook_url",
    "dingtalk_agent_id", "dingtalk_userid_list", "dingtalk_api_base_url",
    "feishu_receive_id_type", "feishu_receive_id", "feishu_api_base_url", "agent_key",
    "default_agent", "agent_context", "model_key", "routing_key"]

def ReadAlike (config config' : JsonDict) : Prop :=
  ∀ key ∈ openKeys, JsonDict.get config key = JsonDict.get config' key

theorem lookup_shown {key : String} (shown : isShown lib key = true) (config : JsonDict) :
    (shownEntries lib config).lookup key = config.lookup key := by
  induction config with
  | nil => rfl
  | cons entry rest ih =>
    obtain ⟨k, value⟩ := entry
    unfold shownEntries at ih ⊢
    rw [List.filter_cons]
    by_cases same : key = k
    · subst same
      simp [shown]
    · have ne : (key == k) = false := beq_eq_false_iff_ne.mpr same
      split
      · simp only [List.lookup_cons, ne, ih]
      · simp only [List.lookup_cons, ne, ih]

theorem openKeys_shown (lowers : LowersLetters lib) {key : String} (mem : key ∈ openKeys) :
    isShown lib key = true := by
  have letters : openKeys.all (fun key => key.toList.all fun c => c.isLower || c == '_') = true := by
    decide +kernel
  have small : lib.lower key = key := by
    refine lowers key fun c there => ?_
    exact List.all_eq_true.mp (List.all_eq_true.mp letters key mem) c there
  have plain : openKeys.all (fun key => !(contains key "secret" || contains key "token" ||
      contains key "authorization" || contains key "signature" ||
      ["api_key", "apikey", "app_key", "access_key"].contains key)) = true := by
    decide +kernel
  have own := List.all_eq_true.mp plain key mem
  unfold isShown isSensitiveKey
  rw [small, own, Bool.or_true]

theorem readAlike_of_shown (lowers : LowersLetters lib)
    (shown : shownEntries lib config = shownEntries lib config') : ReadAlike config config' := by
  intro key mem
  have visible := openKeys_shown lowers mem
  unfold JsonDict.get
  rw [← lookup_shown visible config, ← lookup_shown visible config', shown]

variable (reads : ReadAlike config config')

include reads

theorem ReadAlike.text (lib : ChannelLibrary) (key : String)
    (mem : key ∈ openKeys) : configText lib config key = configText lib config' key := by
  unfold configText
  rw [reads key mem]

theorem ReadAlike.baseUrl (lib : ChannelLibrary)
    (key standard : String) (mem : key ∈ openKeys) :
    ChannelOutbound.baseUrl lib config key standard =
      ChannelOutbound.baseUrl lib config' key standard := by
  unfold ChannelOutbound.baseUrl
  rw [reads.text lib key mem]

theorem ReadAlike.timeout :
    ChannelOutbound.timeout lib config = ChannelOutbound.timeout lib config' := by
  unfold ChannelOutbound.timeout
  rw [reads "outbound_timeout_seconds" (by decide)]

theorem ReadAlike.agentKey :
    agentKeyForChannel config = agentKeyForChannel config' := by
  have first := reads "agent_key" (by decide)
  have second := reads "default_agent" (by decide)
  simp only [agentKeyForChannel, JsonDict.firstOf, first, second]

end Configuration

section Sending

variable {lib : ChannelLibrary} {config config' : JsonDict} {message : OutboundMessage}
variable {instant : Nat} {requestId : Option String}

theorem same_sendRequest (mode target : String) {request request' : OutboundRequest}
    (payload : request.payload = request'.payload)
    (read : HttpAnswer → Except Exc OutboundDeliveryResult) :
    Same instant (sendRequest mode target request read) (sendRequest mode target request' read) :=
  (paired_call instant (.post request) (.post request') payload).bind fun answer answer' alike => by
      cases (alike : answer = answer')
      exact same_ofExcept _

theorem paired_headers :
    Action.Paired (pairing instant) (· = ·) (fun _ _ => True)
      (webhookHeaders lib config message requestId)
      (webhookHeaders lib config' message requestId) := by
  unfold webhookHeaders
  cases configText lib config "outbound_webhook_secret" with
  | none =>
    cases configText lib config' "outbound_webhook_secret" with
    | none => exact Action.paired_pure trivial
    | some secret =>
      exact Action.paired_right (e := ChannelCall.clock) rfl fun _ _ =>
        Action.paired_pure trivial
  | some secret =>
    refine Action.paired_left (e := ChannelCall.clock) rfl fun _ _ => ?_
    cases configText lib config' "outbound_webhook_secret" with
    | none => exact Action.paired_pure trivial
    | some secret =>
      exact Action.paired_right (e := ChannelCall.clock) rfl fun _ _ =>
        Action.paired_pure trivial

variable (reads : ReadAlike config config')

include reads

theorem same_viaWebhook :
    Same instant (sendOutboundViaWebhook lib config message requestId)
      (sendOutboundViaWebhook lib config' message requestId) := by
  unfold sendOutboundViaWebhook
  rw [← reads.text lib "outbound_webhook_url" (by decide), ← reads.timeout]
  cases configText lib config "outbound_webhook_url" with
  | none => exact same_pure _
  | some url =>
    refine paired_headers.bind fun headers headers' _ => ?_
    refine (same_ofExcept _).bind fun _ _ _ => same_sendRequest _ _ ?_ _
    rfl

omit reads in
theorem paired_token (channelType : ChannelType) {key : String}
    (present : (configText lib config key).isSome = (configText lib config' key).isSome) :
    Action.Paired (pairing instant) (· = ·) (fun token token' => token.isSome = token'.isSome)
      (tokenFor lib channelType config key) (tokenFor lib channelType config' key) := by
  unfold tokenFor
  cases own : configText lib config key with
  | some token =>
    cases own' : configText lib config' key with
    | some token' => exact Action.paired_pure rfl
    | none =>
      rw [own, own'] at present
      cases present
  | none =>
    cases own' : configText lib config' key with
    | some token' =>
      rw [own, own'] at present
      cases present
    | none =>
      refine (paired_call instant (.accessToken channelType config) (.accessToken channelType config') rfl).bind
          fun answer answer' alike => ?_
      exact (Action.paired_ofExcept alike).bind fun token token' both =>
        Action.paired_pure both

omit reads in
theorem missing_iff {token token' : Option String} (present : token.isSome = token'.isSome) :
    token = none ↔ token' = none := by
  cases token with
  | none =>
    cases token' with
    | none => exact Iff.rfl
    | some _ => cases present
  | some _ =>
    cases token' with
    | none => cases present
    | some _ => simp

omit reads in
theorem same_ite {c c' : Prop} [Decidable c] [Decidable c'] (iff : c ↔ c') {α : Type}
    {m m' n n' : ChannelAction α} (first : Same instant m m') (second : Same instant n n') :
    Same instant (if c then m else n) (if c' then m' else n') := by
  by_cases holds : c
  · rw [if_pos holds, if_pos (iff.mp holds)]
    exact first
  · rw [if_neg holds, if_neg fun h => holds (iff.mpr h)]
    exact second

theorem same_wecom (present : (configText lib config "wecom_access_token").isSome =
      (configText lib config' "wecom_access_token").isSome) :
    Same instant (sendViaWecom lib config message) (sendViaWecom lib config' message) := by
  unfold sendViaWecom
  rw [← reads "wecom_agent_id" (by decide), ← reads.timeout,
    ← reads.text lib "wecom_to_user" (by decide),
    ← reads.baseUrl lib "wecom_api_base_url" _ (by decide)]
  refine (paired_token .wecom present).bind fun token token' both => ?_
  refine same_ite (or_congr (missing_iff both) Iff.rfl) (same_pure _) ?_
  refine same_ite Iff.rfl (same_pure _) ?_
  refine (same_ofExcept _).bind fun agent agent' same => ?_
  cases same
  refine (same_ofExcept _).bind fun _ _ _ => same_sendRequest _ _ ?_ _
  rfl

theorem same_workNotice (present : (configText lib config "dingtalk_access_token").isSome =
      (configText lib config' "dingtalk_access_token").isSome) :
    Same instant (sendWorkNotice lib config message) (sendWorkNotice lib config' message) := by
  unfold sendWorkNotice
  rw [← reads "dingtalk_agent_id" (by decide), ← reads.timeout,
    ← reads.text lib "dingtalk_userid_list" (by decide),
    ← reads.baseUrl lib "dingtalk_api_base_url" _ (by decide)]
  refine (paired_token .dingtalk present).bind fun token token' both => ?_
  refine same_ite (or_congr (missing_iff both) Iff.rfl) (same_pure _) ?_
  refine (same_ofExcept _).bind fun _ _ _ => same_sendRequest _ _ ?_ _
  rfl

theorem same_feishu (present : (configText lib config "feishu_tenant_access_token").isSome =
      (configText lib config' "feishu_tenant_access_token").isSome) :
    Same instant (sendViaFeishu lib config message) (sendViaFeishu lib config' message) := by
  unfold sendViaFeishu
  rw [← reads.timeout, ← reads.text lib "feishu_receive_id_type" (by decide),
    ← reads.text lib "feishu_receive_id" (by decide),
    ← reads.baseUrl lib "feishu_api_base_url" _ (by decide)]
  refine (paired_token .feishu present).bind fun token token' both => ?_
  refine same_ite (or_congr (missing_iff both) Iff.rfl) (same_pure _) ?_
  refine (same_ofExcept _).bind fun _ _ _ => same_sendRequest _ _ ?_ _
  rfl

omit reads in
theorem same_robotUrl (url : String) (signed : configText lib config "dingtalk_robot_secret" =
    configText lib config' "dingtalk_robot_secret") :
    Same instant (robotUrl lib config url) (robotUrl lib config' url) := by
  unfold robotUrl
  rw [← signed]
  cases configText lib config "dingtalk_robot_secret" with
  | none => exact same_pure _
  | some secret =>
    refine Action.paired_left (e := ChannelCall.clock) rfl fun first atFirst => ?_
    refine Action.paired_right (e := ChannelCall.clock) rfl fun second atSecond => ?_
    have both : first = second := Eq.trans atFirst (Eq.symm atSecond)
    cases both
    exact same_pure _

theorem same_robot (signed : configText lib config "dingtalk_robot_webhook_url" ≠ none →
      configText lib config "dingtalk_robot_secret" =
        configText lib config' "dingtalk_robot_secret") :
    Same instant (sendRobotWebhook lib config message) (sendRobotWebhook lib config' message) := by
  unfold sendRobotWebhook
  rw [← reads.timeout, ← reads.text lib "dingtalk_robot_webhook_url" (by decide)]
  cases given : configText lib config "dingtalk_robot_webhook_url" with
  | none => exact same_pure _
  | some url =>
    have secret := signed (by simp [given])
    refine (same_robotUrl url secret).bind fun target target' same => ?_
    cases same
    refine (same_ofExcept _).bind fun _ _ _ => same_sendRequest _ _ ?_ _
    rfl

theorem same_vendor (byVendor : sendsByVendor lib config)
    (sends : SendsAlike lib message.channelType config config') :
    Same instant (sendOutboundViaVendor lib config message)
      (sendOutboundViaVendor lib config' message) := by
  unfold sendOutboundViaVendor
  cases type : message.channelType with
  | wecom => exact same_wecom reads (sends.tokens byVendor _ (type ▸ .wecom))
  | feishu => exact same_feishu reads (sends.tokens byVendor _ (type ▸ .feishu))
  | dingtalk =>
    unfold sendViaDingtalk
    rw [← reads.text lib "dingtalk_outbound_kind" (by decide)]
    by_cases notices : lib.lower
        ((configText lib config "dingtalk_outbound_kind").getD "robot_webhook") = "work_notice"
    · rw [if_pos notices, if_pos notices]
      exact same_workNotice reads (sends.tokens byVendor _ (type ▸ .dingtalk notices))
    · rw [if_neg notices, if_neg notices]
      exact same_robot reads (sends.robot byVendor type notices)
  | webWidget | restApi => exact same_pure _

theorem same_base (sends : SendsAlike lib message.channelType config config') :
    Same instant (baseSendOutbound lib config message requestId)
      (baseSendOutbound lib config' message requestId) := by
  unfold baseSendOutbound
  rw [← reads.text lib "outbound_mode" (by decide)]
  by_cases byVendor :
      (configText lib config "outbound_mode").getD "outbound_webhook" = "vendor_api"
  · rw [if_pos byVendor, if_pos byVendor]
    exact same_vendor reads byVendor sends
  · rw [if_neg byVendor, if_neg byVendor]
    exact same_viaWebhook reads

theorem same_sendOutbound (sends : SendsAlike lib message.channelType config config') :
    Same instant (sendOutbound lib config message requestId)
      (sendOutbound lib config' message requestId) := by
  have base : Same instant (baseSendOutbound lib config message requestId)
      (baseSendOutbound lib config' message requestId) := same_base reads sends
  unfold sendOutbound
  rw [← reads "outbound_webhook_url" (by decide)]
  split
  · exact same_ite Iff.rfl base (same_pure _)
  · exact same_ite Iff.rfl base (same_pure _)
  · exact base

end Sending

section Asking

variable {lib : ChannelLibrary} {instant : Nat} {α : Type}

theorem failuresAlike_refl (x : Exc) : FailuresAlike x x := .inl rfl

/-- Inside `try`, what raises may raise another exception that is reported the same. -/
abbrev Caught (instant : Nat) (m m' : ChannelAction α) : Prop :=
  Action.Paired (pairing instant) FailuresAlike (· = ·) m m'

theorem caught_of_same {m m' : ChannelAction α} (same : Same instant m m') : Caught instant m m' :=
  same.mono (fun _ _ => .inl) fun _ _ => id

def RequestsAlike (request request' : Chat.AgentRunRequest) : Prop :=
  { request with maxTokens := none } = { request' with maxTokens := none }

theorem checkedRequest_invalid {request : Chat.AgentRunRequest} {maxTokens : Int}
    (invalid : ¬ (1 ≤ maxTokens ∧ maxTokens ≤ 8192)) :
    checkedRequest request maxTokens =
      .error (.other "ValidationError" "1 validation error for AgentRunRequest") := by
  unfold checkedRequest
  exact if_neg fun h => invalid h.2.2.2.2

theorem checkedRequest_valid (request : Chat.AgentRunRequest) {maxTokens maxTokens' : Int}
    (valid : 1 ≤ maxTokens ∧ maxTokens ≤ 8192) (valid' : 1 ≤ maxTokens' ∧ maxTokens' ≤ 8192) :
    ResultsPaired FailuresAlike RequestsAlike (checkedRequest request maxTokens)
      (checkedRequest request maxTokens') := by
  unfold checkedRequest
  simp only [valid.1, valid.2, valid'.1, valid'.2, and_true]
  split
  · rfl
  · exact failuresAlike_refl _

theorem paired_request {channel channel' : ConfiguredChannel} (request : Chat.AgentRunRequest)
    (limits : Option.Rel FailuresAlike (limitFailure lib channel) (limitFailure lib channel')) :
    ResultsPaired FailuresAlike RequestsAlike
      (configuredMaxTokens lib channel >>= checkedRequest request)
      (configuredMaxTokens lib channel' >>= checkedRequest request) := by
  unfold limitFailure at limits
  cases first : configuredMaxTokens lib channel with
  | error x =>
    cases second : configuredMaxTokens lib channel' with
    | error y =>
      rw [first, second] at limits
      cases limits with
      | some alike => exact alike
    | ok maxTokens' =>
      rw [first, second] at limits
      dsimp only at limits
      by_cases valid : 1 ≤ maxTokens' ∧ maxTokens' ≤ 8192
      · rw [if_pos valid] at limits
        cases limits
      · rw [if_neg valid] at limits
        cases limits with
        | some alike =>
          change ResultsPaired _ _ (.error x) (checkedRequest request maxTokens')
          rw [checkedRequest_invalid valid]
          exact alike
  | ok maxTokens =>
    cases second : configuredMaxTokens lib channel' with
    | error y =>
      rw [first, second] at limits
      dsimp only at limits
      by_cases valid : 1 ≤ maxTokens ∧ maxTokens ≤ 8192
      · rw [if_pos valid] at limits
        cases limits
      · rw [if_neg valid] at limits
        cases limits with
        | some alike =>
          change ResultsPaired _ _ (checkedRequest request maxTokens) (.error y)
          rw [checkedRequest_invalid valid]
          exact alike
    | ok maxTokens' =>
      rw [first, second] at limits
      dsimp only at limits
      change ResultsPaired _ _ (checkedRequest request maxTokens)
        (checkedRequest request maxTokens')
      by_cases valid : 1 ≤ maxTokens ∧ maxTokens ≤ 8192
      · rw [if_pos valid] at limits
        by_cases valid' : 1 ≤ maxTokens' ∧ maxTokens' ≤ 8192
        · exact checkedRequest_valid request valid valid'
        · rw [if_neg valid'] at limits
          cases limits
      · rw [checkedRequest_invalid valid]
        by_cases valid' : 1 ≤ maxTokens' ∧ maxTokens' ≤ 8192
        · rw [if_neg valid, if_pos valid'] at limits
          cases limits
        · rw [checkedRequest_invalid valid']
          exact failuresAlike_refl _

theorem caught_ask {request request' : Except Exc Chat.AgentRunRequest} (agentKey : String)
    (alike : ResultsPaired FailuresAlike RequestsAlike request request') :
    Caught instant
      (Action.ofExcept request >>= fun asked =>
        Action.perform (ChannelCall.runAgent agentKey asked) >>= fun answer =>
          Action.ofExcept answer)
      (Action.ofExcept request' >>= fun asked =>
        Action.perform (ChannelCall.runAgent agentKey asked) >>= fun answer =>
          Action.ofExcept answer) := by
  refine (Action.paired_ofExcept alike).bind fun asked asked' both => ?_
  refine (paired_call instant (.runAgent agentKey asked) (.runAgent agentKey asked') ⟨rfl, both⟩).bind fun answer answer' alike => ?_
  cases (alike : answer = answer')
  exact caught_of_same (same_ofExcept answer)

end Asking

def LimitsAlike (lib : ChannelLibrary) (channel : ChannelRecord)
    (settings settings' : ChannelSettings) : Prop :=
  Option.Rel FailuresAlike (limitFailure lib (configured channel settings))
    (limitFailure lib (configured channel settings'))

section

variable {channel : ChannelRecord} {settings settings' : ChannelSettings}
  (reads : ReadAlike settings.config settings'.config)

include reads

theorem agentKey_configured : agentKeyForChannel (configured channel settings).config =
    agentKeyForChannel (configured channel settings').config := reads.agentKey

theorem get_configured (key : String) (mem : key ∈ openKeys) :
    (configured channel settings).config.get key = (configured channel settings').config.get key :=
  reads key mem

end

section Messages

variable {lib : ChannelLibrary} {channel : ChannelRecord} {settings settings' : ChannelSettings}
variable {instant : Nat} {normalized : InboundMessage} {requestId : Option String}
variable {draws : InboundDraws} {dryRun : Bool}

theorem same_openConversation :
    Same instant (openConversation (configured channel settings) normalized draws)
      (openConversation (configured channel settings') normalized draws) := by
  unfold openConversation
  refine (paired_call instant (.selectConversations) (.selectConversations) trivial).bind fun answer answer' alike => ?_
  cases (alike : answer = answer')
  refine (same_ofExcept answer).bind fun conversations conversations' same => ?_
  cases same
  split
  · exact same_pure _
  · refine (paired_call instant (.flush _) (.flush _) rfl).bind fun answer answer' alike => ?_
    cases (alike : answer = answer')
    exact (same_ofExcept answer).bind fun _ _ _ => same_pure _

theorem same_fileQuestion :
    Same instant (fileQuestion (configured channel settings) normalized requestId draws)
      (fileQuestion (configured channel settings') normalized requestId draws) := by
  unfold fileQuestion
  refine same_openConversation.bind fun conversation conversation' same => ?_
  cases same
  exact (same_commit _).bind fun _ _ _ => same_pure _

theorem agentContext_eq (reads : ReadAlike settings.config settings'.config)
    (conversation : Option ChannelConversation) :
    agentContext lib (configured channel settings) normalized conversation =
      agentContext lib (configured channel settings') normalized conversation := by
  unfold agentContext
  rw [get_configured reads "agent_context" (by decide)]
  rfl

theorem agentRequest_eq (lib : ChannelLibrary) (channel : ChannelRecord)
    (normalized : InboundMessage) (reads : ReadAlike settings.config settings'.config)
    (conversation : Option ChannelConversation) :
    ∃ request : Chat.AgentRunRequest,
      agentRequest lib (configured channel settings) normalized conversation =
        (configuredMaxTokens lib (configured channel settings) >>= checkedRequest request) ∧
      agentRequest lib (configured channel settings') normalized conversation =
        (configuredMaxTokens lib (configured channel settings') >>= checkedRequest request) := by
  refine ⟨_, rfl, ?_⟩
  rw [agentContext_eq reads, get_configured reads "model_key" (by decide),
    get_configured reads "routing_key" (by decide)]
  rfl

section Alike

variable (reads : ReadAlike settings.config settings'.config)

include reads

theorem caught_runAgent (conversation : Option ChannelConversation)
    (limits : LimitsAlike lib channel settings settings') :
    Caught instant (runAgent lib (configured channel settings) normalized conversation)
      (runAgent lib (configured channel settings') normalized conversation) := by
  obtain ⟨request, first, second⟩ := agentRequest_eq lib channel normalized reads conversation
  unfold runAgent
  rw [first, second, agentKey_configured reads]
  exact caught_ask _ (paired_request request limits)

theorem same_deliverAnswer (conversation : ChannelConversation) (response : Chat.AgentRunResponse)
    (sends : SendsAlike lib channel.channelType settings.config settings'.config) :
    Same instant
      (deliverAnswer lib (configured channel settings) normalized conversation requestId response
        draws)
      (deliverAnswer lib (configured channel settings') normalized conversation requestId response
        draws) := by
  unfold deliverAnswer routedDetails
  rw [agentKey_configured reads]
  refine (same_sendOutbound reads sends).bind fun delivery delivery' same => ?_
  cases same
  refine (same_audit lib _ _ _ _).bind fun _ _ _ => ?_
  exact (same_commit _).bind fun _ _ _ => same_pure _

theorem routedResult_eq (conversation : Option ChannelConversation)
    (response : Chat.AgentRunResponse) (delivery : Option OutboundDeliveryResult) :
    routedResult lib (configured channel settings) normalized conversation response delivery =
      routedResult lib (configured channel settings') normalized conversation response
        delivery := by
  unfold routedResult
  rw [agentKey_configured reads]
  rfl

theorem caught_routeMessage
    (sends : SendsAlike lib channel.channelType settings.config settings'.config)
    (limits : LimitsAlike lib channel settings settings') :
    Caught instant
      (routeMessage lib (configured channel settings) normalized requestId dryRun draws)
      (routeMessage lib (configured channel settings') normalized requestId dryRun draws) := by
  unfold routeMessage
  split
  · refine (caught_runAgent reads none limits).bind fun response response' same => ?_
    cases same
    rw [routedResult_eq reads]
    exact caught_of_same (same_pure _)
  · refine (caught_of_same same_fileQuestion).bind fun conversation conversation' same => ?_
    cases same
    refine (caught_runAgent reads _ limits).bind fun response response' same => ?_
    cases same
    refine (caught_of_same (same_deliverAnswer reads _ _ sends)).bind
      fun delivery delivery' same => ?_
    cases same
    rw [routedResult_eq reads]
    exact caught_of_same (same_pure _)

theorem failure_eq {x y : Exc} (told : safeProcessingError (errorText x) =
    safeProcessingError (errorText y)) :
    ChannelProcessing.failure lib (configured channel settings) normalized requestId x =
      ChannelProcessing.failure lib (configured channel settings') normalized requestId y := by
  unfold ChannelProcessing.failure
  rw [agentKey_configured reads, told]
  rfl

theorem same_processInboundMessage
    (sends : channel.status = .active →
      SendsAlike lib channel.channelType settings.config settings'.config)
    (limits : channel.status = .active → LimitsAlike lib channel settings settings') :
    Same instant
      (processInboundMessage lib (configured channel settings) normalized requestId dryRun draws)
      (processInboundMessage lib (configured channel settings') normalized requestId dryRun
        draws) := by
  unfold processInboundMessage
  by_cases active : channel.status = .active
  · refine same_ite Iff.rfl (same_pure _) (same_ite Iff.rfl (same_pure _) ?_)
    refine (caught_routeMessage reads (sends active) (limits active)).tryCatch
      fun x y alike => ?_
    rcases alike with same | ⟨ordinary, ordinary', told⟩
    · cases same
      refine same_ite Iff.rfl ?_ (same_throw x)
      refine same_rollback fun answer => (same_ofExcept answer).bind fun _ _ _ => ?_
      rw [failure_eq reads rfl]
      exact same_pure _
    · rw [if_pos ordinary, if_pos ordinary']
      refine same_rollback fun answer => (same_ofExcept answer).bind fun _ _ _ => ?_
      rw [failure_eq reads told]
      exact same_pure _
  · have inactive : (configured channel settings).status ≠ .active := active
    have inactive' : (configured channel settings').status ≠ .active := active
    rw [if_pos inactive, if_pos inactive']
    exact same_pure _

end Alike

end Messages

section Answers

variable {lib : ChannelLibrary} {channel : ChannelRecord} {settings settings' : ChannelSettings}
variable {instant : Nat}

section Webhook

variable {normalized : InboundMessage} {request : WebhookRequest}
variable {draws : InboundDraws} {signature : SignatureVerification}

variable (masked : Masked lib (configured channel settings) (configured channel settings'))
variable (reads : ReadAlike settings.config settings'.config)

include masked

theorem receivedDetails_eq :
    receivedDetails lib (configured channel settings) normalized request =
      receivedDetails lib (configured channel settings') normalized request := by
  unfold receivedDetails
  rw [masked.flagged]
  rfl

theorem webhookAck_eq (conversationKey : String) (processing : Option ChannelProcessingResult) :
    webhookAck request (some (configured channel settings)) conversationKey signature processing =
      webhookAck request (some (configured channel settings')) conversationKey signature
        processing := by
  unfold webhookAck webhookAckMessage
  simp only [Option.any_some, webhookAccepted, masked.flagged]
  rfl

include reads

theorem same_processWebhook (requestId : Option String) :
    Same instant (processWebhook lib (configured channel settings) normalized requestId draws)
      (processWebhook lib (configured channel settings') normalized requestId draws) := by
  unfold processWebhook
  rw [masked.flagged]
  refine same_ite Iff.rfl (same_pure _) (same_ite Iff.rfl (same_pure _) ?_)
  exact same_processInboundMessage reads masked.sends masked.limits

theorem same_handleWebhook :
    Same instant (handleWebhook lib (configured channel settings) request signature draws)
      (handleWebhook lib (configured channel settings') request signature draws) := by
  unfold handleWebhook recordWebhookAudit
  dsimp only
  rw [receivedDetails_eq masked]
  refine (same_audit lib _ _ _ _).bind fun _ _ _ => same_commitAudit.bind fun _ _ _ => ?_
  refine (same_processWebhook masked reads _).bind fun processing processing' same => ?_
  cases same
  rw [webhookAck_eq masked]
  refine (same_audit lib _ _ _ _).bind fun _ _ _ => same_commitAudit.bind fun _ _ _ => ?_
  exact same_pure _

end Webhook

section Push

variable {request : ChannelPushRequest} {requestId : Option String} {outcome : PushOutcome}

theorem same_concludePush (answeredFor : Option String) (message : String) :
    Same instant
      (concludePush lib (configured channel settings) request requestId outcome answeredFor
        message)
      (concludePush lib (configured channel settings') request requestId outcome answeredFor
        message) :=
  (same_audit lib _ _ _ _).bind fun _ _ _ => same_commitAudit.bind fun _ _ _ => same_pure _

variable (reads : ReadAlike settings.config settings'.config)

include reads

theorem same_deliverPush (text : String) (sentFor : Option String)
    (sends : SendsAlike lib channel.channelType settings.config settings'.config) :
    Same instant
      (deliverPush lib (configured channel settings) request requestId text sentFor outcome)
      (deliverPush lib (configured channel settings') request requestId text sentFor outcome) := by
  unfold deliverPush
  refine (same_sendOutbound reads sends).bind fun delivery delivery' same => ?_
  cases same
  exact same_concludePush _ _

theorem resolvePushAgentKey_eq : resolvePushAgentKey (configured channel settings) request =
    resolvePushAgentKey (configured channel settings') request := by
  unfold resolvePushAgentKey
  rw [agentKey_configured reads]

theorem pushContext_eq : pushContext lib (configured channel settings) request =
    pushContext lib (configured channel settings') request := by
  unfold pushContext
  rw [get_configured reads "agent_context" (by decide)]
  rfl

theorem caught_askPushAgent
    (limits : LimitsAlike lib channel settings settings') :
    Caught instant (askPushAgent lib (configured channel settings) request)
      (askPushAgent lib (configured channel settings') request) := by
  unfold askPushAgent pushAgentRequest
  rw [resolvePushAgentKey_eq reads, pushContext_eq reads,
    get_configured reads "model_key" (by decide), get_configured reads "routing_key" (by decide)]
  exact caught_ask _ (paired_request _ limits)

theorem same_runPushAgent
    (limits : LimitsAlike lib channel settings settings') :
    Same instant (runPushAgent lib (configured channel settings) request)
      (runPushAgent lib (configured channel settings') request) := by
  unfold runPushAgent
  refine Action.Paired.tryCatch (F := FailuresAlike) ?_ fun x y alike => ?_
  · refine (caught_askPushAgent reads limits).bind fun response response' same => ?_
    cases same
    exact caught_of_same (same_pure _)
  · rcases alike with same | ⟨ordinary, ordinary', told⟩
    · cases same
      refine same_ite Iff.rfl ?_ (same_throw x)
      exact same_rollback fun answer => (same_ofExcept answer).bind fun _ _ _ => same_pure _
    · rw [if_pos ordinary, if_pos ordinary', told]
      exact same_rollback fun answer => (same_ofExcept answer).bind fun _ _ _ => same_pure _

theorem same_pushByAgent
    (sends : SendsAlike lib channel.channelType settings.config settings'.config)
    (limits : LimitsAlike lib channel settings settings') :
    Same instant (pushByAgent lib (configured channel settings) request requestId)
      (pushByAgent lib (configured channel settings') request requestId) := by
  unfold pushByAgent
  rw [resolvePushAgentKey_eq reads]
  refine (same_runPushAgent reads limits).bind fun answer answer' same => ?_
  cases same
  cases answer with
  | ok response => exact same_deliverPush reads _ _ sends
  | error error => exact same_concludePush _ _

theorem same_pushToChannel
    (masked : Masked lib (configured channel settings) (configured channel settings')) :
    Same instant (pushToChannel lib (configured channel settings) request requestId)
      (pushToChannel lib (configured channel settings') request requestId) := by
  unfold pushToChannel
  by_cases active : channel.status = .active
  · refine same_ite Iff.rfl (same_concludePush _ _) ?_
    cases request.mode with
    | direct => exact same_deliverPush reads _ _ (masked.sends active)
    | agent => exact same_pushByAgent reads (masked.sends active) (masked.limits active)
  · have inactive : (configured channel settings).status ≠ .active := active
    have inactive' : (configured channel settings').status ≠ .active := active
    rw [if_pos inactive, if_pos inactive']
    exact same_concludePush _ _

end Push

theorem sanitize_iff {config config' : JsonDict}
    (keys : config.map Prod.fst = config'.map Prod.fst) :
    sanitizeConfig lib config = sanitizeConfig lib config' ↔
      shownEntries lib config = shownEntries lib config' := by
  induction config generalizing config' with
  | nil =>
    rw [List.map_eq_nil_iff.mp keys.symm]
    exact ⟨fun _ => rfl, fun _ => rfl⟩
  | cons entry rest ih =>
    cases config' with
    | nil => cases keys
    | cons entry' rest' =>
      obtain ⟨key, value⟩ := entry
      obtain ⟨key', value'⟩ := entry'
      obtain ⟨same, others⟩ := List.cons.inj keys
      subst same
      have tail := ih others
      unfold sanitizeConfig shownEntries at tail ⊢
      by_cases shown : isShown lib key = true
      · have kept : ∀ value : Json, (if key = "secret_health" then (key, value)
            else if isSensitiveKey lib key then (key, Json.str "***") else (key, value)) =
            (key, value) := by
          intro value
          unfold isShown at shown
          split
          · rfl
          · rename_i other
            rw [beq_false_of_ne other, Bool.false_or, Bool.not_eq_true'] at shown
            rw [if_neg (by simp [shown])]
        simp only [List.map_cons, kept, List.filter_cons, shown, if_true, List.cons.injEq, tail]
      · have masked : ∀ value : Json, (if key = "secret_health" then (key, value)
            else if isSensitiveKey lib key then (key, Json.str "***") else (key, value)) =
            (key, Json.str "***") := by
          intro value
          unfold isShown at shown
          simp only [Bool.or_eq_true, beq_iff_eq, Bool.not_eq_true', not_or,
            Bool.not_eq_false] at shown
          rw [if_neg shown.1, if_pos shown.2]
        simp only [List.map_cons, masked, List.filter_cons, if_neg shown, List.cons.injEq,
          true_and, tail]

theorem publicEntries_keys (lib : ChannelLibrary) (config : JsonDict) :
    (publicEntries lib config).map Prod.fst = config.map Prod.fst := by
  induction config with
  | nil => rfl
  | cons entry rest ih =>
    obtain ⟨key, value⟩ := entry
    rw [publicEntries, List.map_cons, ih]
    rfl

theorem publicConfig_keys (lib : ChannelLibrary) (config : JsonDict) :
    (publicConfig lib config).map Prod.fst = config.map Prod.fst := by
  unfold publicConfig
  rw [List.map_map, ← publicEntries_keys lib config]
  refine List.map_congr_left fun entry _ => ?_
  dsimp only [Function.comp]
  split <;> rfl

theorem listed_iff (differ : SecretsDiffer lib settings settings') :
    toResponse lib (configured channel settings) = toResponse lib (configured channel settings') ↔
      channelSecretConfigured (configured channel settings).toChannelRecord =
          channelSecretConfigured (configured channel settings').toChannelRecord ∧
        shownEntries lib settings.config = shownEntries lib settings'.config := by
  have keys : settings.config.map Prod.fst = settings'.config.map Prod.fst := by
    rw [← publicConfig_keys lib settings.config, differ, publicConfig_keys]
  rw [← sanitize_iff keys]
  unfold toResponse
  simp only [ChannelResponse.mk.injEq, configured, true_and, and_true]
  exact and_comm

theorem auditOf_together {e e' : Event ChannelCall ChannelAnswer}
    (together : Together e.1 e'.1) : auditOf e = auditOf e' := by
  obtain ⟨call, answer⟩ := e
  obtain ⟨call', answer'⟩ := e'
  cases call with
  | audit event =>
    cases call' with
    | audit event' => exact congrArg some together
    | _ => exact together.elim
  | _ =>
    cases call' with
    | audit event' => exact together.elim
    | _ => rfl

theorem audits_shared (instant : Nat) (t : ChannelTrace) :
    audits (Program.shared (pairing instant) t) = audits t := by
  induction t with
  | nil => rfl
  | cons e rest ih =>
    obtain ⟨call, answer⟩ := e
    cases call with
    | clock => exact ih
    | audit event => exact congrArg (event :: ·) ih
    | _ => exact ih

theorem audits_together {t t' : ChannelTrace}
    (together : List.Forall₂ (fun e e' => Together e.1 e'.1) t t') : audits t = audits t' := by
  induction together with
  | nil => rfl
  | cons both _ ih =>
    unfold audits at ih ⊢
    rw [List.filterMap_cons, List.filterMap_cons, auditOf_together both, ih]

theorem sameOutside_of_same {α : Type} {m m' : ChannelAction α}
    (same : ∀ instant, Same instant m m') : SameOutside m m' := by
  intro instant t t' r r' run run' alike
  obtain ⟨together, related⟩ := ((same instant).run ()).runs run run' alike
  refine ⟨?_, related.eq⟩
  rw [← audits_shared instant t, ← audits_shared instant t']
  exact audits_together together

end Answers

/-- Where no secret material is shown or sent in the open, none of it surfaces; and where none
surfaces, none is shown. -/
theorem secrets_hidden (lib : ChannelLibrary) (sig : SignatureLibrary) (channel : ChannelRecord)
    (settings settings' : ChannelSettings) (lowers : LowersLetters lib)
    (differ : SecretsDiffer lib settings settings') :
    (Masked lib (configured channel settings) (configured channel settings') →
      Hidden lib sig (configured channel settings) (configured channel settings')) ∧
    (Hidden lib sig (configured channel settings) (configured channel settings') →
      channelSecretConfigured (configured channel settings).toChannelRecord =
          channelSecretConfigured (configured channel settings').toChannelRecord ∧
        shownEntries lib settings.config = shownEntries lib settings'.config) := by
  refine ⟨fun masked => ?_, fun hidden => (listed_iff differ).mp hidden.listed⟩
  have reads : ReadAlike settings.config settings'.config :=
    readAlike_of_shown lowers masked.shown
  refine ⟨(listed_iff differ).mpr ⟨masked.flagged, masked.shown⟩, fun request now draws same => ?_,
    fun request requestId => ?_⟩
  · refine sameOutside_of_same fun instant => ?_
    unfold receiveChannelWebhook
    dsimp only
    rw [same]
    refine (same_ofExcept _).bind fun signature signature' equal => ?_
    cases equal
    exact same_handleWebhook masked reads
  · exact sameOutside_of_same fun instant => same_pushToChannel reads masked

def robotSettings (token : String) : ChannelSettings where
  secret := none
  previousSecret := none
  config := [("outbound_mode", .str "vendor_api"),
    ("dingtalk_robot_webhook_url",
      .str ("https://oapi.dingtalk.com/robot/send?access_token=" ++ token))]

def robotChannel (token : String) : ConfiguredChannel :=
  configured { ChannelFiling.shop with channelType := .dingtalk } (robotSettings token)

def taking : (call : ChannelCall) → ChannelAnswer call :=
  answersWith (some (.obj [("errcode", .num 0)]))

def robotPush (token : String) : Program ChannelCall ChannelAnswer
    (Except Exc ChannelPushResponse) :=
  (pushToChannel plainLibrary (robotChannel token)
    { externalUserId := "ann", text := "Hi" } none).run ()

def targetOf : Except Exc ChannelPushResponse → Option String
  | .ok response => response.outboundDelivery.bind fun delivery => delivery.target
  | .error _ => none

theorem taking_alike (call call' : ChannelCall) (together : Together call call') :
    Alike call call' (taking call) (taking call') := by
  cases call with
  | runAgent | accessToken | post =>
    cases call' <;> first | rfl | exact together.elim
  | clock => exact together.elim
  | _ => cases call' <;> first | rfl | exact together.elim

theorem robot_public (token : String) :
    publicConfig plainLibrary (robotSettings token).config =
      [("outbound_mode", .str "vendor_api"), ("dingtalk_robot_webhook_url",
        .str (publicUrl ("https://oapi.dingtalk.com/robot/send?access_token=" ++ token)))] := by
  have mode : isSensitiveKey plainLibrary "outbound_mode" = false := by
    decide +kernel
  have address : isSensitiveKey plainLibrary "dingtalk_robot_webhook_url" =
      false := by decide +kernel
  simp [publicConfig, robotSettings, publicEntries, publicValue, mode, address]

theorem robots_differ :
    SecretsDiffer plainLibrary (robotSettings "a") (robotSettings "b") := by
  have same : publicUrl ("https://oapi.dingtalk.com/robot/send?access_token=" ++ "a") =
      publicUrl ("https://oapi.dingtalk.com/robot/send?access_token=" ++ "b") := by
    decide +kernel
  unfold SecretsDiffer
  rw [robot_public, robot_public, same]

theorem robot_token_is_told :
    ¬ ∀ (lib : ChannelLibrary) (sig : SignatureLibrary) (channel : ChannelRecord)
      (settings settings' : ChannelSettings), LowersLetters lib →
      SecretsDiffer lib settings settings' →
      Hidden lib sig (configured channel settings) (configured channel settings') := by
  intro claimed
  have hidden := claimed plainLibrary PollSignatures.plainSignatures
    { ChannelFiling.shop with channelType := .dingtalk } (robotSettings "a") (robotSettings "b")
    (fun _ _ => rfl) robots_differ
  have told := (hidden.push { externalUserId := "ann", text := "Hi" } none 0 _ _ _ _
    (Program.follow_runs taking (robotPush "a")) (Program.follow_runs taking (robotPush "b"))
    (Program.answersAlike_follow taking_alike (fun call clock => by
      cases call with
      | clock => rfl
      | _ => cases clock) _ _)).2
  have targets := congrArg targetOf told
  revert targets
  decide +kernel

def signingSettings (secret : String) : ChannelSettings where
  secret := some secret
  previousSecret := none
  config := [("outbound_webhook_url", .str "https://example.test/hook"),
    ("outbound_webhook_secret", .str secret)]

theorem signing_by_webhook :
    ¬ sendsByVendor plainLibrary (signingSettings "a").config := by
  unfold sendsByVendor
  decide +kernel

theorem signing_secret_is_hidden :
    Hidden plainLibrary PollSignatures.plainSignatures
      (configured ChannelFiling.shop (signingSettings "a"))
      (configured ChannelFiling.shop (signingSettings "b")) := by
  refine (secrets_hidden plainLibrary PollSignatures.plainSignatures
    ChannelFiling.shop (signingSettings "a") (signingSettings "b") (fun _ _ => rfl) rfl).1 ?_
  refine ⟨rfl, rfl, fun _ => ⟨fun byVendor => ?_, fun byVendor => ?_⟩, fun _ => ?_⟩
  · exact absurd byVendor signing_by_webhook
  · exact absurd byVendor signing_by_webhook
  · exact .none

end AgentHive.ChannelSecrets
