import AgentHive.Process.Action
import AgentHive.Services.ChannelInbound

/-!
The adapters of the channels, as far as they send.

An answer goes to a webhook of the operator or to the interface of the vendor, in one request. What
comes back is read after the handler of the request has been left.
-/

namespace AgentHive

open Rag (Json JsonDict)

structure ConfiguredChannel extends ChannelRecord where
  config : JsonDict

structure OutboundMessage where
  channelId : UUID
  channelType : ChannelType
  channelKey : String
  externalUserId : Option String
  conversationKey : String
  text : String
  traceId : Option String
  requestId : Option String

structure OutboundDeliveryResult where
  attempted : Bool
  delivered : Bool
  mode : String
  statusCode : Option Nat := none
  target : Option String := none
  error : Option String := none
  details : JsonDict := []

structure OutboundRequest where
  url : String
  params : List (String × String) := []
  headers : List (String × String) := []
  payload : JsonDict

structure HttpAnswer where
  statusCode : Nat
  body : Option Json

inductive PostFailure
  | http (className : String)
  | other (x : Exc)

/-- `str`, `int` and `float`, which may raise, and the signatures. -/
structure ChannelLibrary where
  texts : Chat.ChatTexts
  int : Json → Except Exc Int
  float : Json → Except Exc Unit
  lower : String → String
  dumps : JsonDict → String
  nonce : String → String → Option String → String
  sign : String → String → String → JsonDict → String
  robotSign : String → String → String

structure AuditEvent where
  action : String
  status : String
  requestId : Option String
  details : Json

inductive ChannelCall
  | selectConversations
  | flush (row : ChannelConversation)
  | commit (rows : List ChannelMessage)
  | rollback
  | clock
  | runAgent (agentKey : String) (request : Chat.AgentRunRequest)
  | accessToken (channelType : ChannelType) (config : JsonDict)
  | post (request : OutboundRequest)
  | audit (event : AuditEvent)

abbrev ChannelAnswer : ChannelCall → Type
  | .selectConversations => Except Exc (List ChannelConversation)
  | .flush _ | .commit _ | .rollback | .audit _ => Except Exc Unit
  | .clock => Nat
  | .runAgent _ _ => Except Exc Chat.AgentRunResponse
  | .accessToken _ _ => Except Exc (Option String)
  | .post _ => Except PostFailure HttpAnswer

abbrev ChannelAction (α : Type) : Type := Process.Action ChannelCall ChannelAnswer Unit Exc α

abbrev ChannelTrace : Type := List (Process.Event ChannelCall ChannelAnswer)

namespace ChannelOutbound

open Process (Action)
open ChannelInbound (orText jsonText)

variable (lib : ChannelLibrary)

def stringOrNone (value : Json) : Option String :=
  match value with
  | .null => none
  | value => some (lib.texts.str value)

variable (config : JsonDict)

def configText (key : String) : Option String :=
  (stringOrNone lib (JsonDict.get config key)).filter (· ≠ "")

def rstripSlashes (text : String) : String :=
  String.ofList (text.toList.reverse.dropWhile (· == '/')).reverse

def baseUrl (key standard : String) : String :=
  rstripSlashes ((configText lib config key).getD standard)

/-- `float(config.get("outbound_timeout_seconds") or 8.0)`. -/
def timeout : Except Exc Unit :=
  let value := JsonDict.get config "outbound_timeout_seconds"
  lib.float (if value.truthy then value else .num 8)

def checkedResult (result : OutboundDeliveryResult) : Except Exc OutboundDeliveryResult :=
  if (result.target.getD "").length ≤ 500 ∧ (result.error.getD "").length ≤ 200 then .ok result
  else .error (.other "ValidationError" "1 validation error for OutboundDeliveryResult")

def notConfigured (mode : String) (details : JsonDict) : OutboundDeliveryResult where
  attempted := false
  delivered := false
  mode := mode
  details := details

def vendorNotConfigured (channelType : ChannelType) (reason : String) : OutboundDeliveryResult :=
  notConfigured "vendor_api_not_configured"
    [("reason", .str reason), ("channel_type", .str channelType.value)]

structure VendorEnvelope where
  response : String
  code : String
  text : String
  codeDetail : String
  textDetail : String

def isZero : Json → Bool
  | .num q => q == 0
  | .bool b => !b
  | _ => false

def typeName : Json → String
  | .null => "NoneType"
  | .bool _ => "bool"
  | .num _ => "int"
  | .str _ => "str"
  | .arr _ => "list"
  | .obj _ => "dict"

/-- `body.get`, which only dictionaries have. -/
def bodyFields : Json → Except Exc JsonDict
  | .obj entries => .ok entries
  | body => .error (.attribute ("'" ++ typeName body ++ "' object has no attribute 'get'"))

def isSuccess (statusCode : Nat) : Bool := decide (200 ≤ statusCode ∧ statusCode < 300)

def vendorResult (envelope : VendorEnvelope) (mode target : String) (response : HttpAnswer) :
    Except Exc OutboundDeliveryResult :=
  if isSuccess response.statusCode then do
    let body := response.body.getD (.obj [])
    let fields ← bodyFields body
    let code := JsonDict.get fields envelope.code
    let failure := if isZero code then [] else
      [(envelope.codeDetail, code), (envelope.textDetail, JsonDict.get fields envelope.text)]
    checkedResult
      { attempted := true, delivered := isZero code, mode := mode
        statusCode := some response.statusCode, target := some target
        details := (envelope.response, body) :: failure }
  else
    checkedResult
      { attempted := true, delivered := false, mode := mode
        statusCode := some response.statusCode, target := some target }

def webhookResult (mode target : String) (response : HttpAnswer) :
    Except Exc OutboundDeliveryResult :=
  checkedResult
    { attempted := true, delivered := isSuccess response.statusCode, mode := mode
      statusCode := some response.statusCode, target := some target }

def sendRequest (mode target : String) (request : OutboundRequest)
    (read : HttpAnswer → Except Exc OutboundDeliveryResult) :
    ChannelAction OutboundDeliveryResult := do
  let answer : Except PostFailure HttpAnswer ← Action.perform (ChannelCall.post request)
  Action.ofExcept (match answer with
    | .ok response => read response
    | .error (.http className) =>
      checkedResult
        { attempted := true, delivered := false, mode := mode, target := some target
          error := some className }
    | .error (.other x) => .error x)

variable (message : OutboundMessage) (requestId : Option String)

def webhookPayload : JsonDict :=
  [("channel_key", .str message.channelKey),
    ("channel_type", .str message.channelType.value),
    ("conversation_key", .str message.conversationKey),
    ("external_user_id", jsonText message.externalUserId),
    ("message_type", .str "text"),
    ("request_id", jsonText ((requestId.filter (· ≠ "")).or message.requestId)),
    ("text", .str message.text),
    ("trace_id", jsonText message.traceId)]

def signedHeaders (secret : String) (message : OutboundMessage) (requestId : Option String)
    (milliseconds : Nat) : List (String × String) :=
  let timestamp := toString (milliseconds / 1000)
  let nonce := lib.nonce timestamp message.conversationKey requestId
  [("content-type", "application/json"), ("x-agenthive-nonce", nonce),
    ("x-agenthive-signature",
      "sha256=" ++ lib.sign secret timestamp nonce (webhookPayload message requestId)),
    ("x-agenthive-timestamp", timestamp)]

def webhookHeaders : ChannelAction (List (String × String)) :=
  match configText lib config "outbound_webhook_secret" with
  | none => pure [("content-type", "application/json")]
  | some secret => do
    let milliseconds : Nat ← Action.perform ChannelCall.clock
    pure (signedHeaders lib secret message requestId milliseconds)

def sendOutboundViaWebhook : ChannelAction OutboundDeliveryResult :=
  match configText lib config "outbound_webhook_url" with
  | none =>
    pure (notConfigured "not_configured"
      [("reason", .str "outbound_webhook_url_not_configured")])
  | some url => do
    let headers ← webhookHeaders lib config message requestId
    Action.ofExcept (timeout lib config)
    sendRequest "outbound_webhook" url
      { url := url, headers := headers, payload := webhookPayload message requestId }
      (webhookResult "outbound_webhook" url)

/-- `get_access_token`, where the configuration has no token itself. -/
def tokenFor (channelType : ChannelType) (config : JsonDict) (key : String) :
    ChannelAction (Option String) :=
  match configText lib config key with
  | some token => pure (some token)
  | none => do
    let answer : Except Exc (Option String) ←
      Action.perform (ChannelCall.accessToken channelType config)
    let token ← Action.ofExcept answer
    pure (token.filter (· ≠ ""))

def wecomEnvelope : VendorEnvelope :=
  ⟨"wecom_response", "errcode", "errmsg", "wecom_errcode", "wecom_errmsg"⟩

def sendViaWecom : ChannelAction OutboundDeliveryResult := do
  let agentId := JsonDict.get config "wecom_agent_id"
  let token ← tokenFor lib .wecom config "wecom_access_token"
  if token = none ∨ agentId.isNull = true then
    pure (vendorNotConfigured .wecom "missing_wecom_access_token_or_agent_id")
  else
    let target := baseUrl lib config "wecom_api_base_url" "https://qyapi.weixin.qq.com" ++
      "/cgi-bin/message/send"
    let toUser := (configText lib config "wecom_to_user").or message.externalUserId
    if orText toUser "" = "" then
      pure (notConfigured "vendor_api_not_configured"
        [("reason", .str "missing_recipient_user_id")])
    else do
      let agent ← Action.ofExcept (lib.int agentId)
      Action.ofExcept (timeout lib config)
      sendRequest "vendor_api_wecom" target
        { url := target
          params := [("access_token", token.getD "")]
          payload := [("touser", jsonText toUser), ("msgtype", .str "text"),
            ("agentid", .num agent), ("text", .obj [("content", .str message.text)])] }
        (vendorResult wecomEnvelope "vendor_api_wecom" target)

def dingtalkEnvelope : VendorEnvelope :=
  ⟨"dingtalk_response", "errcode", "errmsg", "dingtalk_errcode", "dingtalk_errmsg"⟩

def robotUrl (url : String) : ChannelAction String :=
  match configText lib config "dingtalk_robot_secret" with
  | none => pure url
  | some secret => do
    let milliseconds : Nat ← Action.perform ChannelCall.clock
    let timestamp := toString milliseconds
    let separator := if '?' ∈ url.toList then "&" else "?"
    pure (url ++ separator ++ "timestamp=" ++ timestamp ++ "&sign=" ++
      lib.robotSign secret timestamp)

def sendRobotWebhook : ChannelAction OutboundDeliveryResult :=
  match configText lib config "dingtalk_robot_webhook_url" with
  | none => pure (vendorNotConfigured .dingtalk "missing_dingtalk_robot_webhook_url")
  | some url => do
    let target ← robotUrl lib config url
    Action.ofExcept (timeout lib config)
    sendRequest "vendor_api_dingtalk_robot" target
      { url := target
        payload := [("msgtype", .str "text"), ("text", .obj [("content", .str message.text)])] }
      (vendorResult dingtalkEnvelope "vendor_api_dingtalk_robot" target)

def sendWorkNotice : ChannelAction OutboundDeliveryResult := do
  let agentId := JsonDict.get config "dingtalk_agent_id"
  let userIds := (configText lib config "dingtalk_userid_list").or message.externalUserId
  let token ← tokenFor lib .dingtalk config "dingtalk_access_token"
  if token = none ∨ agentId.isNull = true ∨ orText userIds "" = "" then
    pure (vendorNotConfigured .dingtalk "missing_dingtalk_work_notice_credentials")
  else do
    let target := baseUrl lib config "dingtalk_api_base_url" "https://oapi.dingtalk.com" ++
      "/topapi/message/corpconversation/asyncsend_v2"
    Action.ofExcept (timeout lib config)
    sendRequest "vendor_api_dingtalk_work_notice" target
      { url := target
        params := [("access_token", token.getD "")]
        payload := [("agent_id", .str (lib.texts.str agentId)), ("userid_list", jsonText userIds),
          ("msg", .obj [("msgtype", .str "text"),
            ("text", .obj [("content", .str message.text)])])] }
      (vendorResult dingtalkEnvelope "vendor_api_dingtalk_work_notice" target)

/-- `DingTalkChannelAdapter._send_outbound_via_vendor`. -/
def sendViaDingtalk : ChannelAction OutboundDeliveryResult :=
  let kind := (configText lib config "dingtalk_outbound_kind").getD "robot_webhook"
  if lib.lower kind = "work_notice" then sendWorkNotice lib config message
  else sendRobotWebhook lib config message

def feishuEnvelope : VendorEnvelope :=
  ⟨"feishu_response", "code", "msg", "feishu_code", "feishu_msg"⟩

/-- `FeishuChannelAdapter._send_outbound_via_vendor`. -/
def sendViaFeishu : ChannelAction OutboundDeliveryResult := do
  let token ← tokenFor lib .feishu config "feishu_tenant_access_token"
  let idType := lib.lower ((configText lib config "feishu_receive_id_type").getD "open_id")
  let receiver := (configText lib config "feishu_receive_id").or
    (if idType = "chat_id" then some message.conversationKey else message.externalUserId)
  if token = none ∨ orText receiver "" = "" then
    pure (vendorNotConfigured .feishu "missing_feishu_token_or_recipient")
  else do
    let target := baseUrl lib config "feishu_api_base_url" "https://open.feishu.cn/open-apis" ++
      "/im/v1/messages"
    Action.ofExcept (timeout lib config)
    sendRequest "vendor_api_feishu" target
      { url := target
        params := [("receive_id_type", idType)]
        headers := [("content-type", "application/json; charset=utf-8"),
          ("Authorization", "Bearer " ++ token.getD "")]
        payload := [("receive_id", jsonText receiver), ("msg_type", .str "text"),
          ("content", .str (lib.dumps [("text", .str message.text)]))] }
      (vendorResult feishuEnvelope "vendor_api_feishu" target)

/-- `_send_outbound_via_vendor` of the adapter. -/
def sendOutboundViaVendor : ChannelAction OutboundDeliveryResult :=
  match message.channelType with
  | .wecom => sendViaWecom lib config message
  | .dingtalk => sendViaDingtalk lib config message
  | .feishu => sendViaFeishu lib config message
  | type =>
    pure (notConfigured "vendor_api_not_supported"
      [("reason", .str "vendor_api_not_supported_for_channel"),
        ("channel_type", .str type.value)])

def baseSendOutbound : ChannelAction OutboundDeliveryResult :=
  let mode := (configText lib config "outbound_mode").getD "outbound_webhook"
  if mode = "vendor_api" then sendOutboundViaVendor lib config message
  else sendOutboundViaWebhook lib config message requestId

def includedInAck (reason : String) : OutboundDeliveryResult where
  attempted := true
  delivered := true
  mode := "webhook_ack"
  details := [("reason", .str reason)]

/-- `send_outbound` of the adapter. -/
def sendOutbound : ChannelAction OutboundDeliveryResult :=
  let hasWebhook := (JsonDict.get config "outbound_webhook_url").truthy
  match message.channelType with
  | .restApi =>
    if hasWebhook then baseSendOutbound lib config message requestId
    else pure (includedInAck "rest_api_response_included_in_ack")
  | .webWidget =>
    if hasWebhook then baseSendOutbound lib config message requestId
    else pure (includedInAck "web_widget_response_included_in_ack")
  | _ => baseSendOutbound lib config message requestId

end ChannelOutbound
end AgentHive
