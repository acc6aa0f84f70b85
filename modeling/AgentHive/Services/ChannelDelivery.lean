import AgentHive.Services.ChannelFiling
import AgentHive.Services.ChannelProcessing

/-!
Which answers are delivered, and which are recorded.

The request to the vendor is made between the answer and its commit. What fails after it leaves an
answer that was delivered and is not recorded.
-/

namespace AgentHive.ChannelDelivery

open Process
open Process.Program (Runs)
open ChannelOutbound ChannelProcessing
open Rag (Json JsonDict)
open Process.Action (ofExcept wp_bind wp_iff_runs wp_ite wp_mono wp_ofExcept wp_perform wp_pure
  wp_run)
open List (forall_mem_append mem_append mem_append_right mem_singleton)

def codeKey : ChannelType → Option String
  | .wecom | .dingtalk => some "errcode"
  | .feishu => some "code"
  | .webWidget | .restApi => none

def vendorCode (lib : ChannelLibrary) (config : JsonDict) (channelType : ChannelType) :
    Option String :=
  if (configText lib config "outbound_mode").getD "outbound_webhook" = "vendor_api" then
    codeKey channelType
  else none

section Observed

variable (code : Option String)

def Reports (response : HttpAnswer) : Prop :=
  isSuccess response.statusCode = true ∧ ∀ key, code = some key →
    ∃ fields, response.body = some (.obj fields) ∧ isZero (JsonDict.get fields key) = true

def Readable (response : HttpAnswer) : Prop :=
  isSuccess response.statusCode = true → code ≠ none →
    ∀ body, response.body = some body → ∃ fields, body = .obj fields

def Fits (request : OutboundRequest) : Prop := request.url.length ≤ 500

def Reported : Event ChannelCall ChannelAnswer → Prop
  | ⟨.post _, .ok response⟩ => Reports code response
  | _ => False

def Targeted : Event ChannelCall ChannelAnswer → Prop
  | ⟨.post request, _⟩ => Fits request
  | _ => True

def Failing : Event ChannelCall ChannelAnswer → Prop
  | ⟨.commit _, .error _⟩ | ⟨.audit _, .error _⟩ => True
  | _ => False

def Delivered (t : ChannelTrace) : Prop := ∃ e ∈ t, Reported code e

def Recorded (t : ChannelTrace) : Prop :=
  ∃ agentKey request response rows, ⟨.runAgent agentKey request, .ok response⟩ ∈ t ∧
    ⟨.commit rows, .ok ()⟩ ∈ t ∧ ∃ row ∈ rows, row.role = "assistant" ∧ row.content =
    response.answer

def Routed (r : Except Exc ChannelProcessingResult) : Prop := ∃ result, r =
    .ok result ∧ result.routed

def Faithful (t : ChannelTrace) (r : Except Exc ChannelProcessingResult) : Prop :=
  (Delivered code t → Recorded t ∧ Routed r) ∧
    ∀ result, r = .ok result → result.routed = false → ¬ Delivered code t

def Kept (t : ChannelTrace) : Prop :=
  ∀ e ∈ t, Reported code e → Targeted e ∧ ∀ e' ∈ t, ¬ Failing e'

def Preparing : Event ChannelCall ChannelAnswer → Prop
  | ⟨.clock, _⟩ | ⟨.accessToken _ _, _⟩ => True
  | _ => False

inductive Sent : ChannelTrace → Except Exc OutboundDeliveryResult → Prop
  | unsent {t : ChannelTrace} {r : Except Exc OutboundDeliveryResult} :
      (∀ e ∈ t, Preparing e) → Sent t r
  | failed {t : ChannelTrace} {r : Except Exc OutboundDeliveryResult}
      (request : OutboundRequest) (x : PostFailure) : (∀ e ∈ t, Preparing e) →
      Sent (t ++ [⟨.post request, .error x⟩]) r
  | answered {t : ChannelTrace} {r : Except Exc OutboundDeliveryResult}
      (request : OutboundRequest) (response : HttpAnswer) : (∀ e ∈ t, Preparing e) →
      (r.toBool = true ↔ Readable code response ∧ Fits request) →
      (∀ result, r = .ok result → (result.delivered = true ↔ Reports code response)) →
      Sent (t ++ [⟨.post request, .ok response⟩]) r

variable {code} {α β : Type} {m : ChannelAction α} {f : α → ChannelAction β}
variable {t : ChannelTrace} {r : Except Exc OutboundDeliveryResult}

def Prepares {α : Type} (m : ChannelAction α) : Prop :=
  m.wp () fun t _ _ => ∀ e ∈ t, Preparing e

def Sends (code : Option String) (m : ChannelAction OutboundDeliveryResult) : Prop :=
  m.wp () fun t r _ => Sent code t r

theorem prepares_pure (a : α) : Prepares (pure a) := by
  simp [Prepares]

theorem prepares_ofExcept (r : Except Exc α) : Prepares (ofExcept r) := by
  simp [Prepares]

theorem prepares_bind (first : Prepares m) (rest : ∀ a, Prepares (f a)) : Prepares (m >>= f) := by
  unfold Prepares
  rw [wp_bind]
  refine wp_mono first fun t r _ quiet => ?_
  cases r with
  | error x => exact quiet
  | ok a => exact wp_mono (rest a) fun u _ _ later =>
    forall_mem_append.mpr ⟨quiet, later⟩

theorem sends_pure (result : OutboundDeliveryResult) : Sends code (pure result) := by
  unfold Sends
  rw [wp_pure]
  exact .unsent (by simp)

theorem Sent.after {t u : ChannelTrace}
    (quiet : ∀ e ∈ t, Preparing e) (sent : Sent code u r) : Sent code (t ++ u) r := by
  cases sent with
  | unsent later => exact .unsent (forall_mem_append.mpr ⟨quiet, later⟩)
  | failed request x later =>
    rw [← List.append_assoc]
    exact .failed request x (forall_mem_append.mpr ⟨quiet, later⟩)
  | answered request response later read told =>
    rw [← List.append_assoc]
    exact .answered request response (forall_mem_append.mpr ⟨quiet, later⟩) read told

theorem sends_bind {f : α → ChannelAction OutboundDeliveryResult}
    (first : Prepares m) (rest : ∀ a, Sends code (f a)) : Sends code (m >>= f) := by
  unfold Sends
  rw [wp_bind]
  refine wp_mono first fun t r _ quiet => ?_
  cases r with
  | error x => exact .unsent quiet
  | ok a => exact wp_mono (rest a) fun u _ _ sent => sent.after quiet

theorem sends_ite {condition : Prop} [Decidable condition]
    {m n : ChannelAction OutboundDeliveryResult} (first : Sends code m) (second : Sends code n) :
    Sends code (if condition then m else n) := by
  split
  · exact first
  · exact second

theorem checkedResult_ok {result : OutboundDeliveryResult} (noError : result.error = none) :
    (checkedResult result).toBool = true ↔ (result.target.getD "").length ≤ 500 := by
  have short : (result.error.getD "").length ≤ 200 := by simp [noError]
  unfold checkedResult
  by_cases fits : (result.target.getD "").length ≤ 500
  · rw [if_pos ⟨fits, short⟩]
    exact ⟨fun _ => fits, fun _ => rfl⟩
  · rw [if_neg fun h => fits h.1]
    exact ⟨fun h => Bool.noConfusion h, fun h => absurd h fits⟩

theorem checkedResult_same {result result' : OutboundDeliveryResult}
    (checked : checkedResult result = .ok result') : result' = result := by
  unfold checkedResult at checked
  split at checked
  · exact (Except.ok.inj checked).symm
  · cases checked

theorem bodyFields_ok {body : Json} {fields : JsonDict} (read : bodyFields body = .ok fields) :
    body = .obj fields := by
  cases body with
  | obj entries => exact congrArg Json.obj (Except.ok.inj read)
  | null | bool b | num q | str text | arr items => cases read

theorem vendorResult_ok {envelope : VendorEnvelope} {mode target : String} {response : HttpAnswer} :
    (vendorResult envelope mode target response).toBool = true ↔
      Readable (some envelope.code) response ∧ target.length ≤ 500 := by
  unfold vendorResult Readable
  by_cases success : isSuccess response.statusCode = true
  · rw [if_pos success]
    have fields : (∀ body, response.body = some body → ∃ entries, body = .obj entries) ↔
        ∃ entries, response.body.getD (.obj []) = .obj entries := by
      cases response.body with
      | none => simp
      | some body => simp
    simp only [success, ne_eq, reduceCtorEq, not_false_eq_true, forall_const, fields]
    cases body : response.body.getD (.obj []) with
    | obj entries =>
      refine (checkedResult_ok rfl).trans ⟨fun fits => ⟨⟨entries, rfl⟩, fits⟩, fun h => h.2⟩
    | null | bool b | num q | str text | arr items =>
      constructor
      · intro returned
        cases returned
      · intro read
        obtain ⟨entries, same⟩ := read.1
        cases same
  · rw [if_neg success, checkedResult_ok rfl]
    exact ⟨fun fits => ⟨fun h => absurd h success, fits⟩, fun h => h.2⟩

theorem vendorResult_delivered {envelope : VendorEnvelope} {mode target : String}
    {response : HttpAnswer} {result : OutboundDeliveryResult}
    (returned : vendorResult envelope mode target response = .ok result) :
    result.delivered = true ↔ Reports (some envelope.code) response := by
  unfold vendorResult at returned
  unfold Reports
  by_cases success : isSuccess response.statusCode = true
  · rw [if_pos success] at returned
    obtain ⟨fields, read, returned⟩ := Fallible.bind_ok.mp returned
    rw [checkedResult_same returned]
    have body := bodyFields_ok read
    cases given : response.body with
    | none =>
      rw [given] at body
      cases body
      simp [isZero, JsonDict.get]
    | some value =>
      rw [given, Option.getD_some] at body
      subst body
      simp [success]
  · rw [if_neg success] at returned
    rw [checkedResult_same returned]
    simp [success]

theorem webhookResult_ok {mode target : String} {response : HttpAnswer} :
    (webhookResult mode target response).toBool = true ↔
      Readable none response ∧ target.length ≤ 500 :=
  (checkedResult_ok rfl).trans ⟨fun fits => ⟨fun _ absent => absurd rfl absent, fits⟩, fun h => h.2⟩

theorem webhookResult_delivered {mode target : String} {response : HttpAnswer}
    {result : OutboundDeliveryResult} (returned : webhookResult mode target response = .ok result) :
    result.delivered = true ↔ Reports none response := by
  rw [checkedResult_same returned]
  simp [Reports]

structure Reads (code : Option String) (target : String)
    (read : HttpAnswer → Except Exc OutboundDeliveryResult) : Prop where
  returns : ∀ response, (read response).toBool = true ↔ Readable code response ∧ target.length ≤ 500
  delivered : ∀ response result, read response = .ok result →
    (result.delivered = true ↔ Reports code response)

theorem reads_vendor (envelope : VendorEnvelope) (mode target : String) :
    Reads (some envelope.code) target (vendorResult envelope mode target) :=
  ⟨fun _ => vendorResult_ok, fun _ _ => vendorResult_delivered⟩

theorem reads_webhook (mode target : String) : Reads none target (webhookResult mode target) :=
  ⟨fun _ => webhookResult_ok, fun _ _ => webhookResult_delivered⟩

theorem sends_request {mode target : String} {request : OutboundRequest}
    {read : HttpAnswer → Except Exc OutboundDeliveryResult} (reads : Reads code request.url read) :
    Sends code (sendRequest mode target request read) := by
  unfold Sends sendRequest
  rw [wp_bind, wp_perform]
  intro answer
  simp only [wp_ofExcept]
  cases answer with
  | ok response =>
    exact .answered (t := []) request response (by simp) (reads.returns response)
      (reads.delivered response)
  | error x => exact .failed (t := []) request x (by simp)

section Adapters

variable (lib : ChannelLibrary) (config : JsonDict) (message : OutboundMessage)

variable (requestId : Option String)

theorem prepares_headers :
    Prepares (webhookHeaders lib config message requestId) := by
  unfold webhookHeaders
  split
  · exact prepares_pure _
  · exact prepares_bind (by simp [Prepares, Preparing]) fun _ => prepares_pure _

theorem prepares_token (channelType : ChannelType) (key : String) :
    Prepares (tokenFor lib channelType config key) := by
  unfold tokenFor
  split
  · exact prepares_pure _
  · exact prepares_bind (by simp [Prepares, Preparing]) fun _ =>
      prepares_bind (prepares_ofExcept _) fun _ => prepares_pure _

theorem prepares_robotUrl (url : String) : Prepares (robotUrl lib config url) := by
  unfold robotUrl
  split
  · exact prepares_pure _
  · exact prepares_bind (by simp [Prepares, Preparing]) fun _ => prepares_pure _

theorem sends_webhook :
    Sends none (sendOutboundViaWebhook lib config message requestId) := by
  unfold sendOutboundViaWebhook
  split
  · exact sends_pure _
  · exact sends_bind (prepares_headers _ _ _ _) fun _ => sends_bind (prepares_ofExcept _) fun _ =>
      sends_request (reads_webhook _ _)

theorem sends_wecom : Sends (some "errcode") (sendViaWecom lib config message) := by
  unfold sendViaWecom
  refine sends_bind (prepares_token _ _ _ _) fun _ => sends_ite (sends_pure _) ?_
  refine sends_ite (sends_pure _) ?_
  exact sends_bind (prepares_ofExcept _) fun _ => sends_bind (prepares_ofExcept _) fun _ =>
    sends_request (reads_vendor wecomEnvelope _ _)

theorem sends_robot : Sends (some "errcode") (sendRobotWebhook lib config message) := by
  unfold sendRobotWebhook
  split
  · exact sends_pure _
  · exact sends_bind (prepares_robotUrl _ _ _) fun _ => sends_bind (prepares_ofExcept _) fun _ =>
      sends_request (reads_vendor dingtalkEnvelope _ _)

theorem sends_workNotice : Sends (some "errcode") (sendWorkNotice lib config message) := by
  unfold sendWorkNotice
  refine sends_bind (prepares_token _ _ _ _) fun _ => sends_ite (sends_pure _) ?_
  exact sends_bind (prepares_ofExcept _) fun _ => sends_request (reads_vendor dingtalkEnvelope _ _)

theorem sends_dingtalk : Sends (some "errcode") (sendViaDingtalk lib config message) := by
  unfold sendViaDingtalk
  exact sends_ite (sends_workNotice _ _ _) (sends_robot _ _ _)

theorem sends_feishu : Sends (some "code") (sendViaFeishu lib config message) := by
  unfold sendViaFeishu
  refine sends_bind (prepares_token _ _ _ _) fun _ => sends_ite (sends_pure _) ?_
  exact sends_bind (prepares_ofExcept _) fun _ => sends_request (reads_vendor feishuEnvelope _ _)

theorem sends_vendor :
    Sends (codeKey message.channelType) (sendOutboundViaVendor lib config message) := by
  unfold sendOutboundViaVendor
  cases message.channelType with
  | wecom => exact sends_wecom _ _ _
  | dingtalk => exact sends_dingtalk _ _ _
  | feishu => exact sends_feishu _ _ _
  | webWidget | restApi => exact sends_pure _

theorem sends_base :
    Sends (vendorCode lib config message.channelType)
      (baseSendOutbound lib config message requestId) := by
  unfold baseSendOutbound vendorCode
  by_cases vendor : (configText lib config "outbound_mode").getD "outbound_webhook" = "vendor_api"
  · simp only [if_pos vendor]
    exact sends_vendor _ _ _
  · simp only [if_neg vendor]
    exact sends_webhook _ _ _ _

theorem sends_outbound :
    Sends (vendorCode lib config message.channelType)
      (sendOutbound lib config message requestId) := by
  have base := sends_base lib config message requestId
  unfold sendOutbound
  split
  · exact sends_ite base (sends_pure _)
  · exact sends_ite base (sends_pure _)
  · exact base

end Adapters

theorem Sent.response (sent : Sent code t r) {request : OutboundRequest} {response : HttpAnswer}
    (mem : ⟨.post request, .ok response⟩ ∈ t) :
    (r.toBool = true ↔ Readable code response ∧ Fits request) ∧
      ∀ result, r = .ok result → (result.delivered = true ↔ Reports code response) := by
  cases sent with
  | unsent quiet => exact (quiet _ mem).elim
  | failed request' x quiet =>
    rcases mem_append.mp mem with early | last
    · exact (quiet _ early).elim
    · cases mem_singleton.mp last
  | answered request' response' quiet read told =>
    rcases mem_append.mp mem with early | last
    · exact (quiet _ early).elim
    · cases mem_singleton.mp last
      exact ⟨read, told⟩

structure Outcome {α : Type} (code : Option String) (t : ChannelTrace) (r : Except Exc α) :
    Prop where
  returned : r.toBool = true → (∀ e ∈ t, Reported code e → Targeted e) ∧ ∀ e ∈ t, ¬ Failing e
  failed : Delivered code t → r.toBool = false → ¬ Kept code t

def Delivers {α : Type} (code : Option String) (m : ChannelAction α) : Prop :=
  m.wp () fun t r _ => Outcome code t r

/-- Nothing is delivered, and what returned had nothing fail. -/
def Holds {α : Type} (m : ChannelAction α) : Prop :=
  m.wp () fun t r _ => (∀ e ∈ t, ∀ code, ¬ Reported code e) ∧
    (r.toBool = true → ∀ e ∈ t, ¬ Failing e)

def Writes {α : Type} (m : ChannelAction α) : Prop :=
  m.wp () fun t r _ => (∀ e ∈ t, ∀ code, ¬ Reported code e) ∧
    (r.toBool = true → ∀ e ∈ t, ¬ Failing e) ∧ (r.toBool = false → ∃ e ∈ t, Failing e)

theorem Kept.left {t u : ChannelTrace} (kept : Kept code (t ++ u)) : Kept code t := by
  intro e mem reported
  obtain ⟨targeted, fine⟩ := kept e (List.mem_append_left _ mem) reported
  exact ⟨targeted, fun e' mem' => fine e' (List.mem_append_left _ mem')⟩

theorem Kept.right {t u : ChannelTrace} (kept : Kept code (t ++ u)) : Kept code u := by
  intro e mem reported
  obtain ⟨targeted, fine⟩ := kept e (mem_append_right _ mem) reported
  exact ⟨targeted, fun e' mem' => fine e' (mem_append_right _ mem')⟩

theorem Delivered.of_append {t u : ChannelTrace} (delivered : Delivered code (t ++ u)) :
    Delivered code t ∨ Delivered code u := by
  obtain ⟨e, mem, reported⟩ := delivered
  rcases mem_append.mp mem with early | late
  · exact .inl ⟨e, early, reported⟩
  · exact .inr ⟨e, late, reported⟩

theorem holds_pure (a : α) : Holds (pure a) := by
  simp [Holds]

theorem holds_ofExcept (r : Except Exc α) : Holds (ofExcept r) := by
  simp [Holds]

theorem holds_bind (first : Holds m) (rest : ∀ a, Holds (f a)) : Holds (m >>= f) := by
  unfold Holds
  rw [wp_bind]
  refine wp_mono first fun t r _ h => ?_
  cases r with
  | error x => exact ⟨h.1, fun returned => Bool.noConfusion returned⟩
  | ok a => exact wp_mono (rest a) fun u _ _ h' =>
    ⟨forall_mem_append.mpr ⟨h.1, h'.1⟩,
      fun returned => forall_mem_append.mpr ⟨h.2 rfl, h'.2 returned⟩⟩

theorem Writes.holds (writes : Writes m) : Holds m :=
  wp_mono writes fun _ _ _ h => ⟨h.1, h.2.1⟩

theorem Holds.delivers (holds : Holds m) : Delivers code m := by
  refine wp_mono holds fun t r _ h => ⟨fun returned => ⟨?_, h.2 returned⟩, ?_⟩
  · intro e mem reported
    exact absurd reported (h.1 e mem code)
  · intro delivered _
    obtain ⟨e, mem, reported⟩ := delivered
    exact absurd reported (h.1 e mem code)

theorem writes_bind (first : Writes m) (rest : ∀ a, Writes (f a)) : Writes (m >>= f) := by
  unfold Writes
  rw [wp_bind]
  refine wp_mono first fun t r _ h => ?_
  cases r with
  | error x => exact ⟨h.1, fun returned => Bool.noConfusion returned, h.2.2⟩
  | ok a =>
    refine wp_mono (rest a) fun u r' _ h' => ⟨forall_mem_append.mpr ⟨h.1, h'.1⟩,
      fun returned => forall_mem_append.mpr ⟨h.2.1 rfl, h'.2.1 returned⟩, fun failed => ?_⟩
    obtain ⟨e, mem, failing⟩ := h'.2.2 failed
    exact ⟨e, mem_append_right _ mem, failing⟩

theorem delivers_after
    (first : Holds m) (rest : ∀ a, Delivers code (f a)) : Delivers code (m >>= f) := by
  unfold Delivers
  rw [wp_bind]
  refine wp_mono first fun t r _ h => ?_
  cases r with
  | error x =>
    refine ⟨fun returned => Bool.noConfusion returned, fun delivered => ?_⟩
    obtain ⟨e, mem, reported⟩ := delivered
    exact absurd reported (h.1 e mem code)
  | ok a =>
    refine wp_mono (rest a) fun u r' _ h' =>
      ⟨fun returned => ?_, fun delivered failed => ?_⟩
    · have later := h'.returned returned
      refine ⟨forall_mem_append.mpr ⟨fun e mem reported => ?_, later.1⟩,
        forall_mem_append.mpr ⟨h.2 rfl, later.2⟩⟩
      exact absurd reported (h.1 e mem code)
    · rcases delivered.of_append with early | late
      · obtain ⟨e, mem, reported⟩ := early
        exact absurd reported (h.1 e mem code)
      · exact fun kept => h'.failed late failed kept.right

theorem delivers_then
    (first : Delivers code m) (rest : ∀ a, Writes (f a)) : Delivers code (m >>= f) := by
  unfold Delivers
  rw [wp_bind]
  refine wp_mono first fun t r _ h => ?_
  cases r with
  | error x => exact ⟨fun returned => Bool.noConfusion returned, h.failed⟩
  | ok a =>
    refine wp_mono (rest a) fun u r' _ h' =>
      ⟨fun returned => ?_, fun delivered failed => ?_⟩
    · have early := h.returned rfl
      refine ⟨forall_mem_append.mpr ⟨early.1, fun e mem reported => ?_⟩,
        forall_mem_append.mpr ⟨early.2, h'.2.1 returned⟩⟩
      exact absurd reported (h'.1 e mem code)
    · intro kept
      obtain ⟨e, mem, reported⟩ := delivered
      obtain ⟨e', mem', failing⟩ := h'.2.2 failed
      exact (kept e mem reported).2 e' (mem_append_right _ mem') failing

theorem Preparing.not_reported {e : Event ChannelCall ChannelAnswer} (preparing : Preparing e) :
    ¬ Reported code e := by
  obtain ⟨call, answer⟩ := e
  cases call with
  | clock | accessToken type config => exact id
  | selectConversations | flush row | commit rows | rollback | runAgent key request | post request
    | audit event => exact preparing.elim

theorem Preparing.not_failing {e : Event ChannelCall ChannelAnswer} (preparing : Preparing e) :
    ¬ Failing e := by
  obtain ⟨call, answer⟩ := e
  cases call with
  | clock | accessToken type config => exact id
  | selectConversations | flush row | commit rows | rollback | runAgent key request | post request
    | audit event => exact preparing.elim

theorem Reports.readable {response : HttpAnswer} (reports : Reports code response) :
    Readable code response := by
  intro _ vendor body given
  obtain ⟨key, named⟩ := Option.ne_none_iff_exists'.mp vendor
  obtain ⟨fields, isObject, _⟩ := reports.2 key named
  exact ⟨fields, Option.some.inj (given.symm.trans isObject)⟩

theorem Sent.outcome (sent : Sent code t r) : Outcome code t r := by
  cases sent with
  | unsent quiet =>
    refine ⟨fun _ => ⟨fun e mem reported => absurd reported (quiet e mem).not_reported,
      fun e mem => (quiet e mem).not_failing⟩, fun delivered => ?_⟩
    obtain ⟨e, mem, reported⟩ := delivered
    exact absurd reported (quiet e mem).not_reported
  | failed request x quiet =>
    refine ⟨fun _ => ⟨?_, ?_⟩, fun delivered => ?_⟩
    · exact forall_mem_append.mpr
        ⟨fun e mem reported => absurd reported (quiet e mem).not_reported, by simp [Reported]⟩
    · exact forall_mem_append.mpr ⟨fun e mem => (quiet e mem).not_failing, by simp [Failing]⟩
    · rcases delivered.of_append with early | last
      · obtain ⟨e, mem, reported⟩ := early
        exact absurd reported (quiet e mem).not_reported
      · exact absurd last (by simp [Delivered, Reported])
  | answered request response quiet read told =>
    refine ⟨fun returned => ⟨?_, ?_⟩, fun delivered failed kept => ?_⟩
    · refine forall_mem_append.mpr
        ⟨fun e mem reported => absurd reported (quiet e mem).not_reported, ?_⟩
      intro e mem _
      cases mem_singleton.mp mem
      exact (read.mp returned).2
    · exact forall_mem_append.mpr ⟨fun e mem => (quiet e mem).not_failing, by simp [Failing]⟩
    · have reports : Reports code response := by
        rcases delivered.of_append with early | last
        · obtain ⟨e, mem, reported⟩ := early
          exact absurd reported (quiet e mem).not_reported
        · simpa [Delivered, Reported] using last
      have fits : Fits request := (kept _ (mem_append_right _ (.head _)) reports).1
      rw [read.mpr ⟨reports.readable, fits⟩] at failed
      cases failed

theorem Sends.delivers {m : ChannelAction OutboundDeliveryResult} (sends : Sends code m) :
    Delivers code m :=
  wp_mono sends fun _ _ _ sent => sent.outcome

section Flow

variable (lib : ChannelLibrary) (channel : ConfiguredChannel) (normalized : InboundMessage)
variable (requestId : Option String) (draws : InboundDraws)

theorem writes_commit (rows : List ChannelMessage) : Writes (commit rows) := by
  unfold Writes commit
  rw [wp_bind, wp_perform]
  intro answer
  cases answer with
  | ok _ => simp [Reported, Failing, Except.toBool]
  | error x => simp [Reported, Failing, Except.toBool]

theorem writes_audit (action status : String) (details : JsonDict) :
    Writes (recordAuditEvent lib action status requestId details) := by
  unfold Writes recordAuditEvent
  rw [wp_bind, wp_perform]
  intro answer
  cases answer with
  | ok _ => simp [Reported, Failing, Except.toBool]
  | error x => simp [Reported, Failing, Except.toBool]

theorem writes_pure (a : α) : Writes (pure a) := by
  simp [Writes, Except.toBool]

theorem holds_openConversation : Holds (openConversation channel normalized draws) := by
  unfold openConversation
  refine holds_bind (by simp [Holds, Reported, Failing]) fun _ =>
    holds_bind (holds_ofExcept _) fun _ => ?_
  split
  · exact holds_pure _
  · exact holds_bind (by simp [Holds, Reported, Failing]) fun _ =>
      holds_bind (holds_ofExcept _) fun _ => holds_pure _

theorem holds_fileQuestion : Holds (fileQuestion channel normalized requestId draws) := by
  unfold fileQuestion
  exact holds_bind (holds_openConversation _ _ _) fun _ =>
    holds_bind (writes_commit _).holds fun _ => holds_pure _

theorem holds_runAgent (conversation : Option ChannelConversation) :
    Holds (runAgent lib channel normalized conversation) := by
  unfold runAgent
  exact holds_bind (holds_ofExcept _) fun _ =>
    holds_bind (by simp [Holds, Reported, Failing]) fun _ => holds_ofExcept _

theorem delivers_answer (conversation : ChannelConversation) (response : Chat.AgentRunResponse) :
    Delivers (vendorCode lib channel.config channel.channelType)
      (deliverAnswer lib channel normalized conversation requestId response draws) := by
  unfold deliverAnswer
  refine delivers_then (sends_outbound lib channel.config
    (buildOutboundMessage channel normalized response) _).delivers fun _ => ?_
  exact writes_bind (writes_audit _ _ _ _ _) fun _ => writes_bind (writes_commit _) fun _ =>
    writes_pure _

theorem delivers_route (dryRun : Bool) :
    Delivers (vendorCode lib channel.config channel.channelType)
      (routeMessage lib channel normalized requestId dryRun draws) := by
  unfold routeMessage
  cases dryRun with
  | true =>
    exact (holds_bind (holds_runAgent _ _ _ _) fun _ => holds_pure _).delivers
  | false =>
    refine delivers_after (holds_fileQuestion _ _ _ _) fun _ =>
      delivers_after (holds_runAgent _ _ _ _) fun _ => ?_
    exact delivers_then (delivers_answer _ _ _ _ _ _ _) fun _ => writes_pure _

def Returns {α : Type} (m : ChannelAction α) (P : ChannelTrace → α → Prop) : Prop :=
  m.wp () fun t r _ => ∀ a, r = .ok a → P t a

theorem returns_any (m : ChannelAction α) : Returns m fun _ _ => True :=
  (wp_iff_runs _ _ _).mpr fun _ _ _ _ _ => trivial

theorem returns_bind
    {Q : ChannelTrace → α → Prop} {P : ChannelTrace → β → Prop} (first : Returns m Q)
    (rest : ∀ t a, Q t a → Returns (f a) fun u b => P (t ++ u) b) : Returns (m >>= f) P := by
  unfold Returns
  rw [wp_bind]
  refine wp_mono first fun t r _ h => ?_
  cases r with
  | error x =>
    intro b returned
    cases returned
  | ok a => exact rest t a (h a rfl)

theorem returns_pure {a : α} {P : ChannelTrace → α → Prop} (h : P [] a) :
    Returns (pure a) P := by
  unfold Returns
  rw [wp_pure]
  intro b returned
  cases returned
  exact h

theorem commit_returns (rows : List ChannelMessage) :
    Returns (commit rows) fun t _ => ⟨.commit rows, .ok ()⟩ ∈ t := by
  unfold Returns commit
  rw [wp_bind, wp_perform]
  intro answer
  cases answer with
  | ok _ => simp
  | error x => simp

theorem runAgent_returns (conversation : Option ChannelConversation) :
    Returns (runAgent lib channel normalized conversation) fun t response =>
      ∃ agentKey request, ⟨.runAgent agentKey request, .ok response⟩ ∈ t := by
  unfold runAgent
  refine returns_bind (returns_any _) fun t request _ => ?_
  unfold Returns
  rw [wp_bind, wp_perform]
  intro answer
  cases answer with
  | ok response =>
    simp only [wp_ofExcept, List.append_nil]
    intro response' same
    cases same
    exact ⟨_, _, mem_append_right _ (.head _)⟩
  | error x => simp

theorem deliverAnswer_returns (conversation : ChannelConversation)
    (response : Chat.AgentRunResponse) :
    Returns (deliverAnswer lib channel normalized conversation requestId response draws)
      fun t _ => ∃ rows, ⟨.commit rows, .ok ()⟩ ∈ t ∧
        ∃ row ∈ rows, row.role = "assistant" ∧ row.content = response.answer := by
  unfold deliverAnswer
  refine returns_bind (returns_any _) fun t _ _ => returns_bind (returns_any _) fun u _ _ =>
    returns_bind (commit_returns _) fun v _ committed => returns_pure ?_
  have stored := mem_append_right t
    (mem_append_right u (List.mem_append_left [] committed))
  exact ⟨_, stored, _, .head _, rfl, rfl⟩

theorem routeMessage_returns (dryRun : Bool) :
    Returns (routeMessage lib channel normalized requestId dryRun draws) fun t result =>
      result.routed = true ∧ (dryRun = false → Recorded t) := by
  unfold routeMessage
  cases dryRun with
  | true =>
    exact returns_bind (returns_any _) fun _ _ _ => returns_pure ⟨rfl, fun real => nomatch real⟩
  | false =>
    refine returns_bind (returns_any _) fun t conversation _ =>
      returns_bind (runAgent_returns _ _ _ _) fun u response answered =>
        returns_bind (deliverAnswer_returns _ _ _ _ _ _ _) fun v _ stored =>
          returns_pure ⟨rfl, fun _ => ?_⟩
    obtain ⟨agentKey, request, ran⟩ := answered
    obtain ⟨rows, committed, row, mem, isAnswer, same⟩ := stored
    exact ⟨agentKey, request, response, rows, by simp [ran], by simp [committed], row, mem,
      isAnswer, same⟩

theorem routeMessage_dry : Holds (routeMessage lib channel normalized requestId true draws) :=
  holds_bind (holds_runAgent _ _ _ _) fun _ => holds_pure _

theorem faithful_of_holds {r : Except Exc ChannelProcessingResult}
    (nothing : ∀ e ∈ t, ¬ Reported code e) : Faithful code t r ↔ Kept code t := by
  have undelivered : ¬ Delivered code t := fun ⟨e, mem, reported⟩ => nothing e mem reported
  constructor
  · intro _ e mem reported
    exact absurd reported (nothing e mem)
  · intro _
    exact ⟨fun delivered => absurd delivered undelivered, fun _ _ _ => undelivered⟩

theorem not_routed {result : ChannelProcessingResult} (notRouted : result.routed = false) :
    ¬ Routed (.ok result) := by
  intro routed
  obtain ⟨result', same, isRouted⟩ := routed
  cases same
  rw [notRouted] at isRouted
  cases isRouted

theorem not_routed_error {x : Exc} : ¬ Routed (.error x) := by
  intro routed
  obtain ⟨result, same, _⟩ := routed
  cases same

theorem faithful_of_failed {t u : ChannelTrace} {r : Except Exc ChannelProcessingResult}
    (failed : Delivered code t → ¬ Kept code t) (nothing : ∀ e ∈ u, ¬ Reported code e)
    (notRouted : ¬ Routed r) : Faithful code (t ++ u) r ↔ Kept code (t ++ u) := by
  constructor
  · intro faithful e mem reported
    exact absurd (faithful.1 ⟨e, mem, reported⟩).2 notRouted
  · intro kept
    have undelivered : ¬ Delivered code (t ++ u) := by
      intro delivered
      rcases delivered.of_append with early | late
      · exact failed early kept.left
      · obtain ⟨e, mem, reported⟩ := late
        exact nothing e mem reported
    exact ⟨fun delivered => absurd delivered undelivered, fun _ _ _ => undelivered⟩

theorem route_faithful (dryRun : Bool) :
    (routeMessage lib channel normalized requestId dryRun draws).wp () fun t r _ =>
      match r with
      | .ok result => Faithful (vendorCode lib channel.config channel.channelType) t (.ok result) ∧
          Kept (vendorCode lib channel.config channel.channelType) t
      | .error _ => Delivered (vendorCode lib channel.config channel.channelType) t →
          ¬ Kept (vendorCode lib channel.config channel.channelType) t := by
  rw [wp_iff_runs]
  intro t r run
  have outcome := (wp_iff_runs _ _ _).mp
    (delivers_route lib channel normalized requestId draws dryRun) t r run
  have returns := (wp_iff_runs _ _ _).mp
    (routeMessage_returns lib channel normalized requestId draws dryRun) t r run
  obtain ⟨r, _⟩ := r
  cases r with
  | error x => exact fun delivered => outcome.failed delivered rfl
  | ok result =>
    obtain ⟨targeted, fine⟩ := outcome.returned rfl
    obtain ⟨routed, recorded⟩ := returns result rfl
    refine ⟨⟨fun delivered => ⟨?_, result, rfl, routed⟩, fun result' same notRouted => ?_⟩,
      fun e mem reported => ⟨targeted e mem reported, fine⟩⟩
    · cases dryRun with
      | false => exact recorded rfl
      | true =>
        have dry := (wp_iff_runs _ _ _).mp
          (routeMessage_dry lib channel normalized requestId draws) t _ run
        obtain ⟨e, mem, reported⟩ := delivered
        exact absurd reported (dry.1 e mem _)
    · cases same
      rw [routed] at notRouted
      cases notRouted

end Flow

end Observed

variable {lib : ChannelLibrary} {channel : ConfiguredChannel} {normalized : InboundMessage}
variable {requestId : Option String} {dryRun : Bool} {draws : InboundDraws}

theorem process_faithful :
    (processInboundMessage lib channel normalized requestId dryRun draws).wp () fun t r _ =>
      (Faithful (vendorCode lib channel.config channel.channelType) t r ↔
        Kept (vendorCode lib channel.config channel.channelType) t) := by
  unfold processInboundMessage
  refine (wp_ite _ _ _ _ _).mpr ?_
  split
  · exact faithful_of_holds (by simp)
  · refine (wp_ite _ _ _ _ _).mpr ?_
    split
    · exact faithful_of_holds (by simp)
    · rw [Action.wp_tryCatch]
      refine wp_mono (route_faithful lib channel normalized requestId draws dryRun)
        fun t r _ h => ?_
      cases r with
      | ok result => exact ⟨fun _ => h.2, fun _ => h.1⟩
      | error x =>
        refine (wp_ite _ _ _ _ _).mpr ?_
        split
        · rw [wp_bind, wp_perform]
          intro answer
          cases answer with
          | ok _ => exact faithful_of_failed h (by simp [Reported]) (not_routed rfl)
          | error y => exact faithful_of_failed h (by simp [Reported]) not_routed_error
        · exact faithful_of_failed h (by simp) not_routed_error

/-- Every response is read, where it can be and its target fits, and an answer is delivered and
recorded, unless something fails after its delivery. -/
theorem delivered_iff_recorded {t : ChannelTrace} {r : Except Exc ChannelProcessingResult}
    (run : Runs ((processInboundMessage lib channel normalized requestId dryRun draws).run ()) t r) :
    (Faithful (vendorCode lib channel.config channel.channelType) t r ↔
      Kept (vendorCode lib channel.config channel.channelType) t) ∧
    ∀ (message : OutboundMessage) (sentFor : Option String) (u : ChannelTrace)
      (sent : Except Exc OutboundDeliveryResult),
      Runs ((sendOutbound lib channel.config message sentFor).run ()) u sent →
      ∀ request response, ⟨.post request, .ok response⟩ ∈ u →
        (sent.toBool = true ↔
          Readable (vendorCode lib channel.config message.channelType) response ∧ Fits request) ∧
        ∀ result, sent = .ok result → (result.delivered = true ↔
          Reports (vendorCode lib channel.config message.channelType) response) := by
  have processed := (Program.wp_iff_runs _ _).mp
    ((wp_run _ _ _).mpr process_faithful) t r run
  refine ⟨processed, fun message sentFor u sent sending request response mem => ?_⟩
  exact ((Program.wp_iff_runs _ _).mp ((wp_run _ _ _).mpr
    (sends_outbound lib channel.config message sentFor)) u sent sending).response mem

def plainTexts : Chat.ChatTexts where
  str value := match value with
    | .str text => text
    | _ => ""
  uuid _ := ""
  decimal _ := ""

def plainLibrary : ChannelLibrary where
  texts := plainTexts
  int value := match value with
    | .num q => .ok q.floor
    | _ => .error (.other "ValueError" "")
  float _ := .ok ()
  lower text := text
  dumps _ := ""
  nonce _ _ _ := "nonce"
  sign _ _ _ _ := "sign"
  robotSign _ _ := "sign"

def robotChannel : ConfiguredChannel where
  toChannelRecord := { ChannelFiling.shop with channelType := .dingtalk }
  config := [("outbound_mode", .str "vendor_api"),
    ("dingtalk_robot_webhook_url", .str "https://oapi.dingtalk.com/robot/send")]

def greeting : InboundMessage where
  externalUserId := some "ann"
  externalMessageId := none
  conversationKey := "k"
  messageType := "text"
  text := some "Hi"
  attachments := 0
  signature := {}
  traceId := none
  requestId := none

def firstDraws : InboundDraws := ⟨10, 11, 12, 0, 1⟩

def answersWith (body : Option Json) : (call : ChannelCall) → ChannelAnswer call
  | .selectConversations => .ok []
  | .flush _ | .commit _ | .rollback | .audit _ => .ok ()
  | .clock => 0
  | .runAgent _ _ => .ok ChannelFiling.sampleResponse
  | .accessToken _ _ => .ok none
  | .post _ => .ok ⟨200, body⟩

def robotSending : Program ChannelCall ChannelAnswer (Except Exc OutboundDeliveryResult) :=
  (sendOutbound plainLibrary robotChannel.config
    (buildOutboundMessage robotChannel greeting ChannelFiling.sampleResponse) none).run ()

theorem list_body_raises :
    ¬ ∀ (lib : ChannelLibrary) (channel : ConfiguredChannel) (normalized : InboundMessage)
      (requestId : Option String) (dryRun : Bool) (draws : InboundDraws) (t : ChannelTrace)
      (r : Except Exc ChannelProcessingResult),
      Runs ((processInboundMessage lib channel normalized requestId dryRun draws).run ()) t r →
      Faithful (vendorCode lib channel.config channel.channelType) t r ∧
      ∀ (message : OutboundMessage) (sentFor : Option String) (u : ChannelTrace)
        (sent : Except Exc OutboundDeliveryResult),
        Runs ((sendOutbound lib channel.config message sentFor).run ()) u sent →
        ∀ request response, ⟨.post request, .ok response⟩ ∈ u → sent.toBool = true := by
  intro claimed
  have returned := (claimed plainLibrary robotChannel greeting none false firstDraws _ _
    (Program.follow_runs (answersWith none) _)).2 _ _ _ _
    (Program.follow_runs (answersWith (some (.arr []))) robotSending)
    ⟨"https://oapi.dingtalk.com/robot/send", [], [], _⟩ ⟨200, some (.arr [])⟩ (.head _)
  cases returned

def takenRun : ChannelTrace × Except Exc ChannelProcessingResult :=
  ((processInboundMessage plainLibrary robotChannel greeting none false firstDraws).run ()).follow
    (answersWith (some (.obj [("errcode", .num 0)])))

theorem taken_is_recorded :
    Delivered (vendorCode plainLibrary robotChannel.config robotChannel.channelType) takenRun.1 ∧
    (Faithful (vendorCode plainLibrary robotChannel.config robotChannel.channelType) takenRun.1
        takenRun.2 ↔
      Kept (vendorCode plainLibrary robotChannel.config robotChannel.channelType) takenRun.1) ∧
    ∀ (message : OutboundMessage) (sentFor : Option String) (u : ChannelTrace)
      (sent : Except Exc OutboundDeliveryResult),
      Runs ((sendOutbound plainLibrary robotChannel.config message sentFor).run ()) u sent →
      ∀ request response, ⟨.post request, .ok response⟩ ∈ u →
        (sent.toBool = true ↔
          Readable (vendorCode plainLibrary robotChannel.config message.channelType) response ∧
            Fits request) ∧
        ∀ result, sent = .ok result → (result.delivered = true ↔
          Reports (vendorCode plainLibrary robotChannel.config message.channelType) response) := by
  refine ⟨⟨_, .tail _ (.tail _ (.tail _ (.tail _ (.head _)))), rfl, ?_⟩,
    delivered_iff_recorded (Program.follow_runs _ _)⟩
  intro key named
  cases named
  exact ⟨_, rfl, rfl⟩

end AgentHive.ChannelDelivery
