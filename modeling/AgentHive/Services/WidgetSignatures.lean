import AgentHive.Services.PollSignatures

/-!
The requests that the widget signs, and what the server makes of them.

The widget sorts the parts of a query as JavaScript does, and the server as Python does. Only the
poll is signed.
-/

namespace AgentHive.WidgetSignatures

open ChannelService ChannelSignatures
open Rag (Json JsonDict)

structure WidgetSettings where
  channelKey : String
  channelSecret : String
  externalUserId : String
  conversationKey : String
  pollLimit : String

inductive WidgetAction
  | send (text : String)
  | poll (cursor : Option String)

structure WidgetRequest where
  method : String
  path : String
  query : String := ""
  headers : Headers
  payload : JsonDict := []

section Widget

variable (sig : SignatureLibrary) (serialize : List (String × String) → String)
variable (w : WidgetSettings)

/-- The order of `sort`, of texts: by their units of 16 bits. -/
def codeUnits (text : List Char) : List Nat :=
  text.flatMap fun c =>
    if c.toNat < 0x10000 then [c.toNat]
    else [0xD800 + (c.toNat - 0x10000) / 0x400, 0xDC00 + (c.toNat - 0x10000) % 0x400]

def widgetQuery (queryString : String) : String :=
  String.ofList (List.intercalate ['&']
    ((queryString.toList.splitOn '&').insertionSort fun a b => codeUnits a ≤ codeUnits b))

def pollPath (channelKey : String) : String := "/api/v1/channels/poll/web_widget/" ++ channelKey

def webhookPath (channelKey : String) : String :=
  "/api/v1/channels/webhook/web_widget/" ++ channelKey

def optionalParam (name value : String) : List (String × String) :=
  if value = "" then [] else [(name, value)]

def pollParams (cursor : Option String) : List (String × String) :=
  [("external_user_id", w.externalUserId)] ++ optionalParam "conversation_key" w.conversationKey ++
    optionalParam "after" (cursor.getD "") ++ [("limit", w.pollLimit)]

def pollHeaders (queryString timestamp nonce : String) : Headers :=
  if w.channelSecret = "" then []
  else [("X-AgentHive-Timestamp", timestamp), ("X-AgentHive-Nonce", nonce),
    ("X-AgentHive-Signature", "sha256=" ++ hmacSha256Hex sig w.channelSecret
      (signingBase timestamp nonce "GET" (pollPath w.channelKey) (widgetQuery queryString)))]

def poll (cursor : Option String) (milliseconds : Nat) (nonce : String) : WidgetRequest :=
  let queryString := serialize (pollParams w cursor)
  { method := "GET"
    path := pollPath w.channelKey
    query := queryString
    headers := pollHeaders sig w queryString (toString milliseconds) nonce }

def sendToChannel (text messageId : String) : WidgetRequest where
  method := "POST"
  path := webhookPath w.channelKey
  headers := [("Content-Type", "application/json")]
  payload := [("external_user_id", .str w.externalUserId),
    ("conversation_key", .str w.conversationKey), ("message_type", .str "text"),
    ("text", .str text), ("message_id", .str messageId)]

def widgetRequest (milliseconds : Nat) (uuid : String) : WidgetAction → WidgetRequest
  | .send text => sendToChannel w text uuid
  | .poll cursor => poll sig serialize w cursor milliseconds uuid

end Widget

section Server

variable (sig : SignatureLibrary)

def lowerName (name : String) : String := String.ofList (name.toList.map Char.toLower)

def arriving (received : String → String) (request : WidgetRequest) : WidgetRequest :=
  { request with
    path := received request.path
    headers := request.headers.map fun h => (lowerName h.1, h.2) }

def pollRequest (request : WidgetRequest) : ChannelSignatures.PollRequest where
  method := request.method
  path := request.path
  query := request.query
  headers := request.headers

def Accepted (channel : ChannelRecord) (now : Int) (request : WidgetRequest) : Prop :=
  (request.method = "GET" ∧ request.path = pollPath channel.channelKey ∧
    verifyPollSignature sig channel (pollRequest request) = .ok true) ∨
  request.method = "POST" ∧ request.path = webhookPath channel.channelKey ∧
    ∃ signature, webhookSignature sig channel request.payload request.headers now =
      .ok signature ∧ webhookPasses channel signature = true

end Server

def isPoll : WidgetAction → Prop
  | .poll _ => True
  | .send _ => False

theorem mem_of_mem_splitOn {sep x : Char} {items part : List Char}
    (mem : part ∈ items.splitOn sep) (there : x ∈ part) : x ∈ items := by
  induction items generalizing part with
  | nil =>
    rw [List.splitOn_nil, List.mem_singleton] at mem
    rw [mem] at there
    cases there
  | cons c rest ih =>
    rw [List.splitOn, List.splitOnP_cons_eq_if_modifyHead] at mem
    split at mem
    · cases List.mem_cons.mp mem with
      | inl empty =>
        rw [empty] at there
        cases there
      | inr later => exact .tail _ (ih later there)
    · cases parts : rest.splitOn sep with
      | nil => exact absurd parts (List.splitOn_ne_nil _ _)
      | cons first others =>
        change part ∈ (rest.splitOn sep).modifyHead (c :: ·) at mem
        rw [parts, List.modifyHead_cons] at mem
        cases List.mem_cons.mp mem with
        | inl head =>
          rw [head] at there
          cases List.mem_cons.mp there with
          | inl eq => exact eq ▸ .head _
          | inr later => exact .tail _ (ih (parts ▸ .head _) later)
        | inr later => exact .tail _ (ih (parts ▸ .tail _ later) there)

theorem codeUnits_ascii {text : List Char} (ascii : ∀ c ∈ text, c.toNat < 128) :
    codeUnits text = codePoints text := by
  induction text with
  | nil => rfl
  | cons c rest ih =>
    obtain ⟨small, ascii⟩ := List.forall_mem_cons.mp ascii
    have plain : c.toNat < 0x10000 := Nat.lt_trans small (by decide)
    rw [codeUnits, List.flatMap_cons, if_pos plain, ← codeUnits, ih ascii]
    rfl

theorem widgetQuery_ascii {queryString : String} (ascii : ∀ c ∈ queryString.toList, c.toNat < 128) :
    widgetQuery queryString = canonicalQuery queryString := by
  have alike : ∀ part ∈ queryString.toList.splitOn '&', codeUnits part = codePoints part :=
    fun part mem => codeUnits_ascii fun c there => ascii c (mem_of_mem_splitOn mem there)
  have sorted := List.map_insertionSort (fun a b : List Char => codeUnits a ≤ codeUnits b)
    (fun a b : List Char => codePoints a ≤ codePoints b) id (queryString.toList.splitOn '&')
    fun a mem b mem' => by rw [alike a mem, alike b mem']; exact Iff.rfl
  rw [List.map_id, List.map_id] at sorted
  rw [widgetQuery, canonicalQuery, sorted]

section Accepted

variable {sig : SignatureLibrary} {serialize : List (String × String) → String}
variable {lib : SecretLibrary} {id : UUID} {row : ChannelConfig} {w : WidgetSettings}
variable {received : String → String} {milliseconds : Nat} {uuid : String} {now : Int}

theorem header_given {headers : Headers} {name value : String} (filled : value ≠ "")
    (given : headers.lookup name = some value) : header headers name = some value := by
  rw [header, given]
  simp [filled]

theorem pollHeaders_arriving (sig : SignatureLibrary) (queryString timestamp nonce : String)
    (filled : w.channelSecret ≠ "") :
    ((pollHeaders sig w queryString timestamp nonce).map fun h => (lowerName h.1, h.2)) =
      [("x-agenthive-timestamp", timestamp), ("x-agenthive-nonce", nonce),
        ("x-agenthive-signature", "sha256=" ++ hmacSha256Hex sig w.channelSecret
          (signingBase timestamp nonce "GET" (pollPath w.channelKey) (widgetQuery queryString)))] := by
  have timestampName : lowerName "X-AgentHive-Timestamp" = "x-agenthive-timestamp" := by
    decide +kernel
  have nonceName : lowerName "X-AgentHive-Nonce" = "x-agenthive-nonce" := by decide +kernel
  have signatureName : lowerName "X-AgentHive-Signature" = "x-agenthive-signature" := by
    decide +kernel
  rw [pollHeaders, if_neg filled]
  simp only [List.map_cons, List.map_nil, timestampName, nonceName, signatureName]

theorem marked_ne (text : String) : "sha256=" ++ text ≠ "" := by
  intro empty
  have long := congrArg String.toList empty
  simp [String.toList_append] at long

theorem poll_verified {channel : ChannelRecord} {cursor : Option String}
    (ascii : ∀ params, ∀ c ∈ (serialize params).toList, c.toNat < 128)
    (shared : channel.secret = some w.channelSecret) (filled : w.channelSecret ≠ "")
    (drawn : uuid ≠ "") (same : received (pollPath w.channelKey) = pollPath w.channelKey) :
    verifyPollSignature sig channel
      (pollRequest (arriving received (poll sig serialize w cursor milliseconds uuid))) =
        .ok true := by
  have headers := pollHeaders_arriving sig (serialize (pollParams w cursor))
    (toString milliseconds) uuid filled
  have stamped : toString milliseconds ≠ "" := Nat.repr_ne_empty
  refine verifyPollSignature_iff.mpr (.inr ⟨w.channelSecret, ⟨by simp [shared], filled⟩, _, _, _,
    header_given (marked_ne _) (congrArg (List.lookup _) headers),
    header_given stamped (congrArg (List.lookup _) headers),
    header_given drawn (congrArg (List.lookup _) headers), ?_⟩)
  rw [hmacSha256Hex, providedDigest_marked, widgetQuery_ascii (ascii _), ← hmacSha256Hex]
  unfold expectedDigest
  change hmacSha256Hex sig w.channelSecret (signingBase _ _ _ (received (pollPath w.channelKey))
    _) = _
  rw [same]
  rfl

theorem send_unsigned {text name : String} (signing : name ∈ ["x-agenthive-signature",
      "x-agenthive-signature-256"]) :
    header (arriving received (sendToChannel w text uuid)).headers name = none := by
  have contentType : lowerName "Content-Type" = "content-type" := by decide +kernel
  change header [(lowerName "Content-Type", "application/json")] name = none
  rw [contentType]
  rcases List.mem_cons.mp signing with rfl | last
  · rfl
  · rw [List.mem_singleton.mp last]
    rfl

theorem send_unverified {channel : ChannelRecord} {text secret : String} {payload : JsonDict}
    {signature : SignatureVerification}
    (verified : verifySignature sig channel.channelType payload
      (arriving received (sendToChannel w text uuid)).headers (some secret) now = .ok signature) :
    signature.valid = false := by
  unfold verifySignature at verified
  split at verified
  · cases verified
    rfl
  · unfold verifyAgenthiveHmac at verified
    rw [send_unsigned (.head _), send_unsigned (.tail _ (.head _))] at verified
    cases verified
    rfl

theorem decrypted_row {secret : String}
    (decrypted : (recordFromRow lib id row).secret = some secret) :
    (recordFromRow lib id row).secretError = none ∧
      ChannelSignatures.channelSecretConfigured (recordFromRow lib id row) = true := by
  change (decryptChannelSecret lib row).1 = some secret at decrypted
  change (decryptChannelSecret lib row).2 = none ∧
    (row.secretConfigured || truthy row.secretRef) = true
  unfold decryptChannelSecret at decrypted ⊢
  cases token : row.secretRef.filter (· ≠ "") with
  | none =>
    rw [token] at decrypted
    cases decrypted
  | some text =>
    rw [token] at decrypted
    obtain ⟨given, filled⟩ := Option.filter_eq_some_iff.mp token
    cases plain : lib.decryptSecret text with
    | none => simp [plain] at decrypted
    | some secret' => simp [plain, given, truthy, of_decide_eq_true filled]

theorem send_refused {text : String} {signature : SignatureVerification}
    (shared : (recordFromRow lib id row).secret = some w.channelSecret)
    (verified : webhookSignature sig (recordFromRow lib id row)
      (arriving received (sendToChannel w text uuid)).payload
      (arriving received (sendToChannel w text uuid)).headers now = .ok signature) :
    webhookPasses (recordFromRow lib id row) signature = false := by
  obtain ⟨noError, configured⟩ := decrypted_row shared
  have invalid : signature.valid = false := by
    unfold webhookSignature at verified
    obtain ⟨first, current, rest⟩ := Process.Fallible.bind_ok.mp verified
    rw [noError, shared] at current
    have refused := send_unverified current
    split at rest
    · cases rest
      exact refused
    · rw [if_pos ⟨refused, noError⟩] at rest
      obtain ⟨second, staged, rest⟩ := Process.Fallible.bind_ok.mp rest
      rw [send_unverified staged] at rest
      cases rest
      exact refused
  rw [webhookPasses, noError, configured, invalid]
  rfl

/-- The widget's requests are accepted where they are polls whose path arrives as it was sent. -/
theorem accepted_iff {action : WidgetAction}
    (ascii : ∀ params, ∀ c ∈ (serialize params).toList, c.toNat < 128)
    (shared : (recordFromRow lib id row).secret = some w.channelSecret)
    (filled : w.channelSecret ≠ "") (sameKey : w.channelKey = row.channelKey) (drawn : uuid ≠ "") :
    Accepted sig (recordFromRow lib id row) now
        (arriving received (widgetRequest sig serialize w milliseconds uuid action)) ↔
      isPoll action ∧ received (pollPath w.channelKey) = pollPath w.channelKey := by
  cases action with
  | send text =>
    refine ⟨fun accepted => ?_, fun h => h.1.elim⟩
    rcases accepted with ⟨get, _⟩ | ⟨_, _, signature, verified, passes⟩
    · exact absurd get (by decide : "POST" ≠ "GET")
    · rw [send_refused shared verified] at passes
      cases passes
  | poll cursor =>
    constructor
    · intro accepted
      rcases accepted with ⟨_, path, _⟩ | ⟨post, _⟩
      · exact ⟨trivial, path.trans (congrArg pollPath sameKey.symm)⟩
      · exact absurd post (by decide : "GET" ≠ "POST")
    · intro h
      refine .inl ⟨rfl, h.2.trans (congrArg pollPath sameKey), ?_⟩
      exact poll_verified ascii shared filled drawn h.2

end Accepted

open PollSignatures

def shopWidget : WidgetSettings where
  channelKey := "shop"
  channelSecret := "s"
  externalUserId := "ann"
  conversationKey := "k"
  pollLimit := "50"

def plainQuery (_ : List (String × String)) : String :=
  "external_user_id=ann&conversation_key=k&limit=50"

theorem plainQuery_ascii (params : List (String × String)) :
    ∀ c ∈ (plainQuery params).toList, c.toNat < 128 := by
  have all : "external_user_id=ann&conversation_key=k&limit=50".toList.all
      (fun c => decide (c.toNat < 128)) = true := by decide +kernel
  exact fun c mem => of_decide_eq_true (List.all_eq_true.mp all c mem)

theorem sent_message_is_refused :
    ¬ ∀ (sig : SignatureLibrary) (serialize : List (String × String) → String)
      (lib : SecretLibrary) (id : UUID) (row : ChannelConfig) (w : WidgetSettings)
      (received : String → String) (milliseconds : Nat) (uuid : String) (now : Int)
      (action : WidgetAction),
      (∀ params, ∀ c ∈ (serialize params).toList, c.toNat < 128) →
      (recordFromRow lib id row).secret = some w.channelSecret → w.channelSecret ≠ "" →
      w.channelKey = row.channelKey → uuid ≠ "" → (∀ path, received path = path) →
      (now - milliseconds / 1000).natAbs ≤ signatureMaxSkewSeconds →
      Accepted sig (recordFromRow lib id row) now
        (arriving received (widgetRequest sig serialize w milliseconds uuid action)) := by
  intro claimed
  have accepted := claimed plainSignatures plainQuery plainSecrets 2 sealedChannel shopWidget id
    1000000 "u" 1000 (.send "Hi") plainQuery_ascii rfl (by decide) rfl (by decide)
    (fun _ => rfl) (by decide)
  rcases accepted with ⟨get, _⟩ | ⟨_, _, signature, verified, passes⟩
  · exact absurd get (by decide : "POST" ≠ "GET")
  · rw [send_refused rfl verified] at passes
    cases passes

theorem widget_poll_is_accepted :
    Accepted plainSignatures (recordFromRow plainSecrets 2 sealedChannel) 1000
      (arriving id (widgetRequest plainSignatures plainQuery shopWidget 1000000 "u"
        (.poll none))) :=
  (accepted_iff plainQuery_ascii rfl (by decide) rfl (by decide)).mpr ⟨trivial, rfl⟩

end AgentHive.WidgetSignatures
