import AgentHive.Llm.PolicyValidation
import AgentHive.Services.ChannelInbound
import AgentHive.Store.HexText
import Mathlib.Data.List.Lex

/-!
The signatures of the requests that come in for a channel.

A webhook is signed over its payload, and a poll over its method, path and query. Each is checked
by code of its own.
-/

namespace AgentHive

open Rag (Json JsonDict)

/-- The headers of a request by their names in lower case, as the server reads them. -/
abbrev Headers := List (String × String)

/-- SHA-256, UTF-8, `int` of a text, and the canonical form of a payload. -/
structure SignatureLibrary where
  sha256 : List UInt8 → List UInt8
  utf8 : String → List UInt8
  int : String → Option Int
  dumps : JsonDict → String

namespace ChannelSignatures

open ChannelService

def header (headers : Headers) (name : String) : Option String :=
  (headers.lookup name).filter (· ≠ "")

def blockSize : Nat := 64

def paddedKey (sha256 : List UInt8 → List UInt8) (key : List UInt8) : List UInt8 :=
  let short := if key.length > blockSize then sha256 key else key
  (short ++ List.replicate blockSize 0).take blockSize

def hmac (sha256 : List UInt8 → List UInt8) (key message : List UInt8) : List UInt8 :=
  let padded := paddedKey sha256 key
  sha256 (padded.map (· ^^^ 0x5c) ++ sha256 (padded.map (· ^^^ 0x36) ++ message))

def hexdigest (bytes : List UInt8) : String :=
  String.ofList (bytes.flatMap fun byte => HexText.hex 2 byte.toNat)

variable (sig : SignatureLibrary)

def hmacSha256Hex (secret message : String) : String :=
  hexdigest (hmac sig.sha256 (sig.utf8 secret) (sig.utf8 message))

def providedDigest (signature : String) : String :=
  let text := signature.toList
  let marker := "sha256=".toList
  PolicyValidation.strip (String.ofList (if marker.isPrefixOf text then text.drop marker.length
    else text))

/-- `hmac.compare_digest`, which takes texts of ASCII characters only. -/
def compareDigest (expected provided : String) : Except Exc Bool :=
  if provided.toList.all fun c => c.toNat < 128 then .ok (expected == provided)
  else .error (.other "TypeError" "comparing strings with non-ASCII characters is not supported")

def signatureMaxSkewSeconds : Nat := 300

/-- `signature_method` of the adapter. -/
def signatureMethod : ChannelType → String
  | .wecom => "wecom-token-aeskey"
  | .dingtalk => "dingtalk-timestamp-sign"
  | .feishu => "feishu-encrypt-key-signature"
  | .webWidget => "agenthive-widget-shared-secret"
  | .restApi => "agenthive-rest-shared-secret"

def parseTimestampSeconds (value : String) : Option Int :=
  (sig.int value).map fun timestamp =>
    if timestamp > 10000000000 then timestamp / 1000 else timestamp

def unverified (method reason : String) : SignatureVerification where
  checked := true
  valid := false
  method := some method
  reason := some reason

def skewDetails (skewSeconds : Nat) : JsonDict :=
  [("max_skew_seconds", .num signatureMaxSkewSeconds), ("skew_seconds", .num skewSeconds)]

def checkedDetails (timestamp : String) (skewSeconds : Nat) : JsonDict :=
  [("timestamp", .str timestamp), ("nonce_present", .bool true)] ++ skewDetails skewSeconds

/-- `_verify_agenthive_hmac`, with the time in seconds. -/
def verifyAgenthiveHmac (channelType : ChannelType) (payload : JsonDict) (headers : Headers)
    (secret : String) (now : Int) : Except Exc SignatureVerification :=
  let method := signatureMethod channelType ++ "+hmac-sha256"
  let signature := (header headers "x-agenthive-signature").or
    (header headers "x-agenthive-signature-256")
  match signature, header headers "x-agenthive-timestamp", header headers "x-agenthive-nonce" with
  | some signature, some timestamp, some nonce =>
    match parseTimestampSeconds sig timestamp with
    | none => .ok (unverified method "Invalid X-AgentHive-Timestamp header.")
    | some seconds =>
      let skew := (now - seconds).natAbs
      if skew > signatureMaxSkewSeconds then
        .ok { unverified method "Webhook timestamp is outside the allowed replay window." with
          details := skewDetails skew }
      else do
        let base := timestamp ++ "." ++ nonce ++ "." ++ sig.dumps payload
        let valid ← compareDigest (hmacSha256Hex sig secret base) (providedDigest signature)
        pure
          { checked := true, valid := valid, method := some method
            reason := some (if valid then "Signature verified." else "Signature mismatch.")
            details := checkedDetails timestamp skew }
  | _, _, _ =>
    .ok (unverified method
      ("Missing X-AgentHive-Signature, X-AgentHive-Timestamp, " ++
        "or X-AgentHive-Nonce header."))

def verifySignature (channelType : ChannelType) (payload : JsonDict) (headers : Headers)
    (secret : Option String) (now : Int) : Except Exc SignatureVerification :=
  match secret.filter (· ≠ "") with
  | none => .ok
      { method := some (signatureMethod channelType)
        reason := some "No channel secret configured." }
  | some secret => verifyAgenthiveHmac sig channelType payload headers secret now

def rotated (signature : SignatureVerification) : SignatureVerification :=
  let details := JsonDict.set signature.details "rotation_previous_secret_used" (.bool true)
  { signature with details := details }

variable (channel : ChannelRecord)

def webhookSignature (payload : JsonDict) (headers : Headers) (now : Int) :
    Except Exc SignatureVerification := do
  let signature ← verifySignature sig channel.channelType payload headers
    (if channel.secretError.isNone then channel.secret else none) now
  match (channel.previousSecret.filter (· ≠ "")) with
  | none => pure signature
  | some previous =>
    if signature.valid = false ∧ channel.secretError = none then do
      let previousSignature ← verifySignature sig channel.channelType payload headers
        (some previous) now
      pure (if previousSignature.valid then rotated previousSignature else signature)
    else pure signature

def channelSecretConfigured : Bool :=
  channel.secretConfigured.getD channel.secret.isSome

def webhookPasses (signature : SignatureVerification) : Bool :=
  channel.secretError.isNone && !(channelSecretConfigured channel && !signature.valid)

/-- The order of `sorted`, of texts. -/
def codePoints (text : List Char) : List Nat := text.map Char.toNat

def canonicalQuery (rawQuery : String) : String :=
  String.ofList (List.intercalate ['&']
    ((rawQuery.toList.splitOn '&').insertionSort fun a b => codePoints a ≤ codePoints b))

def signingBase (timestamp nonce method path query : String) : String :=
  timestamp ++ "." ++ nonce ++ "." ++ method ++ "." ++ path ++ "?" ++ query

structure PollRequest where
  method : String
  path : String
  query : String
  headers : Headers

def expectedDigest (request : PollRequest) (timestamp nonce secret : String) : String :=
  hmacSha256Hex sig secret
    (signingBase timestamp nonce request.method request.path (canonicalQuery request.query))

def anyCandidate (expected : String → String) (provided : String) :
    List (Option String) → Except Exc Bool
  | [] => .ok false
  | candidate :: rest =>
    match candidate.filter (· ≠ "") with
    | none => anyCandidate expected provided rest
    | some secret => do
      if ← compareDigest (expected secret) provided then pure true
      else anyCandidate expected provided rest

def verifyPollSignature (request : PollRequest) : Except Exc Bool :=
  if (channel.secret.getD "") = "" ∧ (channel.previousSecret.getD "") = "" then .ok true
  else
    match header request.headers "x-agenthive-signature",
      header request.headers "x-agenthive-timestamp",
      header request.headers "x-agenthive-nonce" with
    | some signature, some timestamp, some nonce =>
      anyCandidate (expectedDigest sig request timestamp nonce) (providedDigest signature)
        [channel.secret, channel.previousSecret]
    | _, _, _ => .ok false

theorem hexdigest_chars {bytes : List UInt8} {c : Char} (mem : c ∈ (hexdigest bytes).toList) :
    HexText.isHexChar c = true := by
  rw [hexdigest, String.toList_ofList, List.mem_flatMap] at mem
  obtain ⟨byte, _, there⟩ := mem
  exact HexText.isHexChar_of_mem_hex there

theorem hexChar_small {c : Char} (hex : HexText.isHexChar c = true) :
    c.toNat < 128 ∧ PolicyValidation.isSpace c = false ∧ c ≠ 's' := by
  have all : "0123456789abcdef".toList.all (fun c =>
      decide (c.toNat < 128 ∧ PolicyValidation.isSpace c = false ∧ c ≠ 's')) = true := by
    decide +kernel
  exact of_decide_eq_true (List.all_eq_true.mp all c (List.contains_iff_mem.mp hex))

theorem compareDigest_hex {bytes : List UInt8} {provided : String} :
    compareDigest (hexdigest bytes) provided = .ok true ↔ hexdigest bytes = provided := by
  unfold compareDigest
  constructor
  · intro equal
    split at equal
    · exact beq_iff_eq.mp (Except.ok.inj equal)
    · cases equal
  · intro same
    rw [if_pos, ← same, beq_self_eq_true]
    rw [← same, List.all_eq_true]
    exact fun c mem => decide_eq_true (hexChar_small (hexdigest_chars mem)).1

theorem compareDigest_digest (expected : String) (bytes : List UInt8) :
    compareDigest expected (hexdigest bytes) = .ok (expected == hexdigest bytes) := by
  unfold compareDigest
  rw [if_pos]
  rw [List.all_eq_true]
  exact fun c mem => decide_eq_true (hexChar_small (hexdigest_chars mem)).1

theorem strip_hexdigest (bytes : List UInt8) :
    PolicyValidation.strip (hexdigest bytes) = hexdigest bytes := by
  have kept : ∀ text : List Char, (∀ c ∈ text, HexText.isHexChar c = true) →
      text.dropWhile PolicyValidation.isSpace = text := by
    intro text hex
    cases text with
    | nil => rfl
    | cons c rest =>
      rw [List.dropWhile_cons, (hexChar_small (hex c (.head _))).2.1]
      rfl
  have hex : ∀ c ∈ (hexdigest bytes).toList, HexText.isHexChar c = true :=
    fun c mem => hexdigest_chars mem
  unfold PolicyValidation.strip
  rw [kept _ hex, kept _ fun c mem => hex c (List.mem_reverse.mp mem), List.reverse_reverse,
    String.ofList_toList]

theorem providedDigest_marked (bytes : List UInt8) :
    providedDigest ("sha256=" ++ hexdigest bytes) = hexdigest bytes := by
  unfold providedDigest
  simp [String.toList_append, strip_hexdigest]

section Candidates

variable {expected : String → String} {provided secret : String} {candidate : Option String}
variable {rest : List (Option String)}

theorem anyCandidate_skip (unusable : candidate.filter (· ≠ "") = none) :
    anyCandidate expected provided (candidate :: rest) = anyCandidate expected provided rest := by
  rw [anyCandidate, unusable]

theorem anyCandidate_some (filled : secret ≠ "") :
    anyCandidate expected provided (some secret :: rest) =
      compareDigest (expected secret) provided >>= fun equal =>
        if equal then pure true else anyCandidate expected provided rest := by
  have usable : (some secret).filter (· ≠ "") = some secret := by simp [filled]
  rw [anyCandidate, usable]

theorem anyCandidate_iff {digest : String → List UInt8}
    (digests : ∀ secret, expected secret = hexdigest (digest secret))
    {candidates : List (Option String)} :
    anyCandidate expected provided candidates = .ok true ↔
      ∃ secret, some secret ∈ candidates ∧ secret ≠ "" ∧ expected secret = provided := by
  induction candidates with
  | nil => simp [anyCandidate]
  | cons candidate rest ih =>
    have later : (∃ secret, some secret ∈ candidate :: rest ∧ secret ≠ "" ∧
        expected secret = provided) ↔ (∃ secret, candidate = some secret ∧ secret ≠ "" ∧
        expected secret = provided) ∨ ∃ secret, some secret ∈ rest ∧ secret ≠ "" ∧
        expected secret = provided := by
      simp only [List.mem_cons, eq_comm (b := candidate), or_and_right, exists_or]
    rw [later]
    cases usable : candidate.filter (· ≠ "") with
    | none =>
      rw [anyCandidate_skip usable, ih]
      refine ⟨.inr, fun h => h.resolve_left ?_⟩
      intro found
      obtain ⟨secret, rfl, filled, _⟩ := found
      simp [filled] at usable
    | some secret =>
      obtain ⟨rfl, filled⟩ := Option.filter_eq_some_iff.mp usable
      rw [anyCandidate_some (of_decide_eq_true filled)]
      constructor
      · intro found
        obtain ⟨equal, compared, found⟩ := Process.Fallible.bind_ok.mp found
        cases equal with
        | true =>
          rw [digests] at compared
          have same := (digests secret).trans (compareDigest_hex.mp compared)
          exact .inl ⟨secret, rfl, of_decide_eq_true filled, same⟩
        | false => exact .inr (ih.mp found)
      · intro found
        have hex : ∃ bytes, provided = hexdigest bytes := by
          rcases found with ⟨other, _, _, same⟩ | ⟨other, _, _, same⟩
          · exact ⟨_, same.symm.trans (digests other)⟩
          · exact ⟨_, same.symm.trans (digests other)⟩
        obtain ⟨bytes, rfl⟩ := hex
        rw [compareDigest_digest]
        by_cases same : expected secret = hexdigest bytes
        · simp [same, Bind.bind, Except.bind, Pure.pure, Except.pure]
        · have behind := ih.mpr (found.resolve_left fun h => by
            obtain ⟨other, eq, _, equal⟩ := h
            exact same (Option.some.inj eq ▸ equal))
          simpa [same, Bind.bind, Except.bind] using behind

end Candidates

def SignedUnder (request : PollRequest) (secret : String) : Prop :=
  ∃ signature timestamp nonce, header request.headers "x-agenthive-signature" = some signature ∧
    header request.headers "x-agenthive-timestamp" = some timestamp ∧
    header request.headers "x-agenthive-nonce" = some nonce ∧
    expectedDigest sig request timestamp nonce secret = providedDigest signature

def UsableSecret (secret : String) : Prop :=
  some secret ∈ [channel.secret, channel.previousSecret] ∧ secret ≠ ""

variable {sig}

theorem no_usableSecret {channel : ChannelRecord} :
    (channel.secret.getD "" = "" ∧ channel.previousSecret.getD "" = "") ↔
      ¬ ∃ secret, UsableSecret channel secret := by
  unfold UsableSecret
  cases channel.secret with
  | none =>
    cases channel.previousSecret with
    | none => simp
    | some previous => simp
  | some secret =>
    cases channel.previousSecret with
    | none => simp
    | some previous => simp

theorem verifyPollSignature_iff {channel : ChannelRecord} {request : PollRequest} :
    verifyPollSignature sig channel request = .ok true ↔
      (¬ ∃ secret, UsableSecret channel secret) ∨
        ∃ secret, UsableSecret channel secret ∧ SignedUnder sig request secret := by
  unfold verifyPollSignature
  by_cases unusable : channel.secret.getD "" = "" ∧ channel.previousSecret.getD "" = ""
  · rw [if_pos unusable]
    exact ⟨fun _ => .inl (no_usableSecret.mp unusable), fun _ => rfl⟩
  · rw [if_neg unusable]
    have usable := fun h => unusable (no_usableSecret.mpr h)
    constructor
    · intro accepted
      split at accepted
      · rename_i signature timestamp nonce signed stamped once
        obtain ⟨secret, mem, filled, same⟩ := (anyCandidate_iff fun _ => rfl).mp accepted
        exact .inr ⟨secret, ⟨mem, filled⟩, signature, timestamp, nonce, signed, stamped, once,
          same⟩
      · cases accepted
    · intro h
      obtain ⟨secret, ⟨mem, filled⟩, signature, timestamp, nonce, signed, stamped, once, same⟩ :=
        h.resolve_left usable
      rw [signed, stamped, once]
      exact (anyCandidate_iff fun _ => rfl).mpr ⟨secret, mem, filled, same⟩

end ChannelSignatures
end AgentHive
