import AgentHive.Services.ChannelChanges
import AgentHive.Services.PollSignatures

/-!
The secrets a channel accepts webhooks under, through any rotations and promotions.

There are two of them at most: the current one, and the one it has replaced while that is staged.
-/

namespace AgentHive

structure LiveSecrets where
  current : String
  staged : Option String
  current_ne : current ≠ ""
  staged_ne : staged ≠ some ""

inductive SecretOperation
  | rotate (newSecret : String) (filled : newSecret ≠ "")
  | promote

namespace LiveSecrets

def created (secret : String) (filled : secret ≠ "") : LiveSecrets where
  current := secret
  staged := none
  current_ne := filled
  staged_ne := by simp

def after (live : LiveSecrets) : SecretOperation → LiveSecrets
  | .rotate newSecret filled =>
    { current := newSecret
      staged := some live.current
      current_ne := filled
      staged_ne := fun empty => live.current_ne (Option.some.inj empty) }
  | .promote => { live with staged := none, staged_ne := by simp }

def afterAll (secret : String) (filled : secret ≠ "") (operations : List SecretOperation) :
    LiveSecrets := operations.foldl after (created secret filled)

def Has (live : LiveSecrets) (secret : String) : Prop :=
  live.current = secret ∨ live.staged = some secret

def Brings (operation : SecretOperation) (secret : String) : Prop :=
  ∃ filled, operation = .rotate secret filled

theorem after_not_has {live : LiveSecrets} {operation : SecretOperation} {secret : String}
    (retired : ¬ live.Has secret) (apart : ¬ Brings operation secret) :
    ¬ (live.after operation).Has secret := by
  intro has
  cases operation with
  | rotate newSecret filled =>
    cases has with
    | inl current =>
      have same : newSecret = secret := current
      subst same
      exact apart ⟨filled, rfl⟩
    | inr staged => exact retired (.inl (Option.some.inj staged))
  | promote =>
    cases has with
    | inl current => exact retired (.inl current)
    | inr staged => cases staged

theorem foldl_not_has {live : LiveSecrets} {operations : List SecretOperation} {secret : String}
    (retired : ¬ live.Has secret) (apart : ∀ operation ∈ operations, ¬ Brings operation secret) :
    ¬ (operations.foldl after live).Has secret := by
  induction operations generalizing live with
  | nil => exact retired
  | cons operation rest ih =>
    apply ih
    · exact after_not_has retired (apart operation (List.mem_cons_self ..))
    · exact fun other mem => apart other (List.mem_cons_of_mem operation mem)

end LiveSecrets

namespace SecretRotation

open Rag (Json JsonDict)
open ChannelService ChannelSignatures

section Model

variable (lib : SecretLibrary) (tenantId channelId : UUID)

def performed (store : ChannelStore) (step : SecretOperation × Instant) : ChannelStore :=
  match step.1 with
  | .rotate newSecret _ =>
    (rotateChannelSecretForTenant lib {} store tenantId step.2 channelId newSecret).2
  | .promote => (promoteChannelSecretForTenant lib {} store tenantId step.2 channelId).2

variable (sig : SignatureLibrary)

def verifiedSignature (channel : ChannelRecord) (payload : JsonDict) (headers : Headers)
    (now later : Int) : Except Exc SignatureVerification := do
  let signature ← verifySignature sig channel.channelType payload headers
    (if channel.secretError.isNone then channel.secret else none) now
  match (channel.previousSecret.filter (· ≠ "")) with
  | none => pure signature
  | some previous =>
    if signature.valid = false ∧ channel.secretError = none then do
      let previousSignature ← verifySignature sig channel.channelType payload headers
        (some previous) later
      pure (if previousSignature.valid then rotated previousSignature else signature)
    else pure signature

/-- The webhook passes the gate: the verification comes to an end and neither the secret nor the
signature is reported. -/
def PassesGate (channel : ChannelRecord) (payload : JsonDict) (headers : Headers)
    (now later : Int) : Prop :=
  ∃ signature, verifiedSignature sig channel payload headers now later = .ok signature ∧
    webhookPasses channel signature = true

def SignedAt (payload : JsonDict) (headers : Headers) (secret : String) (now : Int) : Prop :=
  ∃ signature timestamp nonce seconds,
    (header headers "x-agenthive-signature").or (header headers "x-agenthive-signature-256") =
      some signature ∧
    header headers "x-agenthive-timestamp" = some timestamp ∧
    header headers "x-agenthive-nonce" = some nonce ∧
    parseTimestampSeconds sig timestamp = some seconds ∧
    (now - seconds).natAbs ≤ signatureMaxSkewSeconds ∧
    hmacSha256Hex sig secret (timestamp ++ "." ++ nonce ++ "." ++ sig.dumps payload) =
      providedDigest signature

end Model

variable {lib : SecretLibrary} {sig : SignatureLibrary} {tenantId channelId : UUID}
variable {store : ChannelStore} {key : ChannelType × String} {payload : JsonDict}
variable {headers : Headers} {channel : ChannelRecord} {channelType : ChannelType}
variable {secret : String} {now later : Int}

theorem verifySignature_filled (filled : secret ≠ "") :
    verifySignature sig channelType payload headers (some secret) now =
      verifyAgenthiveHmac sig channelType payload headers secret now := by
  have usable : (some secret).filter (· ≠ "") = some secret := by simp [filled]
  rw [verifySignature, usable]

theorem verifyAgenthiveHmac_signed (signed : SignedAt sig payload headers secret now) :
    ∃ verified, verifyAgenthiveHmac sig channelType payload headers secret now = .ok verified ∧
      verified.valid = true := by
  obtain ⟨signature, timestamp, nonce, seconds, given, stamped, once, parsed, fresh, same⟩ := signed
  have inWindow : ¬ (now - seconds).natAbs > signatureMaxSkewSeconds := Nat.not_lt.mpr fresh
  have equal : compareDigest
      (hmacSha256Hex sig secret (timestamp ++ "." ++ nonce ++ "." ++ sig.dumps payload))
      (providedDigest signature) = .ok true := by
    rw [hmacSha256Hex, compareDigest_hex, ← hmacSha256Hex]
    exact same
  unfold verifyAgenthiveHmac
  simp only [given, stamped, once, parsed, inWindow, if_false, equal]
  exact ⟨_, rfl, rfl⟩

theorem signedAt_of_valid {verified : SignatureVerification}
    (done : verifyAgenthiveHmac sig channelType payload headers secret now = .ok verified)
    (valid : verified.valid = true) : SignedAt sig payload headers secret now := by
  unfold verifyAgenthiveHmac at done
  dsimp only at done
  split at done
  · rename_i signature timestamp nonce given stamped once
    split at done
    · cases done
      cases valid
    · rename_i seconds parsed
      split at done
      · cases done
        cases valid
      · rename_i inWindow
        obtain ⟨equal, compared, result⟩ := Process.Fallible.bind_ok.mp done
        cases result
        have same : equal = true := valid
        rw [same, hmacSha256Hex, compareDigest_hex, ← hmacSha256Hex] at compared
        exact ⟨signature, timestamp, nonce, seconds, given, stamped, once, parsed,
          Nat.not_lt.mp inWindow, compared⟩
  · cases done
    cases valid

theorem verifyAgenthiveHmac_of_signed {other : String}
    (signed : SignedAt sig payload headers secret now) :
    ∃ verified, verifyAgenthiveHmac sig channelType payload headers other later = .ok verified := by
  obtain ⟨signature, timestamp, nonce, seconds, given, stamped, once, parsed, _, same⟩ := signed
  have compared := compareDigest_digest
    (hmacSha256Hex sig other (timestamp ++ "." ++ nonce ++ "." ++ sig.dumps payload))
    (hmac sig.sha256 (sig.utf8 secret)
      (sig.utf8 (timestamp ++ "." ++ nonce ++ "." ++ sig.dumps payload)))
  rw [← hmacSha256Hex, same] at compared
  unfold verifyAgenthiveHmac
  simp only [given, stamped, once, parsed, compared]
  split
  · exact ⟨_, rfl⟩
  · exact ⟨_, rfl⟩

structure Shows (channel : ChannelRecord) (live : LiveSecrets) : Prop where
  secret : channel.secret = some live.current
  previous : channel.previousSecret = live.staged
  configured : channel.secretConfigured = some true
  healthy : channel.secretError = none

variable {live : LiveSecrets}

theorem webhookPasses_of_shows (shows : Shows channel live) (signature : SignatureVerification) :
    webhookPasses channel signature = signature.valid := by
  simp [webhookPasses, ChannelSignatures.channelSecretConfigured, shows.configured, shows.healthy]

theorem verifiedSignature_of_shows (shows : Shows channel live) :
    verifiedSignature sig channel payload headers now later =
      verifyAgenthiveHmac sig channel.channelType payload headers live.current now >>=
        fun signature =>
          match live.staged with
          | none => pure signature
          | some previous =>
            if signature.valid = false then do
              let previousSignature ← verifyAgenthiveHmac sig channel.channelType payload headers
                previous later
              pure (if previousSignature.valid then rotated previousSignature else signature)
            else pure signature := by
  unfold verifiedSignature
  rw [shows.healthy, shows.secret, shows.previous]
  simp only [Option.isNone_none, if_true, verifySignature_filled live.current_ne, and_true]
  cases staged : live.staged with
  | none => rfl
  | some previous =>
    have filled : previous ≠ "" := fun empty => live.staged_ne (empty ▸ staged)
    have usable : (some previous).filter (· ≠ "") = some previous := by simp [filled]
    simp only [usable, verifySignature_filled filled]

theorem passesGate_iff (shows : Shows channel live) :
    PassesGate sig channel payload headers now later ↔
      SignedAt sig payload headers live.current now ∨
        ∃ previous, live.staged = some previous ∧ SignedAt sig payload headers previous later := by
  unfold PassesGate
  rw [verifiedSignature_of_shows shows]
  constructor
  · intro passes
    obtain ⟨signature, done, valid⟩ := passes
    rw [webhookPasses_of_shows shows] at valid
    obtain ⟨first, verified, rest⟩ := Process.Fallible.bind_ok.mp done
    split at rest
    · cases rest
      exact .inl (signedAt_of_valid verified valid)
    · rename_i previous staged
      split at rest
      · rename_i invalid
        obtain ⟨second, reverified, result⟩ := Process.Fallible.bind_ok.mp rest
        cases accepted : second.valid with
        | true => exact .inr ⟨previous, staged, signedAt_of_valid reverified accepted⟩
        | false =>
          rw [accepted] at result
          cases result
          exact absurd (invalid.symm.trans valid) (by decide)
      · cases rest
        exact .inl (signedAt_of_valid verified valid)
  · intro signed
    have verifies : ∃ first, verifyAgenthiveHmac sig channel.channelType payload headers
        live.current now = .ok first := by
      cases signed with
      | inl current => exact verifyAgenthiveHmac_of_signed current
      | inr behind =>
        obtain ⟨previous, _, signed⟩ := behind
        exact verifyAgenthiveHmac_of_signed signed
    obtain ⟨first, verified⟩ := verifies
    rw [verified]
    cases accepted : first.valid with
    | true =>
      refine ⟨first, ?_, (webhookPasses_of_shows shows first).trans accepted⟩
      cases live.staged with
      | none => rfl
      | some previous => simp [Bind.bind, Except.bind, accepted, Pure.pure, Except.pure]
    | false =>
      have other : ¬ SignedAt sig payload headers live.current now := by
        intro current
        obtain ⟨again, same, valid⟩ := @verifyAgenthiveHmac_signed sig payload headers
          channel.channelType live.current now current
        rw [verified] at same
        cases same
        rw [accepted] at valid
        cases valid
      obtain ⟨previous, staged, behind⟩ := signed.resolve_left other
      obtain ⟨second, reverified, valid⟩ := @verifyAgenthiveHmac_signed sig payload headers
        channel.channelType previous later behind
      refine ⟨rotated second, ?_, (webhookPasses_of_shows shows _).trans valid⟩
      simp [staged, Bind.bind, Except.bind, accepted, reverified, valid, Pure.pure, Except.pure]

structure Holds (lib : SecretLibrary) (tenantId channelId : UUID) (key : ChannelType × String)
    (store : ChannelStore) (live : LiveSecrets) : Prop where
  row : ∃ row, rowByKey store key = some (channelId, row) ∧ row.tenantId = tenantId ∧
    row.secretRef = some (lib.encryptSecret live.current) ∧
    row.previousSecretRef = live.staged.map lib.encryptSecret ∧ row.secretConfigured = true

theorem rowByKey_of_change {row : ChannelConfig} {changeRow : ChannelConfig → ChannelConfig}
    {changeRecord : ChannelRecord → ChannelRecord} (keeps : KeepsKey changeRow)
    (found : rowByKey store key = some (channelId, row)) (ofTenant : row.tenantId = tenantId) :
    rowByKey (changeChannel lib {} store tenantId channelId changeRow changeRecord).2 key =
      some (channelId, changeRow row) := by
  have stored := stored_of_rowByKey found
  have looked : (getTenantChannel lib none store tenantId channelId).1 =
      .ok (recordFromRow lib channelId row) := by
    have ofRow : tenantRow store tenantId channelId = some row :=
      tenantRow_eq_some.mpr ⟨stored, ofTenant⟩
    simp only [getTenantChannel, ofRow]
  have written : ChangeWritten {} := ⟨rfl, rfl, .inl rfl⟩
  rw [rowByKey_changed keeps looked, found, Option.map_some, if_pos ⟨rfl, ofTenant, written⟩]

section

variable (holds : Holds lib tenantId channelId key store live)

include holds

theorem holds_performed (step : SecretOperation × Instant) :
    Holds lib tenantId channelId key (performed lib tenantId channelId store step)
      (live.after step.1) := by
  obtain ⟨operation, time⟩ := step
  obtain ⟨row, found, ofTenant, current, staged, configured⟩ := holds.row
  cases operation with
  | rotate newSecret filled =>
    refine ⟨_, rowByKey_of_change (fun row => ⟨rfl, rfl⟩) found ofTenant, ofTenant, ?_, ?_, ?_⟩
    · exact if_neg filled
    · exact current
    · simp [truthy, filled, lib.encrypt_ne]
  | promote =>
    exact ⟨_, rowByKey_of_change (fun row => ⟨rfl, rfl⟩) found ofTenant, ofTenant, current, rfl,
      configured⟩

theorem holds_run (steps : List (SecretOperation × Instant)) :
    Holds lib tenantId channelId key (steps.foldl (performed lib tenantId channelId) store)
      ((steps.map Prod.fst).foldl LiveSecrets.after live) := by
  induction steps generalizing store live with
  | nil => exact holds
  | cons step rest ih => exact ih (holds_performed holds step)

theorem shows_of_holds :
    ∃ channel, (receiveChannelWebhook lib none store key).1 = some channel ∧
      Shows channel live := by
  obtain ⟨row, found, _, current, staged, configured⟩ := holds.row
  have usable : row.secretRef.filter (· ≠ "") = some (lib.encryptSecret live.current) := by
    simp [current, lib.encrypt_ne]
  have decrypted : decryptChannelSecret lib row = (some live.current, none) := by
    rw [decryptChannelSecret, usable]
    simp only [lib.decrypt_encrypt]
  refine ⟨_, receiveChannelWebhook_of_row lib found, ?_, ?_, ?_, ?_⟩
  · exact congrArg Prod.fst decrypted
  · show decryptPreviousSecret lib row = live.staged
    rw [decryptPreviousSecret, staged]
    cases live.staged with
    | none => rfl
    | some previous =>
      rw [Option.map_some, Option.filter_some, if_pos (decide_eq_true (lib.encrypt_ne previous)),
        Option.bind_some, lib.decrypt_encrypt]
  · show some (row.secretConfigured || truthy row.secretRef) = some true
    rw [configured, Bool.true_or]
  · exact congrArg Prod.snd decrypted

end

theorem holds_created {license : Except Exc LicenseStatusResponse} {request : ChannelCreateRequest}
    {actorId : Option UUID} {newId : UUID} {time : Instant} {created : ChannelRecord}
    (given : request.secret = some secret) (filled : secret ≠ "")
    (done : (createChannelForTenant lib {} store tenantId time license request actorId newId).1 =
      .ok created)
    (fresh : newId ∉ store.rows.keys)
    (free : rowByKey store (request.channelType, request.channelKey) = none) :
    Holds lib tenantId newId (request.channelType, request.channelKey)
      (createChannelForTenant lib {} store tenantId time license request actorId newId).2
      (.created secret filled) := by
  have allowed : CreationAllowed {} store license (request.channelType, request.channelKey) := by
    by_contra refused
    obtain ⟨x, failed⟩ := @createChannelForTenant_of_refused lib {} store tenantId time license
      request actorId newId refused
    rw [failed] at done
    cases done
  have rows := @rows_createChannelForTenant lib {} store tenantId time license request actorId
    newId allowed
  rw [if_pos ⟨rfl, rfl, fresh, free⟩] at rows
  refine ⟨createdRow lib tenantId time request actorId, ?_, rfl, ?_, rfl, ?_⟩
  · rw [rowByKey_insert rows fresh, free, Option.none_or]
    exact if_pos ⟨rfl, rfl⟩
  · simp [createdRow, given, filled, LiveSecrets.created]
  · simp [createdRow, given, filled, truthy]

/-- Through every sequence of rotations and promotions of a channel created with a secret, a
webhook passes the gate exactly when it is signed under the current secret or the staged one, and
a secret that is neither stays out until it is brought again. -/
theorem gate_admits_live_secrets {license : Except Exc LicenseStatusResponse}
    {request : ChannelCreateRequest} {actorId : Option UUID} {newId : UUID} {time : Instant}
    {created : ChannelRecord} (given : request.secret = some secret) (filled : secret ≠ "")
    (done : (createChannelForTenant lib {} store tenantId time license request actorId newId).1 =
      .ok created)
    (fresh : newId ∉ store.rows.keys)
    (free : rowByKey store (request.channelType, request.channelKey) = none)
    (steps : List (SecretOperation × Instant)) (sig : SignatureLibrary) (payload : JsonDict)
    (headers : Headers) (now later : Int) :
    (∃ channel,
      (receiveChannelWebhook lib none (steps.foldl (performed lib tenantId newId)
        (createChannelForTenant lib {} store tenantId time license request actorId newId).2)
        (request.channelType, request.channelKey)).1 = some channel ∧
      (PassesGate sig channel payload headers now later ↔
        SignedAt sig payload headers
          (LiveSecrets.afterAll secret filled (steps.map Prod.fst)).current now ∨
        ∃ previous,
          (LiveSecrets.afterAll secret filled (steps.map Prod.fst)).staged = some previous ∧
          SignedAt sig payload headers previous later)) ∧
    ∀ operations retired,
      ¬ (LiveSecrets.afterAll secret filled (steps.map Prod.fst)).Has retired →
      (∀ operation ∈ operations, ¬ LiveSecrets.Brings operation retired) →
      ¬ (LiveSecrets.afterAll secret filled (steps.map Prod.fst ++ operations)).Has retired := by
  have holds := holds_run (holds_created given filled done fresh free) steps
  obtain ⟨channel, found, shows⟩ := shows_of_holds holds
  refine ⟨⟨channel, found, passesGate_iff shows⟩, fun operations retired out apart => ?_⟩
  rw [LiveSecrets.afterAll, List.foldl_append]
  exact LiveSecrets.foldl_not_has out apart

def widgetLicense : LicenseStatusResponse where
  status := .active
  licenseType := "standard"
  customerName := "Shop"
  deploymentId := 1
  installId := 1
  machineFingerprintHash := ""
  allowedModules := []
  allowedFeatures := ["channel.web_widget"]
  moduleCount := 0
  featureCount := 1

def sealedRequest : ChannelCreateRequest where
  name := "Shop"
  channelType := .webWidget
  channelKey := "shop"
  secret := some "a"
  secret_ne := by decide

theorem a_filled : "a" ≠ "" := by decide

theorem b_filled : "b" ≠ "" := by decide

def signedHeaders : Headers :=
  [("x-agenthive-timestamp", "1000"), ("x-agenthive-nonce", "n"),
    ("x-agenthive-signature", "sha256=" ++
      hmacSha256Hex PollSignatures.plainSignatures "a"
        ("1000" ++ "." ++ "n" ++ "." ++ PollSignatures.plainSignatures.dumps []))]

theorem staged_secret_passes :
    ∃ channel,
      (receiveChannelWebhook plainSecrets none
        ([(.rotate "b" b_filled, 1)].foldl (performed plainSecrets 1 2)
          (createChannelForTenant plainSecrets {} emptyChannels 1 0 (.ok widgetLicense)
            sealedRequest none 2).2) (.webWidget, "shop")).1 = some channel ∧
      PassesGate PollSignatures.plainSignatures channel [] signedHeaders 1100 1100 := by
  obtain ⟨⟨channel, found, gate⟩, _⟩ := @gate_admits_live_secrets plainSecrets 1 emptyChannels "a"
    (.ok widgetLicense) sealedRequest none 2 0 _ rfl a_filled rfl (by decide) rfl
    [(.rotate "b" b_filled, 1)] PollSignatures.plainSignatures [] signedHeaders 1100 1100
  refine ⟨channel, found, gate.mpr (.inr ⟨"a", rfl, ?_⟩)⟩
  refine ⟨_, "1000", "n", 1000, rfl, rfl, rfl, by decide +kernel, by decide, ?_⟩
  exact (providedDigest_marked _).symm

end SecretRotation
end AgentHive
