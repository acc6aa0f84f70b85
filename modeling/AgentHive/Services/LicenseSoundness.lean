import AgentHive.Services.LicenseCrypto

/-!
What a verified license grants, and when its verification raises.
-/

namespace AgentHive.LicenseCrypto

open JsonText TextBytes

variable {N D K : Type}

section Canonical

variable {texts : PayloadTexts N D} {p q : SignedLicensePayload N D}
variable {metadata metadata' : List (List Nat × Value N)}

theorem sortKeys_jsonTexts (items : List String) :
    sortKeys (jsonTexts items : Value N) = jsonTexts items := by
  have kept : sortItems (items.map jsonText : List (Value N)) = items.map jsonText := by
    induction items with
    | nil => rw [List.map_nil, sortItems]
    | cons item rest ih => rw [List.map_cons, sortItems, ih, jsonText, sortKeys]
  rw [jsonTexts, sortKeys, kept]

theorem jsonText_inj {text text' : String}
    (same : sortKeys (jsonText text : Value N) = sortKeys (jsonText text')) : text = text' := by
  rw [jsonText, jsonText, sortKeys, sortKeys] at same
  exact codes_inj (Value.str.inj same)

theorem jsonTexts_inj {items items' : List String}
    (same : sortKeys (jsonTexts items : Value N) = sortKeys (jsonTexts items')) :
    items = items' := by
  rw [sortKeys_jsonTexts, sortKeys_jsonTexts] at same
  have texts : Function.Injective (jsonText : String → Value N) :=
    fun _ _ eq => codes_inj (Value.str.inj eq)
  exact texts.list_map (Value.arr.inj same)

theorem mem_fields {name : String} {v : Value N} :
    (codes name, v) ∈ (payloadFields texts p metadata).filterMap fieldEntry ↔
      (name, some v) ∈ payloadFields texts p metadata := by
  rw [List.mem_filterMap]
  constructor
  · intro h
    obtain ⟨⟨name', value⟩, mem, entry⟩ := h
    obtain ⟨v', rfl, same⟩ := Option.map_eq_some_iff.mp entry
    obtain ⟨names, values⟩ := Prod.mk.inj same
    rw [← codes_inj names, ← values]
    exact mem
  · intro mem
    exact ⟨(name, some v), mem, rfl⟩

theorem canonical_some {signed : List Nat} (given : canonicalLicensePayload texts p = some signed) :
    ∃ metadata, encodeUtf8 (dumps texts.numbers
      (.obj ((payloadFields texts p metadata).filterMap fieldEntry))) = some signed := by
  obtain ⟨document, dumped, encoded⟩ := Option.bind_eq_some_iff.mp given
  obtain ⟨metadata, _, rfl⟩ := Option.map_eq_some_iff.mp dumped
  exact ⟨metadata, encoded⟩

structure IsField (texts : PayloadTexts N D) {α : Type} (name : String)
    (value : SignedLicensePayload N D → Option α) (write : α → Value N) : Prop where
  write_inj : ∀ {a b}, sortKeys (write a) = sortKeys (write b) → a = b
  mem_iff : ∀ p metadata v,
    (name, some v) ∈ payloadFields texts p metadata ↔ (value p).map write = some v

section Field

variable {α : Type} {name : String} {value : SignedLicensePayload N D → Option α}
variable {write : α → Value N}

theorem IsField.of_entries (field : IsField texts name value write)
    (entries : ∀ {v}, (name, some v) ∈ payloadFields texts p metadata →
      ∃ w, (name, some w) ∈ payloadFields texts q metadata' ∧ sortKeys w = sortKeys v)
    {a : α} (given : value p = some a) : value q = some a := by
  have there : (value p).map write = some (write a) := by rw [given]; rfl
  obtain ⟨w, found, sorted⟩ := entries ((field.mem_iff p metadata _).mpr there)
  obtain ⟨b, written, rfl⟩ := Option.map_eq_some_iff.mp ((field.mem_iff q metadata' _).mp found)
  rw [written, field.write_inj sorted]

theorem IsField.of_canonical (field : IsField texts name value write) {signed : List Nat}
    (first : canonicalLicensePayload texts p = some signed)
    (second : canonicalLicensePayload texts q = some signed) : value p = value q := by
  obtain ⟨metadata, written⟩ := canonical_some first
  obtain ⟨metadata', written'⟩ := canonical_some second
  have same := encodeUtf8_inj written written'
  have forth : ∀ {v}, (name, some v) ∈ payloadFields texts p metadata →
      ∃ w, (name, some w) ∈ payloadFields texts q metadata' ∧ sortKeys w = sortKeys v := by
    intro v mem
    obtain ⟨w, there, sorted⟩ := entries_of_dumps texts.numbers same (mem_fields.mpr mem)
    exact ⟨w, mem_fields.mp there, sorted⟩
  have back : ∀ {v}, (name, some v) ∈ payloadFields texts q metadata' →
      ∃ w, (name, some w) ∈ payloadFields texts p metadata ∧ sortKeys w = sortKeys v := by
    intro v mem
    obtain ⟨w, there, sorted⟩ := entries_of_dumps texts.numbers same.symm (mem_fields.mpr mem)
    exact ⟨w, mem_fields.mp there, sorted⟩
  cases given : value p with
  | some a => exact (field.of_entries forth given).symm
  | none =>
    cases given' : value q with
    | none => rfl
    | some b => exact given.symm.trans (field.of_entries back given')

end Field

end Canonical

section Grants

variable (texts : PayloadTexts N D)

theorem modules_isField : IsField texts "allowed_modules" (fun p => some p.allowedModules)
    jsonTexts where
  write_inj := jsonTexts_inj
  mem_iff p metadata v := by simp [payloadFields, eq_comm]

theorem features_isField : IsField texts "allowed_features" (fun p => some p.allowedFeatures)
    jsonTexts where
  write_inj := jsonTexts_inj
  mem_iff p metadata v := by simp [payloadFields, eq_comm]

theorem ofInt_write {n m : Int}
    (same : sortKeys (.num (texts.ofInt n) : Value N) = sortKeys (.num (texts.ofInt m))) :
    n = m := by
  rw [sortKeys, sortKeys] at same
  exact texts.ofInt_inj (Value.num.inj same)

theorem maxUsers_isField : IsField texts "max_users" (fun p => p.maxUsers)
    (fun n => .num (texts.ofInt n)) where
  write_inj := ofInt_write texts
  mem_iff p metadata v := by simp [payloadFields, eq_comm]

theorem maxAgents_isField : IsField texts "max_agents" (fun p => p.maxAgents)
    (fun n => .num (texts.ofInt n)) where
  write_inj := ofInt_write texts
  mem_iff p metadata v := by simp [payloadFields, eq_comm]

theorem maxKbSizeGb_isField : IsField texts "max_kb_size_gb" (fun p => p.maxKbSizeGb)
    (fun d => jsonText (texts.decimalText d)) where
  write_inj same := texts.decimalText_inj (jsonText_inj same)
  mem_iff p metadata v := by simp [payloadFields, eq_comm]

end Grants

structure SameGrants (p q : SignedLicensePayload N D) : Prop where
  modules : p.allowedModules = q.allowedModules
  features : p.allowedFeatures = q.allowedFeatures
  maxUsers : p.maxUsers = q.maxUsers
  maxAgents : p.maxAgents = q.maxAgents
  maxKbSizeGb : p.maxKbSizeGb = q.maxKbSizeGb

theorem sameGrants_of_canonical {texts : PayloadTexts N D} {p q : SignedLicensePayload N D}
    {signed : List Nat} (first : canonicalLicensePayload texts p = some signed)
    (second : canonicalLicensePayload texts q = some signed) : SameGrants p q where
  modules := Option.some.inj ((modules_isField texts).of_canonical first second)
  features := Option.some.inj ((features_isField texts).of_canonical first second)
  maxUsers := (maxUsers_isField texts).of_canonical first second
  maxAgents := (maxAgents_isField texts).of_canonical first second
  maxKbSizeGb := (maxKbSizeGb_isField texts).of_canonical first second

def Comparable (first second : PyDatetime) : Prop := first.offset.isSome = second.offset.isSome

def NotAfter (first second : PyDatetime) : Prop :=
  ∃ apart, difference first second = .ok apart ∧ apart ≤ 0

def After (first second : PyDatetime) : Prop :=
  ∃ apart, difference first second = .ok apart ∧ 0 < apart

def Begun (checkedAt : PyDatetime) (payload : SignedLicensePayload N D) : Prop :=
  ∀ date, payload.notBefore = some date → NotAfter date checkedAt

def Unexpired (checkedAt : PyDatetime) (payload : SignedLicensePayload N D) : Prop :=
  ∀ date, payload.expiresAt = some date → After date checkedAt

structure Bound (identity : LicenseIdentity) (payload : SignedLicensePayload N D) : Prop where
  product : payload.product = "AgentHive"
  tenant : truthy identity.tenantId = true → truthy payload.tenantId = true →
    payload.tenantId = identity.tenantId
  deployment : payload.deploymentId = identity.deploymentId
  install : payload.installId = identity.installId
  fingerprint : payload.machineFingerprintHash = identity.machineFingerprintHash

section Claims

variable (lib : LicenseLibrary N D K) (raw publicKeyPem : List Nat) (identity : LicenseIdentity)
variable (checkedAt : PyDatetime)

def Signed (key : K) (envelope : SignedLicenseEnvelope N D) : Prop :=
  ∃ signature signed, lib.b64decode envelope.signature = some signature ∧
    canonicalLicensePayload lib.toPayloadTexts envelope.payload = some signed ∧
    lib.verify key signature signed = true

def Accepts : Prop :=
  ∃ envelope key, parseSignedLicense lib raw = .ok envelope ∧
    envelope.signatureAlg = "Ed25519" ∧ lib.loadPem publicKeyPem = .ed25519 key ∧
    Signed lib key envelope ∧ Bound identity envelope.payload ∧
    Begun checkedAt envelope.payload ∧ Unexpired checkedAt envelope.payload

def VerifiesSoundly : Prop :=
  ∃ result, verifySignedLicense lib raw publicKeyPem identity checkedAt = .ok result ∧
    (result.valid = true ↔ Accepts lib raw publicKeyPem identity checkedAt)

/-- The key is of a kind that is supported, and the dates of a license that is signed for the
installation can be compared with the time, as far as they are. -/
def Checkable : Prop :=
  ∀ envelope, parseSignedLicense lib raw = .ok envelope → envelope.signatureAlg = "Ed25519" →
    (∀ message, lib.loadPem publicKeyPem ≠ .unsupported message) ∧
    ∀ key, lib.loadPem publicKeyPem = .ed25519 key → Signed lib key envelope →
      Bound identity envelope.payload →
      (∀ date, envelope.payload.notBefore = some date → Comparable date checkedAt) ∧
      (Begun checkedAt envelope.payload →
        ∀ date, envelope.payload.expiresAt = some date → Comparable date checkedAt)

end Claims

section Dates

variable {first second checkedAt : PyDatetime} {date : Option PyDatetime}

theorem difference_ok : (∃ apart, difference first second = .ok apart) ↔
    Comparable first second := by
  unfold difference Comparable
  cases first.offset with
  | none =>
    cases second.offset with
    | none => simp
    | some b => simp
  | some a =>
    cases second.offset with
    | none => simp
    | some b => simp

theorem dateIs_ok (test : Int → Bool) : (∃ b, dateIs test date checkedAt = .ok b) ↔
    ∀ d, date = some d → Comparable d checkedAt := by
  cases date with
  | none => simp [dateIs]
  | some d =>
    simp only [Option.some.injEq, forall_eq', ← difference_ok]
    constructor
    · intro h
      obtain ⟨b, returned⟩ := h
      obtain ⟨apart, found, _⟩ := Process.Fallible.bind_ok.mp returned
      exact ⟨apart, found⟩
    · intro h
      obtain ⟨apart, found⟩ := h
      exact ⟨test apart, Process.Fallible.bind_ok.mpr ⟨apart, found, rfl⟩⟩

theorem dateIs_false {test : Int → Bool} : dateIs test date checkedAt = .ok false ↔
    ∀ d, date = some d → ∃ apart, difference d checkedAt = .ok apart ∧ test apart = false := by
  cases date with
  | none => simp [dateIs]
  | some d =>
    simp only [Option.some.injEq, forall_eq']
    rw [dateIs, Process.Fallible.bind_ok]
    exact exists_congr fun apart => and_congr_right fun _ =>
      ⟨fun same => Except.ok.inj same, fun same => congrArg _ same⟩

end Dates

section Checks

open Process.Fallible

variable {lib : LicenseLibrary N D K} {raw publicKeyPem : List Nat} {identity : LicenseIdentity}
variable {checkedAt : PyDatetime} {envelope : SignedLicenseEnvelope N D} {key : K}
variable {payload : SignedLicensePayload N D}

theorem begun_iff :
    dateIs (fun apart => 0 < apart) payload.notBefore checkedAt = .ok false ↔
      Begun checkedAt payload := by
  simp only [dateIs_false, Begun, NotAfter, decide_eq_false_iff_not, not_lt]

theorem unexpired_iff :
    dateIs (fun apart => apart ≤ 0) payload.expiresAt checkedAt = .ok false ↔
      Unexpired checkedAt payload := by
  simp only [dateIs_false, Unexpired, After, decide_eq_false_iff_not, not_le]

theorem signatureVerifies_iff : signatureVerifies lib key envelope = true ↔
    Signed lib key envelope := by
  unfold signatureVerifies Signed
  cases lib.b64decode envelope.signature with
  | none => simp
  | some signature =>
    cases canonicalLicensePayload lib.toPayloadTexts envelope.payload with
    | none => simp
    | some signed => simp

theorem bindingMismatch_none : bindingMismatch identity payload = none ↔
    Bound identity payload := by
  unfold bindingMismatch
  constructor
  · intro fine
    split_ifs at fine with product tenant deployment install fingerprint
    refine ⟨not_not.mp product, fun given given' => ?_, not_not.mp deployment,
      not_not.mp install, not_not.mp fingerprint⟩
    by_contra other
    exact tenant ⟨given, given', other⟩
  · intro bound
    rw [if_neg (not_not.mpr bound.product),
      if_neg fun other => other.2.2 (bound.tenant other.1 other.2.1),
      if_neg (not_not.mpr bound.deployment), if_neg (not_not.mpr bound.install),
      if_neg (not_not.mpr bound.fingerprint)]

variable {result : LicenseVerificationResult N D}

theorem checkExpiry_valid (returned : checkExpiry checkedAt envelope = .ok result) :
    result.valid = true ↔ Unexpired checkedAt envelope.payload := by
  obtain ⟨late, found, rest⟩ := bind_ok.mp returned
  rw [← unexpired_iff, found]
  cases late with
  | false =>
    cases rest
    simp
  | true =>
    cases rest
    simp

theorem checkExpiry_returns : (∃ result, checkExpiry checkedAt envelope = .ok result) ↔
    ∀ date, envelope.payload.expiresAt = some date → Comparable date checkedAt := by
  rw [← dateIs_ok fun apart => decide (apart ≤ 0)]
  constructor
  · intro h
    obtain ⟨result, returned⟩ := h
    obtain ⟨late, found, _⟩ := bind_ok.mp returned
    exact ⟨late, found⟩
  · intro h
    obtain ⟨late, found⟩ := h
    exact ⟨_, bind_ok.mpr ⟨late, found, rfl⟩⟩

theorem checkDates_valid (returned : checkDates checkedAt envelope = .ok result) :
    result.valid = true ↔
      Begun checkedAt envelope.payload ∧ Unexpired checkedAt envelope.payload := by
  obtain ⟨early, found, rest⟩ := bind_ok.mp returned
  rw [← begun_iff, found]
  cases early with
  | true =>
    cases rest
    simp
  | false =>
    rw [checkExpiry_valid rest]
    simp

theorem checkDates_returns : (∃ result, checkDates checkedAt envelope = .ok result) ↔
    (∀ date, envelope.payload.notBefore = some date → Comparable date checkedAt) ∧
      (Begun checkedAt envelope.payload →
        ∀ date, envelope.payload.expiresAt = some date → Comparable date checkedAt) := by
  rw [← dateIs_ok fun apart => decide (0 < apart), ← begun_iff]
  constructor
  · intro h
    obtain ⟨result, returned⟩ := h
    obtain ⟨early, found, rest⟩ := bind_ok.mp returned
    refine ⟨⟨early, found⟩, fun begun => ?_⟩
    rw [found] at begun
    rw [Except.ok.inj begun] at rest
    exact checkExpiry_returns.mp ⟨result, rest⟩
  · intro h
    obtain ⟨⟨early, found⟩, later⟩ := h
    cases early with
    | true => exact ⟨_, bind_ok.mpr ⟨true, found, rfl⟩⟩
    | false =>
      obtain ⟨result, returned⟩ := checkExpiry_returns.mpr (later found)
      exact ⟨result, bind_ok.mpr ⟨false, found, returned⟩⟩

theorem refused_soundly
    (returned : verifySignedLicense lib raw publicKeyPem identity checkedAt = .ok result)
    (refused : result.valid = false)
    (unaccepted : ¬ Accepts lib raw publicKeyPem identity checkedAt)
    (checkable : Checkable lib raw publicKeyPem identity checkedAt) :
    VerifiesSoundly lib raw publicKeyPem identity checkedAt ↔
      Checkable lib raw publicKeyPem identity checkedAt := by
  refine ⟨fun _ => checkable, fun _ => ⟨result, returned, ?_⟩⟩
  rw [refused]
  exact ⟨fun valid => Bool.noConfusion valid, fun accepted => absurd accepted unaccepted⟩

theorem verify_parsed (publicKeyPem : List Nat) (identity : LicenseIdentity)
    (checkedAt : PyDatetime) (parsed : parseSignedLicense lib raw = .ok envelope)
    (alg : envelope.signatureAlg = "Ed25519") :
    verifySignedLicense lib raw publicKeyPem identity checkedAt =
      verifyWithKey lib identity checkedAt envelope (lib.loadPem publicKeyPem) := by
  rw [verifySignedLicense, parsed]
  exact if_neg (not_not.mpr alg)

theorem envelope_of_verify (parsed : parseSignedLicense lib raw = .ok envelope)
    (returned : verifySignedLicense lib raw publicKeyPem identity checkedAt = .ok result) :
    result.envelope = some envelope := by
  rw [verifySignedLicense, parsed] at returned
  unfold verifyWithKey checkPayload checkDates checkExpiry at returned
  split at returned
  next unparsed => cases unparsed
  next envelope' same =>
    cases same
    split at returned
    next => cases returned; rfl
    next =>
      split at returned
      next => cases returned; rfl
      next => cases returned
      next => cases returned; rfl
      next =>
        split at returned
        next =>
          split at returned
          next => cases returned; rfl
          next =>
            obtain ⟨early, _, rest⟩ := bind_ok.mp returned
            split at rest
            next => cases rest; rfl
            next =>
              obtain ⟨late, _, last⟩ := bind_ok.mp rest
              cases last
              split <;> rfl
        next => cases returned; rfl

theorem keyless (lib : LicenseLibrary N D K) (raw publicKeyPem : List Nat)
    (identity : LicenseIdentity) (checkedAt : PyDatetime)
    (unsupported : ∀ message, lib.loadPem publicKeyPem ≠ .unsupported message)
    (keyless : ∀ key, lib.loadPem publicKeyPem ≠ .ed25519 key) :
    ¬ Accepts lib raw publicKeyPem identity checkedAt ∧
      Checkable lib raw publicKeyPem identity checkedAt := by
  constructor
  · intro accepted
    obtain ⟨_, key, _, _, loaded, _⟩ := accepted
    exact keyless key loaded
  · intro envelope _ _
    exact ⟨unsupported, fun key loaded => absurd loaded (keyless key)⟩

theorem accepts_iff_of_key (identity : LicenseIdentity) (checkedAt : PyDatetime)
    (parsed : parseSignedLicense lib raw = .ok envelope)
    (alg : envelope.signatureAlg = "Ed25519") (loaded : lib.loadPem publicKeyPem = .ed25519 key) :
    Accepts lib raw publicKeyPem identity checkedAt ↔ Signed lib key envelope ∧
      Bound identity envelope.payload ∧ Begun checkedAt envelope.payload ∧
      Unexpired checkedAt envelope.payload := by
  constructor
  · intro accepted
    obtain ⟨envelope', key', given, _, loaded', rest⟩ := accepted
    rw [parsed] at given
    rw [loaded] at loaded'
    cases given
    cases loaded'
    exact rest
  · intro h
    exact ⟨envelope, key, parsed, alg, loaded, h⟩

theorem checkable_iff_of_key (identity : LicenseIdentity) (checkedAt : PyDatetime)
    (parsed : parseSignedLicense lib raw = .ok envelope)
    (alg : envelope.signatureAlg = "Ed25519") (loaded : lib.loadPem publicKeyPem = .ed25519 key) :
    Checkable lib raw publicKeyPem identity checkedAt ↔
      (Signed lib key envelope → Bound identity envelope.payload →
        ∃ result, checkDates checkedAt envelope = .ok result) := by
  simp only [checkDates_returns]
  constructor
  · intro checkable
    exact (checkable envelope parsed alg).2 key loaded
  · intro h envelope' given _
    rw [parsed] at given
    cases given
    refine ⟨fun message unsupported => ?_, fun key' loaded' => ?_⟩
    · rw [loaded] at unsupported
      cases unsupported
    · rw [loaded] at loaded'
      cases loaded'
      exact h

theorem verifiesSoundly_of_key (parsed : parseSignedLicense lib raw = .ok envelope)
    (alg : envelope.signatureAlg = "Ed25519") (loaded : lib.loadPem publicKeyPem = .ed25519 key) :
    VerifiesSoundly lib raw publicKeyPem identity checkedAt ↔
      Checkable lib raw publicKeyPem identity checkedAt := by
  have returned := verify_parsed publicKeyPem identity checkedAt parsed alg
  rw [loaded, verifyWithKey] at returned
  have accepts := accepts_iff_of_key identity checkedAt parsed alg loaded
  have checkable := checkable_iff_of_key identity checkedAt parsed alg loaded
  by_cases signed : Signed lib key envelope
  · rw [if_pos (signatureVerifies_iff.mpr signed)] at returned
    by_cases bound : Bound identity envelope.payload
    · have dates : checkPayload identity checkedAt envelope = checkDates checkedAt envelope := by
        rw [checkPayload, bindingMismatch_none.mpr bound]
      rw [dates] at returned
      rw [checkable, VerifiesSoundly, returned, accepts]
      constructor
      · intro sound _ _
        obtain ⟨result, checked, _⟩ := sound
        exact ⟨result, checked⟩
      · intro h
        obtain ⟨result, checked⟩ := h signed bound
        exact ⟨result, checked, by simp [checkDates_valid checked, signed, bound]⟩
    · cases reason : bindingMismatch identity envelope.payload with
      | none => exact absurd (bindingMismatch_none.mp reason) bound
      | some text =>
        have mismatched : checkPayload identity checkedAt envelope =
            .ok (mismatch text envelope) := by rw [checkPayload, reason]
        exact refused_soundly (returned.trans mismatched) rfl
          (fun accepted => bound (accepts.mp accepted).2.1)
          (checkable.mpr fun _ bound' => absurd bound' bound)
  · rw [if_neg fun verified => signed (signatureVerifies_iff.mp verified)] at returned
    exact refused_soundly returned rfl (fun accepted => signed (accepts.mp accepted).1)
      (checkable.mpr fun signed' => absurd signed' signed)

theorem verifiesSoundly_iff :
    VerifiesSoundly lib raw publicKeyPem identity checkedAt ↔
      Checkable lib raw publicKeyPem identity checkedAt := by
  cases parsed : parseSignedLicense lib raw with
  | error className =>
    refine refused_soundly (by rw [verifySignedLicense, parsed]) rfl ?_ ?_
    · intro accepted
      obtain ⟨envelope, _, given, _⟩ := accepted
      rw [parsed] at given
      cases given
    · intro envelope given
      rw [parsed] at given
      cases given
  | ok envelope =>
    by_cases alg : envelope.signatureAlg = "Ed25519"
    · cases loaded : lib.loadPem publicKeyPem with
      | ed25519 key => exact verifiesSoundly_of_key parsed alg loaded
      | unsupported message =>
        have returned := verify_parsed publicKeyPem identity checkedAt parsed alg
        rw [loaded, verifyWithKey] at returned
        constructor
        · intro sound
          obtain ⟨result, checked, _⟩ := sound
          rw [returned] at checked
          cases checked
        · intro checkable
          exact absurd loaded ((checkable envelope parsed alg).1 message)
      | valueError | other =>
        have returned := verify_parsed publicKeyPem identity checkedAt parsed alg
        rw [loaded, verifyWithKey] at returned
        obtain ⟨unaccepted, checkable⟩ := keyless lib raw publicKeyPem identity checkedAt
          (by simp [loaded]) (by simp [loaded])
        exact refused_soundly returned rfl unaccepted checkable
    · have unsupported : verifySignedLicense lib raw publicKeyPem identity checkedAt =
          .ok (invalid "unsupported_signature_algorithm" envelope) := by
        rw [verifySignedLicense, parsed]
        exact if_pos alg
      refine refused_soundly unsupported rfl ?_ ?_
      · intro accepted
        obtain ⟨envelope', _, given, ed, _⟩ := accepted
        rw [parsed] at given
        exact alg (Except.ok.inj given ▸ ed)
      · intro envelope' given ed
        rw [parsed] at given
        exact absurd (Except.ok.inj given ▸ ed) alg

end Checks

def AcceptedAs (lib : LicenseLibrary N D K) (raw publicKeyPem : List Nat)
    (identity : LicenseIdentity) (checkedAt : PyDatetime)
    (envelope : SignedLicenseEnvelope N D) : Prop :=
  ∃ result, verifySignedLicense lib raw publicKeyPem identity checkedAt = .ok result ∧
    result.valid = true ∧ result.envelope = some envelope

/-- A verification is total and sound where the text is checkable, and what is accepted under one
canonical form grants the same. -/
theorem verification_sound_iff (lib : LicenseLibrary N D K) (raw publicKeyPem : List Nat)
    (identity : LicenseIdentity) (checkedAt : PyDatetime) :
    (VerifiesSoundly lib raw publicKeyPem identity checkedAt ↔
      Checkable lib raw publicKeyPem identity checkedAt) ∧
    ∀ (raw' publicKeyPem' : List Nat) (identity' : LicenseIdentity) (checkedAt' : PyDatetime)
      (envelope envelope' : SignedLicenseEnvelope N D) (signed : List Nat),
      AcceptedAs lib raw publicKeyPem identity checkedAt envelope →
      AcceptedAs lib raw' publicKeyPem' identity' checkedAt' envelope' →
      canonicalLicensePayload lib.toPayloadTexts envelope.payload = some signed →
      canonicalLicensePayload lib.toPayloadTexts envelope'.payload = some signed →
      SameGrants envelope.payload envelope'.payload :=
  ⟨verifiesSoundly_iff, fun _ _ _ _ _ _ _ _ _ first second =>
    sameGrants_of_canonical first second⟩

def sampleTexts : PayloadTexts Int String where
  numbers := integers
  ofInt n := n
  ofInt_inj same := same
  decimalText d := d
  decimalText_inj same := same
  dateText _ := "1970-01-01T00:00:00"
  dumpMetadata metadata := some metadata

def sampleIdentity : LicenseIdentity where
  deploymentId := "d"
  installId := "i"
  machineFingerprintHash := "f"

variable (notBefore : Option PyDatetime)

def sampleEnvelope : SignedLicenseEnvelope Int String where
  payload :=
    { licenseId := "l", licenseType := "standard", customerName := "c", deploymentId := "d"
      installId := "i", machineFingerprintHash := "f", maxUsers := some 50
      issuedAt := ⟨0, some 0⟩, notBefore := notBefore }
  signature := "AA=="

variable (envelope : SignedLicenseEnvelope Int String)

def sampleDocument : Value Int :=
  .obj [(codes "payload", (dumpPayload sampleTexts envelope.payload).getD .null),
    (codes "signature", jsonText envelope.signature),
    (codes "signature_alg", jsonText envelope.signatureAlg)]

def sampleRaw : List Nat :=
  dumps integers (sampleDocument envelope)

def sampleLibrary :
    LicenseLibrary Int String Unit where
  toPayloadTexts := sampleTexts
  loads text := if text = sampleRaw envelope then .ok (sampleDocument envelope)
    else .error "JSONDecodeError"
  b64decodeText _ := .error "Error"
  modelValidate _ := .ok envelope
  loadPem _ := .ed25519 ()
  b64decode _ := some [0]
  verify _ _ _ := true

theorem sample_parsed :
    parseSignedLicense (sampleLibrary envelope) (sampleRaw envelope) = .ok envelope := by
  have loaded : (sampleLibrary envelope).loads (sampleRaw envelope) =
      .ok (sampleDocument envelope) := if_pos rfl
  rw [parseSignedLicense, loaded]
  rfl

theorem sample_bound : Bound sampleIdentity (sampleEnvelope notBefore).payload :=
  ⟨rfl, fun given => Bool.noConfusion given, rfl, rfl, rfl⟩

def epoch : PyDatetime := ⟨0, none⟩

theorem sample_written :
    (canonicalLicensePayload sampleTexts (sampleEnvelope notBefore).payload).isSome = true := by
  cases notBefore with
  | none => decide +kernel
  | some date =>
    have epochal : (canonicalLicensePayload sampleTexts
        (sampleEnvelope (some epoch)).payload).isSome = true := by decide +kernel
    exact epochal

theorem sample_signed :
    Signed (sampleLibrary (sampleEnvelope notBefore)) () (sampleEnvelope notBefore) := by
  obtain ⟨signed, written⟩ := Option.isSome_iff_exists.mp (sample_written notBefore)
  exact ⟨[0], signed, rfl, written, rfl⟩

def inUtc : PyDatetime := ⟨1000000, some 0⟩

theorem naive_date_raises :
    ¬ ∀ (N D K : Type) (lib : LicenseLibrary N D K) (raw publicKeyPem : List Nat)
      (identity : LicenseIdentity) (checkedAt : PyDatetime), checkedAt.offset = some 0 →
      VerifiesSoundly lib raw publicKeyPem identity checkedAt := by
  intro claimed
  have checkable := verifiesSoundly_iff.mp (claimed _ _ _ (sampleLibrary (sampleEnvelope epoch))
    (sampleRaw (sampleEnvelope epoch)) [] sampleIdentity inUtc rfl)
  have compared := ((checkable _ (sample_parsed _) rfl).2 () rfl (sample_signed _)
    (sample_bound _)).1 epoch rfl
  cases compared

theorem sample_verifies_soundly :
    VerifiesSoundly (sampleLibrary (sampleEnvelope none)) (sampleRaw (sampleEnvelope none)) []
      sampleIdentity inUtc := by
  refine (verification_sound_iff _ _ _ _ _).1.mpr fun envelope parsed _ => ?_
  rw [sample_parsed] at parsed
  cases parsed
  refine ⟨?_, fun _ _ _ _ => ⟨?_, fun _ => ?_⟩⟩
  · intro message loaded
    cases loaded
  · intro date given
    cases given
  · intro date given
    cases given

end AgentHive.LicenseCrypto
