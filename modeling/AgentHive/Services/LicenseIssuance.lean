import AgentHive.Services.LicenseIssue
import AgentHive.Services.LicenseSoundness

/-!
What becomes of a license between its issuer and its installation.
-/

namespace AgentHive.LicenseIssue

open JsonText TextBytes LicenseCrypto

variable {N D K P : Type}

theorem mem_sortedUnique {items : List String} {item : String} :
    item ∈ sortedUnique items ↔ item ∈ items := by
  rw [sortedUnique, List.mem_insertionSort, List.mem_dedup]

theorem sortedUnique_twice (items : List String) :
    sortedUnique (sortedUnique items) = sortedUnique items := by
  have total : Std.Total fun a b : String => codes a ≤ codes b :=
    ⟨fun a b => le_total (codes a) (codes b)⟩
  have trans : IsTrans String fun a b => codes a ≤ codes b :=
    ⟨fun _ _ _ first second => le_trans first second⟩
  have perm := List.perm_insertionSort (fun a b => codes a ≤ codes b) items.dedup
  have distinct : (sortedUnique items).Nodup := perm.nodup_iff.mpr items.nodup_dedup
  have sorted := List.pairwise_insertionSort (fun a b => codes a ≤ codes b) items.dedup
  conv_lhs => rw [sortedUnique, distinct.dedup]
  exact sorted.insertionSort_eq

section Fields

variable {lib : IssueLibrary N D K P} {p : SignedLicensePayload N D}
variable {metadata : List (List Nat × Value N)}

@[simp] theorem readStr_jsonText (text : String) : readStr (jsonText text : Value N) = some text :=
  ofCodes_codes text

@[simp] theorem readStrs_jsonTexts (items : List String) :
    readStrs (jsonTexts items : Value N) = some items := by
  change (items.map jsonText : List (Value N)).mapM readStr = some items
  induction items with
  | nil => rfl
  | cons item rest ih => simp [ih]

@[simp] theorem sortKeys_jsonText (text : String) :
    sortKeys (jsonText text : Value N) = jsonText text := by
  rw [jsonText, sortKeys]

theorem nullable_written {α β : Type} {write : α → Value N} {read : Value N → Option β}
    {f : α → β} (given : Option α) (solid : ∀ a, write a ≠ .null)
    (reads : ∀ a ∈ given, read (write a) = some (f a)) :
    withDefault none (nullable read) (given.map write) = some (given.map f) := by
  cases given with
  | none => rfl
  | some a =>
    have plain : nullable read (write a) = (read (write a)).map some := by
      unfold nullable
      split
      next null => exact absurd null (solid a)
      next => rfl
    rw [Option.map_some, withDefault, plain, reads a rfl]
    rfl

def payloadEntries (lib : IssueLibrary N D K P) (p : SignedLicensePayload N D)
    (metadata : List (List Nat × Value N)) : List (List Nat × Value N) :=
  (payloadFields lib.toPayloadTexts p metadata).filterMap fieldEntry

theorem names_distinct (lib : IssueLibrary N D K P) (p : SignedLicensePayload N D)
    (metadata : List (List Nat × Value N)) :
    ((payloadFields lib.toPayloadTexts p metadata).map Prod.fst).Nodup := by
  simp [payloadFields]

theorem keys_filterMap {fields : List (String × Option (Value N))} :
    ((fields.filterMap fieldEntry).map Prod.fst).Sublist
      (fields.map fun field => codes field.1) := by
  induction fields with
  | nil => exact .slnil
  | cons field fields ih =>
    obtain ⟨name, value⟩ := field
    cases value with
    | none => exact ih.cons _
    | some v => exact ih.cons_cons _

theorem keys_distinct : ((payloadEntries lib p metadata).map Prod.fst).Nodup := by
  have keys := (names_distinct lib p metadata).map fun _ _ same => codes_inj same
  rw [List.map_map] at keys
  exact keys_filterMap.nodup keys

theorem field_written {name : String} {value : Option (Value N)}
    (mem : (name, value) ∈ payloadFields lib.toPayloadTexts p metadata) :
    field (sortedEntries (payloadEntries lib p metadata)) name = value.map sortKeys := by
  have found : (payloadEntries lib p metadata).lookup (codes name) = value := by
    ext v
    rw [OrderedDict.lookup_eq_some keys_distinct, payloadEntries, mem_fields]
    constructor
    · intro mem'
      have first := (OrderedDict.lookup_eq_some (names_distinct lib p metadata)).mpr mem
      have second := (OrderedDict.lookup_eq_some (names_distinct lib p metadata)).mpr mem'
      exact Option.some.inj (first.symm.trans second)
    · intro given
      rw [← given]
      exact mem
  rw [field, lookup_sortedEntries keys_distinct, found]

end Fields

section Payload

variable (lib : IssueLibrary N D K P)

def reread (date : PyDatetime) : PyDatetime := { date with offset := date.offset.map lib.readOffset }

def ReadsBack (date : PyDatetime) : Prop :=
  lib.readDate (jsonText (lib.dateText date)) = some (reread lib date)

def givenDates (p : SignedLicensePayload N D) : List PyDatetime :=
  [p.maintenanceUntil, p.expiresAt, p.notBefore].filterMap id

def rereadPayload (p : SignedLicensePayload N D) (metadata : List (List Nat × Value N)) :
    SignedLicensePayload N D :=
  { p with
    maintenanceUntil := p.maintenanceUntil.map (reread lib)
    expiresAt := p.expiresAt.map (reread lib)
    issuedAt := reread lib p.issuedAt
    notBefore := p.notBefore.map (reread lib)
    metadata := sortedEntries metadata }

variable {lib} {p : SignedLicensePayload N D} {metadata : List (List Nat × Value N)}

theorem mem_givenDates {date : PyDatetime} : date ∈ givenDates p ↔
    p.maintenanceUntil = some date ∨ p.expiresAt = some date ∨ p.notBefore = some date := by
  simp [givenDates, eq_comm]

theorem read_given {α : Type} (name : String) {v : Value N} {read : Value N → Option α} {a : α}
    (mem : (name, some v) ∈ payloadFields lib.toPayloadTexts p metadata)
    (reads : read (sortKeys v) = some a) :
    (field (sortedEntries (payloadEntries lib p metadata)) name).bind read = some a := by
  rw [field_written mem]
  exact reads

theorem read_default {α : Type} (name : String) {v : Value N} {read : Value N → Option α}
    {a : α} (default : α) (mem : (name, some v) ∈ payloadFields lib.toPayloadTexts p metadata)
    (reads : read (sortKeys v) = some a) :
    withDefault default read (field (sortedEntries (payloadEntries lib p metadata)) name) =
      some a := by
  rw [field_written mem]
  exact reads

theorem read_nullable {α β : Type} (name : String) {given : Option α} {write : α → Value N}
    {read : Value N → Option β} (f : α → β)
    (mem : (name, given.map write) ∈ payloadFields lib.toPayloadTexts p metadata)
    (kept : ∀ a, sortKeys (write a) = write a) (solid : ∀ a, write a ≠ .null)
    (reads : ∀ a ∈ given, read (write a) = some (f a)) :
    withDefault none (nullable read)
      (field (sortedEntries (payloadEntries lib p metadata)) name) = some (given.map f) := by
  have sorted : (given.map write).map sortKeys = given.map write := by
    rw [Option.map_map]
    exact Option.map_congr fun a _ => kept a
  rw [field_written mem, sorted, nullable_written given solid reads]

theorem jsonText_ne_null (text : String) : (jsonText text : Value N) ≠ .null := by
  intro null
  cases null

theorem readPayload_written (admissible : Admissible lib p)
    (modules : sortedUnique p.allowedModules = p.allowedModules)
    (features : sortedUnique p.allowedFeatures = p.allowedFeatures)
    (reads : ∀ date ∈ p.issuedAt :: givenDates p, ReadsBack lib date) :
    readPayload lib (.obj (sortedEntries (payloadEntries lib p metadata))) =
      some (rereadPayload lib p metadata) := by
  have text : ∀ t : String, readStr (sortKeys (jsonText t : Value N)) = some t := by
    intro t
    rw [sortKeys_jsonText, readStr_jsonText]
  have texts : ∀ ts : List String, readStrs (sortKeys (jsonTexts ts : Value N)) = some ts := by
    intro ts
    rw [sortKeys_jsonTexts, readStrs_jsonTexts]
  have int : ∀ n, lib.readInt (sortKeys (.num (lib.ofInt n))) = some n := by
    intro n
    rw [sortKeys, lib.readInt_ofInt]
  have intKept : ∀ n, sortKeys (.num (lib.ofInt n)) = .num (lib.ofInt n) := by
    intro n
    rw [sortKeys]
  have intSolid : ∀ n, (.num (lib.ofInt n) : Value N) ≠ .null := by
    intro n null
    cases null
  have date : ∀ {d}, p.maintenanceUntil = some d ∨ p.expiresAt = some d ∨ p.notBefore = some d →
      lib.readDate (jsonText (lib.dateText d)) = some (reread lib d) :=
    fun given => reads _ (.tail _ (mem_givenDates.mpr given))
  have issued : lib.readDate (sortKeys (jsonText (lib.dateText p.issuedAt))) =
      some (reread lib p.issuedAt) := by
    rw [sortKeys_jsonText]
    exact reads _ (.head _)
  have metadataRead : ∀ entries : List (List Nat × Value N),
      readMetadata (sortKeys (.obj entries)) = some (sortedEntries entries) := by
    intro entries
    rw [sortKeys_obj]
    rfl
  have valid : validated lib (rereadPayload lib p metadata) =
      some (rereadPayload lib p metadata) := by
    rw [validated, if_pos (by exact admissible)]
    simp only [rereadPayload, modules, features]
  rw [readPayload,
    read_default "schema_version" 1 (by simp [payloadFields]) (int p.schemaVersion),
    read_default "product" "AgentHive" (by simp [payloadFields]) (text p.product),
    read_given "license_id" (by simp [payloadFields]) (text p.licenseId),
    read_given "license_type" (by simp [payloadFields]) (text p.licenseType),
    read_given "customer_name" (by simp [payloadFields]) (text p.customerName),
    read_nullable "tenant_id" id (by simp [payloadFields]; rfl) sortKeys_jsonText
      jsonText_ne_null (fun t _ => readStr_jsonText t),
    read_given "deployment_id" (by simp [payloadFields]) (text p.deploymentId),
    read_given "install_id" (by simp [payloadFields]) (text p.installId),
    read_given "machine_fingerprint_hash" (by simp [payloadFields])
      (text p.machineFingerprintHash),
    read_default "allowed_modules" [] (by simp [payloadFields]) (texts p.allowedModules),
    read_default "allowed_features" [] (by simp [payloadFields]) (texts p.allowedFeatures),
    read_nullable "max_users" id (by simp [payloadFields]; rfl) intKept intSolid
      (fun n _ => lib.readInt_ofInt n),
    read_nullable "max_agents" id (by simp [payloadFields]; rfl) intKept intSolid
      (fun n _ => lib.readInt_ofInt n),
    read_nullable "max_kb_size_gb" id (by simp [payloadFields]; rfl)
      (fun d => sortKeys_jsonText (lib.decimalText d)) (fun _ => jsonText_ne_null _)
      (fun d _ => lib.readDecimal_text d),
    read_nullable "maintenance_until" (reread lib) (by simp [payloadFields])
      (fun d => sortKeys_jsonText (lib.dateText d)) (fun _ => jsonText_ne_null _)
      (fun d given => date (.inl given)),
    read_nullable "expires_at" (reread lib) (by simp [payloadFields])
      (fun d => sortKeys_jsonText (lib.dateText d)) (fun _ => jsonText_ne_null _)
      (fun d given => date (.inr (.inl given))),
    read_given "issued_at" (by simp [payloadFields]) issued,
    read_nullable "not_before" (reread lib) (by simp [payloadFields])
      (fun d => sortKeys_jsonText (lib.dateText d)) (fun _ => jsonText_ne_null _)
      (fun d given => date (.inr (.inr given))),
    read_default "metadata" [] (by simp [payloadFields]) (metadataRead metadata)]
  simp only [Option.map_id, id_eq]
  exact valid

end Payload

section Envelope

variable {lib : IssueLibrary N D K P} {p : SignedLicensePayload N D}
variable {metadata : List (List Nat × Value N)} {signature : String}

def envelopeEntries (lib : IssueLibrary N D K P) (p : SignedLicensePayload N D)
    (metadata : List (List Nat × Value N)) (signature : String) : List (List Nat × Value N) :=
  [(codes "payload", .obj (payloadEntries lib p metadata)),
    (codes "signature_alg", jsonText "Ed25519"), (codes "signature", jsonText signature)]

theorem envelope_keys_distinct :
    ((envelopeEntries lib p metadata signature).map Prod.fst).Nodup := by
  have names : ["payload", "signature_alg", "signature"].Nodup := by decide
  have keys : (["payload", "signature_alg", "signature"].map codes).Nodup :=
    names.map fun _ _ same => codes_inj same
  exact keys

theorem field_envelope {name : String} {v : Value N}
    (mem : (codes name, v) ∈ envelopeEntries lib p metadata signature) :
    field (sortedEntries (envelopeEntries lib p metadata signature)) name =
      some (sortKeys v) := by
  have found := (OrderedDict.lookup_eq_some envelope_keys_distinct).mpr mem
  rw [field, lookup_sortedEntries envelope_keys_distinct, found]
  rfl

theorem readEnvelope_written (admissible : Admissible lib p)
    (modules : sortedUnique p.allowedModules = p.allowedModules)
    (features : sortedUnique p.allowedFeatures = p.allowedFeatures)
    (reads : ∀ date ∈ p.issuedAt :: givenDates p, ReadsBack lib date) :
    readEnvelope lib (sortKeys (.obj (envelopeEntries lib p metadata signature))) =
      some ⟨rereadPayload lib p metadata, "Ed25519", signature⟩ := by
  have first : (codes "payload", .obj (payloadEntries lib p metadata)) ∈
      envelopeEntries lib p metadata signature := .head _
  have second : (codes "signature_alg", jsonText "Ed25519") ∈
      envelopeEntries lib p metadata signature := .tail _ (.head _)
  have third : (codes "signature", jsonText signature) ∈
      envelopeEntries lib p metadata signature := .tail _ (.tail _ (.head _))
  rw [sortKeys_obj, readEnvelope, field_envelope first, field_envelope second,
    field_envelope third, sortKeys_jsonText, sortKeys_jsonText, sortKeys_obj, Option.bind_some,
    readPayload_written admissible modules features reads, withDefault, readStr_jsonText,
    Option.bind_some, readStr_jsonText]
  rfl

theorem distinct_envelope (distinct : Distinct (.obj metadata)) :
    Distinct (.obj (envelopeEntries lib p metadata signature)) := by
  have texts : ∀ t : String, Distinct (jsonText t : Value N) := by
    intro t
    rw [jsonText, Distinct]
    trivial
  have lists : ∀ ts : List String, Distinct (jsonTexts ts : Value N) := by
    intro ts
    rw [jsonTexts, Distinct]
    induction ts with
    | nil => rw [List.map_nil, DistinctItems]; trivial
    | cons t ts ih => rw [List.map_cons, DistinctItems]; exact ⟨texts t, ih⟩
  have numbers : ∀ n : N, Distinct (.num n) := by
    intro n
    rw [Distinct]
    trivial
  have optional : ∀ {α : Type} {given : Option α} {write : α → Value N},
      (∀ a, Distinct (write a)) → ∀ v, given.map write = some v → Distinct v := by
    intro α given write each v written
    obtain ⟨a, _, rfl⟩ := Option.map_eq_some_iff.mp written
    exact each a
  have fields : ∀ named ∈ payloadFields lib.toPayloadTexts p metadata, ∀ v, named.2 = some v →
      Distinct v := by
    simp only [payloadFields, List.forall_mem_cons, Option.some.injEq, forall_eq',
      List.not_mem_nil, false_imp_iff, implies_true, and_true]
    exact ⟨numbers _, texts _, texts _, texts _, texts _, optional texts, texts _, texts _,
      texts _, lists _, lists _, optional fun _ => numbers _, optional fun _ => numbers _,
      optional fun _ => texts _, optional fun _ => texts _, optional fun _ => texts _, texts _,
      optional fun _ => texts _, distinct⟩
  have payload : Distinct (.obj (payloadEntries lib p metadata)) := by
    rw [Distinct, distinctEntries_iff]
    refine ⟨keys_distinct, fun e mem => ?_⟩
    obtain ⟨named, among, entry⟩ := List.mem_filterMap.mp mem
    obtain ⟨v, given, rfl⟩ := Option.map_eq_some_iff.mp entry
    exact fields named among v given
  rw [Distinct, distinctEntries_iff]
  refine ⟨envelope_keys_distinct, fun e mem => ?_⟩
  simp only [envelopeEntries, List.mem_cons, List.not_mem_nil, or_false] at mem
  rcases mem with rfl | rfl | rfl
  · exact payload
  · exact texts _
  · exact texts _

end Envelope

section Text

variable {lib : IssueLibrary N D K P} {entries : List (List Nat × Value N)}
variable {envelope : SignedLicenseEnvelope N D}

theorem strip_line {text front rest : List Nat} {c d : Nat} (begins : text = c :: rest)
    (ends : text = front ++ [d]) (solid : isWhite c = false) (solid' : isWhite d = false) :
    strip (text ++ [0x0A]) = text := by
  have front' : (text ++ [0x0A]).dropWhile isWhite = text ++ [0x0A] := by
    rw [begins, List.cons_append, List.dropWhile_cons, solid]
    rfl
  have newline : isWhite 0x0A = true := by decide
  rw [strip, front', List.rdropWhile_concat, if_pos newline, ends, List.rdropWhile_concat, solid']
  rfl

theorem renderEntries_ends (numbers : NumberTexts N) (layout : Layout) (level : Nat)
    (first : Bool) (entries : List (List Nat × Value N)) :
    ∃ front, renderEntries numbers layout level first entries = front ++ [0x7D] := by
  induction entries generalizing first with
  | nil => exact ⟨_, by rw [renderEntries]⟩
  | cons entry rest ih =>
    obtain ⟨front, written⟩ := ih false
    rw [renderEntries, written]
    exact ⟨comma layout first ++ (layout.gap level ++ (quote entry.1 ++ 0x3A :: (layout.after ++
      (render numbers layout level entry.2 ++ front)))), by
        simp only [List.append_assoc, List.cons_append]⟩

theorem document_begins (numbers : NumberTexts N) (entries : List (List Nat × Value N)) :
    ∃ rest, dumpsIndented numbers (.obj entries) = 0x7B :: rest := by
  rw [dumpsIndented, sortKeys_obj, render]
  exact ⟨_, rfl⟩

theorem document_ends (numbers : NumberTexts N) (entries : List (List Nat × Value N)) :
    ∃ front, dumpsIndented numbers (.obj entries) = front ++ [0x7D] := by
  rw [dumpsIndented, sortKeys_obj, render]
  obtain ⟨front, written⟩ :=
    renderEntries_ends numbers indented 1 true (sortedEntries entries)
  exact ⟨0x7B :: front, by rw [written, List.cons_append]⟩

theorem parse_document (distinct : Distinct (.obj entries))
    (read : readEnvelope lib (sortKeys (.obj entries)) = some envelope) :
    (installed lib).loads (dumpsIndented lib.numbers (.obj entries)) = .ok (sortKeys (.obj entries)) ∧
      (installed lib).modelValidate (sortKeys (.obj entries)) = .ok envelope := by
  refine ⟨loads_dumpsIndented lib.numbers distinct, ?_⟩
  change modelValidate lib _ = _
  rw [modelValidate, read]

theorem loads_base64 {bytes : List Nat}
    (encoded : encodeUtf8 (dumpsIndented lib.numbers (.obj entries)) = some bytes) :
    (installed lib).loads (b64encode bytes) = .error "JSONDecodeError" := by
  obtain ⟨rest, written⟩ := document_begins lib.numbers entries
  have first : ∃ more, bytes = 0x7B :: more := by
    unfold encodeUtf8 at encoded
    split at encoded
    next =>
      cases encoded
      rw [written]
      exact ⟨utf8 rest, rfl⟩
    next => cases encoded
  obtain ⟨more, rfl⟩ := first
  obtain ⟨digits, encoded64⟩ := b64encode_cons 0x7B more
  rw [encoded64]
  exact loads_letter lib.numbers (by decide) (by decide) (by decide)

theorem decodeText_encode {text bytes : List Nat} (encoded : encodeUtf8 text = some bytes) :
    decodeText (b64encode bytes) = .ok text := by
  have small : ∀ b ∈ bytes, b < 256 := fun b mem => lt_of_encode encoded mem
  have ascii : encodeUtf8 (b64encode bytes) = some (b64encode bytes) := by
    refine encodeUtf8_ascii fun c mem => ?_
    have range := mem_b64encode small mem
    omega
  rw [decodeText, ascii]
  simp only
  rw [b64decode_encode small]
  simp only
  rw [decodeUtf8_of_encode encoded]

theorem white_of_range {c : Nat} (range : 0x2B ≤ c ∧ c ≤ 0x7D) : isWhite c = false := by
  simp only [isWhite, Bool.or_eq_false_iff, Bool.and_eq_false_iff, decide_eq_false_iff_not]
  omega

theorem parse_written {base64 : Bool} {output : List Nat} (distinct : Distinct (.obj entries))
    (read : readEnvelope lib (sortKeys (.obj entries)) = some envelope)
    (printed : outputOf base64 (dumpsIndented lib.numbers (.obj entries)) = some output) :
    parseSignedLicense (installed lib) (strip (output ++ [0x0A])) = .ok envelope := by
  obtain ⟨loaded, validated⟩ := parse_document distinct read
  obtain ⟨bytes, encoded, chosen⟩ := Option.map_eq_some_iff.mp printed
  obtain ⟨rest, begins⟩ := document_begins lib.numbers entries
  obtain ⟨front, ends⟩ := document_ends lib.numbers entries
  cases base64 with
  | false =>
    rw [if_neg Bool.false_ne_true] at chosen
    rw [← chosen, strip_line begins ends (by decide) (by decide), parseSignedLicense, loaded]
    exact validated
  | true =>
    rw [if_pos rfl] at chosen
    have small : ∀ b ∈ bytes, b < 256 := fun b mem => lt_of_encode encoded mem
    have solid : ∀ c ∈ b64encode bytes, isWhite c = false := by
      intro c mem
      have range := mem_b64encode small mem
      exact white_of_range (by omega)
    have stripped : strip (output ++ [0x0A]) = b64encode bytes := by
      rw [← chosen]
      cases digits : b64encode bytes with
      | nil => decide
      | cons c more =>
        obtain ⟨front', d, last⟩ := (List.eq_nil_or_concat (c :: more)).resolve_left
          (List.cons_ne_nil _ _)
        rw [digits] at solid
        rw [List.concat_eq_append] at last
        have lastIn : d ∈ c :: more := last ▸ List.mem_concat_self
        exact strip_line rfl last (solid c (.head _)) (solid d lastIn)
    have undone : (installed lib).b64decodeText (b64encode bytes) =
        .ok (dumpsIndented lib.numbers (.obj entries)) := decodeText_encode encoded
    rw [stripped, parseSignedLicense, loads_base64 encoded]
    simp only [if_true]
    rw [undone]
    change (do
      let document ← (installed lib).loads (dumpsIndented lib.numbers (.obj entries))
      (installed lib).modelValidate document) = _
    rw [loaded]
    exact validated

end Text

section Issued

variable {lib : IssueLibrary N D K P} {key : P} {args : IssueArgs D}
variable {activationRequest text : List Nat} {request metadata : List (List Nat × Value N)}
variable {now : Int} {uuid : String} {payload : SignedLicensePayload N D}

structure Built (lib : IssueLibrary N D K P) (args : IssueArgs D)
    (request metadata : List (List Nat × Value N)) (now : Int)
    (payload : SignedLicensePayload N D) : Prop where
  covered : missingRequiredFeaturesForModules payload.allowedModules payload.allowedFeatures = []
  loaded : loadJsonText lib args.metadataJson = .ok metadata
  tenant : tenantOf lib request = .ok payload.tenantId
  deployment : strField lib request "deployment_id" = .ok payload.deploymentId
  install : strField lib request "install_id" = .ok payload.installId
  fingerprint : strField lib request "machine_fingerprint_hash" = .ok payload.machineFingerprintHash
  maintenance : parseDatetime lib args.maintenanceUntil = .ok payload.maintenanceUntil
  expires : parseDatetime lib args.expiresAt = .ok payload.expiresAt
  begins : parseDatetime lib args.notBefore = .ok payload.notBefore
  product : payload.product = "AgentHive"
  issued : payload.issuedAt = ⟨now, some 0⟩
  given : payload.metadata = requestMetadata metadata request
  admissible : Admissible lib payload
  modules : sortedUnique payload.allowedModules = payload.allowedModules
  features : sortedUnique payload.allowedFeatures = payload.allowedFeatures

theorem missing_of_covered {moduleKeys featureKeys : List String} {done : Unit}
    (covered : validateModuleFeatureCoverage moduleKeys featureKeys = .ok done) :
    missingRequiredFeaturesForModules moduleKeys featureKeys = [] := by
  unfold validateModuleFeatureCoverage at covered
  by_contra missing
  rw [if_neg missing] at covered
  cases covered

theorem chosen_twice (all : Bool) (official given : List String) :
    sortedUnique (chosen all official given) = chosen all official given :=
  sortedUnique_twice _

theorem built_of_issue (built : issuePayload lib args request now uuid = .ok payload) :
    ∃ metadata, Built lib args request metadata now payload := by
  simp only [issuePayload, Process.Fallible.bind_ok] at built
  obtain ⟨_, covered, metadata, loaded, tenant, tenant', deployment, deployment', install,
    install', fingerprint, fingerprint', maintenance, maintenance', expires, expires', begins,
    begins', made⟩ := built
  unfold buildPayload validated at made
  split at made
  next valid =>
    split at valid
    next admissible =>
      cases valid
      cases made
      refine ⟨metadata, ?_, loaded, tenant', deployment', install', fingerprint', maintenance',
        expires', begins', rfl, rfl, rfl, admissible, sortedUnique_twice _, sortedUnique_twice _⟩
      rw [chosen_twice, chosen_twice]
      exact missing_of_covered covered
    next => cases valid
  next => cases made

theorem missing_iff {moduleKeys featureKeys : List String} :
    missingRequiredFeaturesForModules moduleKeys featureKeys = [] ↔
      ∀ moduleKey ∈ moduleKeys, ∀ feature ∈ featuresOf moduleKey, feature ∈ featureKeys := by
  rw [List.eq_nil_iff_forall_not_mem]
  simp only [missingRequiredFeaturesForModules, requiredFeaturesForModules, mem_sortedUnique,
    List.mem_filter, List.mem_flatMap, decide_eq_true_eq, not_and, not_not,
    forall_exists_index, and_imp]
  constructor
  · intro none moduleKey listed feature needed
    exact none feature moduleKey listed needed
  · intro all feature moduleKey listed needed
    exact all moduleKey listed feature needed

theorem definitions_distinct :
    ((moduleDefinitions.map fun definition => (definition.id, definition)).map Prod.fst).Nodup := by
  decide

theorem featuresOf_definition {definition : AgentModuleDefinition}
    (official : definition ∈ moduleDefinitions) :
    featuresOf definition.id = definition.requiredFeatures := by
  have found : definitionsById.get definition.id = some definition := by
    rw [definitionsById, OrderedDict.get_ofEntries_eq_some definitions_distinct]
    exact List.mem_map_of_mem official
  rw [featuresOf, found]

theorem distinct_of_entries {entries : List (List Nat × Value N)}
    (distinct : (entries.map Prod.fst).Nodup) (values : ∀ e ∈ entries, Distinct e.2) :
    Distinct (.obj entries) := by
  rw [Distinct, distinctEntries_iff]
  exact ⟨distinct, values⟩

theorem loadRequest_distinct (loaded : loadRequest lib activationRequest = .ok request) :
    Distinct (.obj request) := by
  unfold loadRequest at loaded
  split at loaded
  next given =>
    cases loaded
    exact distinct_of_loads given
  next => cases loaded
  next => cases loaded

theorem loadJsonText_distinct (loaded : loadJsonText lib args.metadataJson = .ok metadata) :
    Distinct (.obj metadata) := by
  unfold loadJsonText at loaded
  split at loaded
  next given =>
    cases loaded
    exact distinct_of_loads given
  next => cases loaded
  next => cases loaded

theorem fieldOr_distinct (distinct : Distinct (.obj request)) (name : String) :
    Distinct (fieldOr request name) := by
  rw [Distinct, distinctEntries_iff] at distinct
  unfold fieldOr field
  cases found : request.lookup (codes name) with
  | none => rw [Option.getD_none, Distinct]; trivial
  | some v => exact distinct.2 _ ((OrderedDict.lookup_eq_some distinct.1).mp found)

theorem set_distinct {d : OrderedDict (List Nat) (Value N)} (k : List Nat) {v : Value N}
    (values : ∀ e ∈ d.entries, Distinct e.2) (new : Distinct v) :
    ∀ e ∈ (d.set k v).entries, Distinct e.2 := by
  intro e mem
  cases OrderedDict.mem_entries_set mem with
  | inl there => exact values e there
  | inr set => exact set ▸ new

theorem requestMetadata_distinct (fine : Distinct (.obj metadata))
    (fine' : Distinct (.obj request)) : Distinct (.obj (requestMetadata metadata request)) := by
  rw [Distinct, distinctEntries_iff] at fine
  have start : ∀ e ∈ (OrderedDict.ofEntries metadata).entries, Distinct e.2 := by
    rw [OrderedDict.entries_ofEntries fine.1]
    exact fine.2
  have first := set_distinct (codes "activation_request_id") start
    (fieldOr_distinct fine' "request_id")
  have second := set_distinct (codes "activation_request_generated_at") first
    (fieldOr_distinct fine' "generated_at")
  exact distinct_of_entries (OrderedDict.distinct _) second

theorem difference_reread (date : PyDatetime) : difference (reread lib date) date = .ok 0 ↔
    ∀ o, date.offset = some o → lib.readOffset o = o := by
  cases written : date.offset with
  | none => simp [difference, reread, written]
  | some o =>
    simp only [difference, reread, written, Option.map_some, Option.some.injEq, forall_eq',
      Except.ok.injEq]
    omega

theorem reread_of_kept {date : PyDatetime}
    (kept : ∀ o, date.offset = some o → lib.readOffset o = o) : reread lib date = date := by
  have same : date.offset.map lib.readOffset = date.offset := by
    cases written : date.offset with
    | none => rfl
    | some o => exact congrArg some (kept o written)
  rw [reread, same]

theorem sortEntries_eq_map (entries : List (List Nat × Value N)) :
    sortEntries entries = entries.map fun e => (e.1, sortKeys e.2) := by
  induction entries with
  | nil => rw [sortEntries, List.map_nil]
  | cons e rest ih => rw [sortEntries, ih, List.map_cons]

theorem dumps_payload (p : SignedLicensePayload N D) (metadata : List (List Nat × Value N)) :
    dumps lib.numbers (.obj (payloadEntries lib p (sortedEntries metadata))) =
      dumps lib.numbers (.obj (payloadEntries lib p metadata)) := by
  have twice : sortKeys (.obj (sortedEntries metadata)) = sortKeys (.obj metadata) := by
    rw [← sortKeys_obj, sortKeys_twice]
  have entries : sortEntries (payloadEntries lib p (sortedEntries metadata)) =
      sortEntries (payloadEntries lib p metadata) := by
    simp only [sortEntries_eq_map, payloadEntries, payloadFields, List.map_filterMap]
    simp [List.filterMap_cons, fieldEntry, twice]
  have objects : sortKeys (.obj (payloadEntries lib p (sortedEntries metadata))) =
      sortKeys (.obj (payloadEntries lib p metadata)) := by
    rw [sortKeys, sortKeys, entries]
  rw [dumps, dumps, objects]

theorem canonical_of_dumped {p : SignedLicensePayload N D} {d : List (List Nat × Value N)}
    (dumped : lib.dumpMetadata p.metadata = some d) :
    canonicalLicensePayload lib.toPayloadTexts p =
      encodeUtf8 (dumps lib.numbers (.obj (payloadEntries lib p d))) := by
  rw [canonicalLicensePayload, dumpPayload, dumped]
  rfl

theorem codes_asciiText {bytes : List Nat} (small : ∀ b ∈ bytes, b < 256) :
    codes (asciiText bytes) = b64encode bytes := by
  have kept : ∀ c ∈ b64encode bytes, (Char.ofNat c).toNat = c := by
    intro c mem
    have range := mem_b64encode small mem
    rw [Char.ofNat, dif_pos (.inl (by omega))]
    rfl
  rw [asciiText, codes, String.toList_ofList, List.map_map]
  exact (List.map_congr_left kept).trans (List.map_id _)

end Issued

section Claims

variable (lib : IssueLibrary N D K P) (key : P) (args : IssueArgs D)
variable (activationRequest : List Nat) (now : Int) (uuid : String) (text : List Nat)

def SameTime (first second : PyDatetime) : Prop := difference first second = .ok 0

structure SamePayload (p q : SignedLicensePayload N D) : Prop where
  schemaVersion : p.schemaVersion = q.schemaVersion
  product : p.product = q.product
  licenseId : p.licenseId = q.licenseId
  licenseType : p.licenseType = q.licenseType
  customerName : p.customerName = q.customerName
  tenantId : p.tenantId = q.tenantId
  deploymentId : p.deploymentId = q.deploymentId
  installId : p.installId = q.installId
  machineFingerprintHash : p.machineFingerprintHash = q.machineFingerprintHash
  allowedModules : p.allowedModules = q.allowedModules
  allowedFeatures : p.allowedFeatures = q.allowedFeatures
  maxUsers : p.maxUsers = q.maxUsers
  maxAgents : p.maxAgents = q.maxAgents
  maxKbSizeGb : p.maxKbSizeGb = q.maxKbSizeGb
  maintenanceUntil : Option.Rel SameTime p.maintenanceUntil q.maintenanceUntil
  expiresAt : Option.Rel SameTime p.expiresAt q.expiresAt
  issuedAt : SameTime p.issuedAt q.issuedAt
  notBefore : Option.Rel SameTime p.notBefore q.notBefore
  metadata : sortKeys (.obj p.metadata) = sortKeys (.obj q.metadata)

structure InTerm (t : PyDatetime) : Prop where
  aware : t.offset.isSome = true
  begun : ∀ date, parseDatetime lib args.notBefore = .ok (some date) → NotAfter date t
  unexpired : ∀ date, parseDatetime lib args.expiresAt = .ok (some date) → After date t

def Activates : Prop :=
  ∀ request payload, loadRequest lib activationRequest = .ok request →
    issuePayload lib args request now uuid = .ok payload →
    ∃ identity, identityOf lib request = .ok identity ∧
      ∀ t, InTerm lib args t → ∃ result envelope,
        verifySignedLicense (installed lib) (strip text) (lib.publicPem key) identity t =
          .ok result ∧
        result.valid = true ∧ result.envelope = some envelope ∧
        SamePayload envelope.payload payload

def CoversModules : Prop :=
  ∀ request payload, loadRequest lib activationRequest = .ok request →
    issuePayload lib args request now uuid = .ok payload →
    ∀ definition ∈ moduleDefinitions, definition.id ∈ payload.allowedModules →
      ∀ feature ∈ definition.requiredFeatures, feature ∈ payload.allowedFeatures

def CommandDate (date : PyDatetime) : Prop :=
  date = ⟨now, some 0⟩ ∨
    ∃ value ∈ [args.maintenanceUntil, args.expiresAt, args.notBefore],
      parseDatetime lib value = .ok (some date)

/-- The dates given are read with the offsets they have, and the metadata are dumped as they
are. -/
structure Kept : Prop where
  dates : ∀ value ∈ [args.maintenanceUntil, args.expiresAt, args.notBefore], ∀ date offset,
    parseDatetime lib value = .ok (some date) → date.offset = some offset →
    lib.readOffset offset = offset
  metadata : ∀ request metadata dumped, loadRequest lib activationRequest = .ok request →
    loadJsonText lib args.metadataJson = .ok metadata →
    lib.dumpMetadata (requestMetadata metadata request) = some dumped →
    sortKeys (.obj dumped) = sortKeys (.obj (requestMetadata metadata request))

end Claims

section Activation

open Process.Fallible

variable {lib : IssueLibrary N D K P} {key : P} {args : IssueArgs D}
variable {activationRequest text : List Nat} {request metadata dumped : List (List Nat × Value N)}
variable {now : Int} {uuid : String} {payload : SignedLicensePayload N D}

theorem coversModules : CoversModules lib args activationRequest now uuid := by
  intro request payload _ issued definition official listed feature needed
  obtain ⟨metadata, built⟩ := built_of_issue issued
  have all := missing_iff.mp built.covered definition.id listed
  rw [featuresOf_definition official] at all
  exact all feature needed

theorem parsed_of_written (loaded : loadRequest lib activationRequest = .ok request)
    (built : Built lib args request metadata now payload)
    (reads : ∀ date, CommandDate lib args now date → ReadsBack lib date)
    (written : writeLicense lib key payload args.base64 = .ok text) :
    ∃ signed dumped, canonicalLicensePayload lib.toPayloadTexts payload = some signed ∧
      lib.dumpMetadata payload.metadata = some dumped ∧
      parseSignedLicense (installed lib) (strip text) =
        .ok ⟨rereadPayload lib payload dumped, "Ed25519", asciiText (lib.sign key signed)⟩ := by
  have written' : writtenLicense lib key payload args.base64 = some text := by
    unfold writeLicense at written
    split at written
    next given => rw [given, Except.ok.inj written]
    next => cases written
  obtain ⟨signed, canonical, rest⟩ := Option.bind_eq_some_iff.mp written'
  obtain ⟨document, whole, print⟩ := Option.bind_eq_some_iff.mp rest
  obtain ⟨output, printed, rfl⟩ := Option.map_eq_some_iff.mp print
  obtain ⟨payloadDocument, inner, rfl⟩ := Option.map_eq_some_iff.mp whole
  obtain ⟨dumped, dump, rfl⟩ := Option.map_eq_some_iff.mp inner
  have distinct : Distinct (.obj payload.metadata) := by
    rw [built.given]
    exact requestMetadata_distinct (loadJsonText_distinct built.loaded)
      (loadRequest_distinct loaded)
  have dates : ∀ date ∈ payload.issuedAt :: givenDates payload, ReadsBack lib date := by
    intro date mem
    apply reads
    cases List.mem_cons.mp mem with
    | inl issued => exact .inl (issued.trans built.issued)
    | inr given =>
      rcases mem_givenDates.mp given with same | same | same
      · exact .inr ⟨_, .head _, built.maintenance.trans (congrArg _ same)⟩
      · exact .inr ⟨_, .tail _ (.head _), built.expires.trans (congrArg _ same)⟩
      · exact .inr ⟨_, .tail _ (.tail _ (.head _)), built.begins.trans (congrArg _ same)⟩
  exact ⟨signed, dumped, canonical, dump, parse_written
    (distinct_envelope (lib.dump_distinct dump distinct))
    (readEnvelope_written built.admissible built.modules built.features dates) printed⟩

theorem bound_of_built (dumped : List (List Nat × Value N))
    (built : Built lib args request metadata now payload) :
    ∃ identity, identityOf lib request = .ok identity ∧
      Bound identity (rereadPayload lib payload dumped) := by
  refine ⟨⟨payload.deploymentId, payload.installId, payload.machineFingerprintHash,
    tenantText lib request⟩, ?_, built.product, ?_, rfl, rfl, rfl⟩
  · rw [identityOf, built.deployment, built.install, built.fingerprint]
    rfl
  · intro _ given
    have tenant := built.tenant
    change truthy payload.tenantId = true at given
    change payload.tenantId = tenantText lib request
    unfold tenantOf at tenant
    unfold tenantText
    cases found : field request "tenant_id" with
    | none =>
      rw [found] at tenant
      exact (Except.ok.inj tenant).symm
    | some v =>
      rw [found] at tenant
      simp only at tenant
      split at tenant
      next named =>
        split at tenant
        next text written =>
          rw [← Except.ok.inj tenant]
          cases v with
          | null => cases named
          | bool b | num n | str t | arr items | obj entries => exact written.symm
        next => cases tenant
      next =>
        rw [← Except.ok.inj tenant] at given
        cases given

theorem dates_of_kept (kept : Kept lib args activationRequest)
    (built : Built lib args request metadata now payload) :
    payload.maintenanceUntil.map (reread lib) = payload.maintenanceUntil ∧
      payload.expiresAt.map (reread lib) = payload.expiresAt ∧
      payload.notBefore.map (reread lib) = payload.notBefore := by
  have each : ∀ value ∈ [args.maintenanceUntil, args.expiresAt, args.notBefore], ∀ date,
      parseDatetime lib value = .ok date → date.map (reread lib) = date := by
    intro value mem date parsed
    cases date with
    | none => rfl
    | some d => exact congrArg some (reread_of_kept fun o => kept.dates value mem d o parsed)
  exact ⟨each _ (.head _) _ built.maintenance, each _ (.tail _ (.head _)) _ built.expires,
    each _ (.tail _ (.tail _ (.head _))) _ built.begins⟩

theorem reread_issued (built : Built lib args request metadata now payload) :
    reread lib payload.issuedAt = payload.issuedAt := by
  rw [built.issued, reread, Option.map_some, lib.readOffset_utc]

theorem samePayload_of_kept (kept : Kept lib args activationRequest)
    (loaded : loadRequest lib activationRequest = .ok request)
    (built : Built lib args request metadata now payload)
    (dump : lib.dumpMetadata payload.metadata = some dumped) :
    rereadPayload lib payload dumped = { payload with metadata := sortedEntries dumped } ∧
      SamePayload (rereadPayload lib payload dumped) payload := by
  obtain ⟨maintenance, expires, begins⟩ := dates_of_kept kept built
  have issued := reread_issued built
  have same : rereadPayload lib payload dumped =
      { payload with metadata := sortedEntries dumped } := by
    rw [rereadPayload, maintenance, expires, begins, issued]
  have times : ∀ d : PyDatetime, SameTime d d := by
    intro d
    unfold SameTime difference
    cases d.offset with
    | none => simp
    | some o => simp
  have dates : ∀ d : Option PyDatetime, Option.Rel SameTime d d := by
    intro d
    cases d with
    | none => exact .none
    | some d => exact .some (times d)
  have ordered : sortKeys (.obj (sortedEntries dumped)) = sortKeys (.obj payload.metadata) := by
    rw [built.given] at dump ⊢
    rw [← sortKeys_obj, sortKeys_twice]
    exact kept.metadata request metadata dumped loaded built.loaded dump
  refine ⟨same, ?_⟩
  rw [same]
  exact ⟨rfl, rfl, rfl, rfl, rfl, rfl, rfl, rfl, rfl, rfl, rfl, rfl, rfl, rfl, dates _, dates _,
    times _, dates _, ordered⟩

theorem signed_of_kept (key : P) {signed : List Nat}
    (same : rereadPayload lib payload dumped = { payload with metadata := sortedEntries dumped })
    (canonical : canonicalLicensePayload lib.toPayloadTexts payload = some signed)
    (dump : lib.dumpMetadata payload.metadata = some dumped) :
    Signed (installed lib) (lib.publicKey key)
      ⟨rereadPayload lib payload dumped, "Ed25519", asciiText (lib.sign key signed)⟩ := by
  have small : ∀ b ∈ lib.sign key signed, b < 256 := fun b mem => lib.sign_bytes mem
  have again : lib.dumpMetadata (sortedEntries dumped) = some (sortedEntries dumped) :=
    lib.dump_again dump (sortKeys_obj dumped)
  refine ⟨lib.sign key signed, signed, ?_, ?_, lib.verify_sign key signed⟩
  · change TextBytes.b64decode (codes (asciiText (lib.sign key signed))) = _
    rw [codes_asciiText small, b64decode_encode small]
  · rw [same]
    change canonicalLicensePayload lib.toPayloadTexts
      { payload with metadata := sortedEntries dumped } = some signed
    rw [canonical_of_dumped again]
    rw [canonical_of_dumped dump] at canonical
    exact (congrArg encodeUtf8 (dumps_payload payload dumped)).trans canonical

theorem activates_of_kept (kept : Kept lib args activationRequest)
    (loaded : loadRequest lib activationRequest = .ok request)
    (built : Built lib args request metadata now payload)
    (reads : ∀ date, CommandDate lib args now date → ReadsBack lib date)
    (written : writeLicense lib key payload args.base64 = .ok text) :
    ∃ identity, identityOf lib request = .ok identity ∧
      ∀ t, InTerm lib args t → ∃ result envelope,
        verifySignedLicense (installed lib) (strip text) (lib.publicPem key) identity t =
          .ok result ∧
        result.valid = true ∧ result.envelope = some envelope ∧
        SamePayload envelope.payload payload := by
  obtain ⟨signed, dumped, canonical, dump, parsed⟩ := parsed_of_written loaded built reads written
  obtain ⟨same, samePayload⟩ := samePayload_of_kept kept loaded built dump
  obtain ⟨identity, known, bound⟩ := bound_of_built dumped built
  have verifies := signed_of_kept key same canonical dump
  have key' : (installed lib).loadPem (lib.publicPem key) = .ed25519 (lib.publicKey key) :=
    lib.loadPem_public key
  refine ⟨identity, known, fun t term => ?_⟩
  have begun : Begun t (rereadPayload lib payload dumped) := by
    rw [same]
    exact fun date given => term.begun date (built.begins.trans (congrArg _ given))
  have unexpired : Unexpired t (rereadPayload lib payload dumped) := by
    rw [same]
    exact fun date given => term.unexpired date (built.expires.trans (congrArg _ given))
  have checkable : Checkable (installed lib) (strip text) (lib.publicPem key) identity t := by
    rw [checkable_iff_of_key identity t parsed rfl key']
    intro _ _
    rw [checkDates_returns]
    refine ⟨fun date given => ?_, fun _ date given => ?_⟩
    · obtain ⟨apart, found, _⟩ := begun date given
      exact difference_ok.mp ⟨apart, found⟩
    · obtain ⟨apart, found, _⟩ := unexpired date given
      exact difference_ok.mp ⟨apart, found⟩
  obtain ⟨result, returned, valid⟩ := verifiesSoundly_iff.mpr checkable
  refine ⟨result, _, returned, valid.mpr ?_, envelope_of_verify parsed returned, samePayload⟩
  exact (accepts_iff_of_key identity t parsed rfl key').mpr ⟨verifies, bound, begun, unexpired⟩

theorem kept_of_same (loaded : loadRequest lib activationRequest = .ok request)
    (built : Built lib args request metadata now payload)
    (dump : lib.dumpMetadata payload.metadata = some dumped)
    (same : SamePayload (rereadPayload lib payload dumped) payload) :
    Kept lib args activationRequest := by
  have rel : ∀ {date : Option PyDatetime} {d : PyDatetime},
      Option.Rel SameTime (date.map (reread lib)) date → date = some d →
      ∀ o, d.offset = some o → lib.readOffset o = o := by
    intro date d same given
    subst given
    cases same with
    | some time => exact (difference_reread d).mp time
  constructor
  · intro value mem date offset parsed
    simp only [List.mem_cons, List.not_mem_nil, or_false] at mem
    rcases mem with rfl | rfl | rfl
    · exact rel same.maintenanceUntil (Except.ok.inj (built.maintenance.symm.trans parsed)) offset
    · exact rel same.expiresAt (Except.ok.inj (built.expires.symm.trans parsed)) offset
    · exact rel same.notBefore (Except.ok.inj (built.begins.symm.trans parsed)) offset
  · intro request' metadata' dumped' loaded' given dump'
    rw [loaded] at loaded'
    cases loaded'
    rw [built.loaded] at given
    cases given
    rw [← built.given] at dump' ⊢
    rw [dump] at dump'
    cases dump'
    have ordered : sortKeys (.obj (sortedEntries dumped)) = sortKeys (.obj payload.metadata) :=
      same.metadata
    rw [← sortKeys_obj, sortKeys_twice] at ordered
    exact ordered

theorem activates_iff (issued : issueLicense lib key args activationRequest now uuid = .ok text)
    (reads : ∀ date, CommandDate lib args now date → ReadsBack lib date) :
    Activates lib key args activationRequest now uuid text ↔
      ((∃ t, InTerm lib args t) → Kept lib args activationRequest) := by
  obtain ⟨request, loaded, rest⟩ := bind_ok.mp issued
  obtain ⟨payload, issued', written⟩ := bind_ok.mp rest
  obtain ⟨metadata, built⟩ := built_of_issue issued'
  constructor
  · intro activates h
    obtain ⟨t, term⟩ := h
    obtain ⟨identity, _, always⟩ := activates request payload loaded issued'
    obtain ⟨result, envelope, returned, _, about, same⟩ := always t term
    obtain ⟨signed, dumped, _, dump, parsed⟩ := parsed_of_written loaded built reads written
    rw [envelope_of_verify parsed returned] at about
    cases about
    exact kept_of_same loaded built dump same
  · intro kept request' payload' loaded' issued''
    rw [loaded] at loaded'
    cases loaded'
    rw [issued'] at issued''
    cases issued''
    by_cases h : ∃ t, InTerm lib args t
    · exact activates_of_kept (kept h) loaded built reads written
    · obtain ⟨identity, known, _⟩ := bound_of_built [] built
      exact ⟨identity, known, fun t term => absurd ⟨t, term⟩ h⟩

end Activation

/-- A written license is taken for what was issued all through its term, if it has one, exactly if
its dates and metadata are kept. -/
theorem issued_license_iff (lib : IssueLibrary N D K P) (key : P) (args : IssueArgs D)
    (activationRequest : List Nat) (now : Int) (uuid : String) (text : List Nat)
    (issued : issueLicense lib key args activationRequest now uuid = .ok text)
    (reads : ∀ date, CommandDate lib args now date → ReadsBack lib date) :
    (Activates lib key args activationRequest now uuid text ∧
        CoversModules lib args activationRequest now uuid) ↔
      ((∃ t, InTerm lib args t) → Kept lib args activationRequest) := by
  rw [← activates_iff issued reads]
  exact ⟨fun both => both.1, fun activates => ⟨activates, coversModules⟩⟩

def sampleFromisoformat (text : String) : Option PyDatetime :=
  if text = "1970-01-01T00:00:00+00:00:30" then some ⟨0, some 30000000⟩
  else if text = "1970-01-01" then some ⟨0, none⟩
  else none

def sampleDateText (date : PyDatetime) : String :=
  if date.offset = none then "1970-01-01T00:00:00"
  else if date.offset = some 0 then "1970-01-01T00:00:00Z"
  else "1970-01-01T00:00:00+00:00"

def sampleReadDate (v : Value Int) : Option PyDatetime :=
  match readStr v with
  | none => none
  | some text =>
    if text = "1970-01-01T00:00:00" then some ⟨0, none⟩
    else if text = "1970-01-01T00:00:00Z" ∨ text = "1970-01-01T00:00:00+00:00" then
      some ⟨0, some 0⟩
    else none

def sampleReadInt : Value Int → Option Int
  | .num n => some n
  | _ => none

def wholeMinutes (offset : Int) : Int := offset.tdiv 60000000 * 60000000

theorem sample_dumped {m d e : List (List Nat × Value Int)} (_ : some m = some d)
    (_ : sortKeys (.obj d) = .obj e) : some e = some e := rfl

theorem sample_distinct {m d : List (List Nat × Value Int)} (dumped : some m = some d)
    (distinct : Distinct (.obj m)) : Distinct (.obj d) := Option.some.inj dumped ▸ distinct

theorem sample_byte {b : Nat} (mem : b ∈ [0]) : b < 256 := by
  rw [List.mem_singleton.mp mem]
  decide

def sampleLibrary : IssueLibrary Int String Unit Unit where
  numbers := integers
  ofInt n := n
  ofInt_inj same := same
  decimalText d := d
  decimalText_inj same := same
  dateText := sampleDateText
  dumpMetadata metadata := some metadata
  isZero n := n == 0
  strOther _ := ""
  fromisoformat := sampleFromisoformat
  readInt := sampleReadInt
  readDecimal := readStr
  readDate := sampleReadDate
  readOffset := wholeMinutes
  decimalFits d := d == "5.0"
  loadPem _ := .ed25519 ()
  publicPem _ := []
  publicKey _ := ()
  sign _ _ := [0]
  verify _ _ _ := true
  readInt_ofInt _ := rfl
  readDecimal_text := readStr_jsonText
  readOffset_utc := rfl
  dump_distinct := sample_distinct
  dump_again := sample_dumped
  loadPem_public _ := rfl
  sign_bytes := sample_byte
  verify_sign _ _ := rfl

def sampleArgs (notBefore : Option String) : IssueArgs String where
  customerName := "c"
  licenseId := some "l"
  modules := ["agent.finance"]
  features := ["feature.model_budget", "feature.agent_catalog"]
  maxKbSizeGb := "5.0"
  notBefore := notBefore

def sampleRequest : List Nat :=
  dumps integers (.obj [(codes "deployment_id", jsonText "d"), (codes "install_id", jsonText "i"),
    (codes "machine_fingerprint_hash", .str (List.replicate 64 0x66))])

def halfMinute : Option String := some "1970-01-01T00:00:00+00:00:30"

theorem halfMinute_parsed :
    parseDatetime sampleLibrary halfMinute = .ok (some ⟨0, some 30000000⟩) := by
  have read : sampleFromisoformat (replaceZ "1970-01-01T00:00:00+00:00:30") =
      some ⟨0, some 30000000⟩ := by decide +kernel
  have named : "1970-01-01T00:00:00+00:00:30" ≠ "" := by decide
  have library : sampleLibrary.fromisoformat (replaceZ "1970-01-01T00:00:00+00:00:30") =
      some ⟨0, some 30000000⟩ := read
  simp only [halfMinute, parseDatetime, if_neg named, library]
  rfl

theorem sample_reads {notBefore : Option String} {given : Option PyDatetime}
    (parsed : parseDatetime sampleLibrary notBefore = .ok given)
    (among : given = none ∨ given = some ⟨0, some 30000000⟩) :
    ∀ date, CommandDate sampleLibrary (sampleArgs notBefore) 0 date →
      ReadsBack sampleLibrary date := by
  intro date h
  have epoch : sampleReadDate (jsonText (sampleDateText ⟨0, some 0⟩)) =
      some (reread sampleLibrary ⟨0, some 0⟩) := by decide +kernel
  have offset : sampleReadDate (jsonText (sampleDateText ⟨0, some 30000000⟩)) =
      some (reread sampleLibrary ⟨0, some 30000000⟩) := by decide +kernel
  rcases h with rfl | ⟨value, mem, named⟩
  · exact epoch
  · simp only [sampleArgs, List.mem_cons, List.not_mem_nil, or_false] at mem
    rcases mem with rfl | rfl | rfl
    · cases named
    · cases named
    · rw [parsed] at named
      cases named
      rcases among with none | some
      · cases none
      · cases some
        exact offset

theorem sample_issued : (issueLicense sampleLibrary () (sampleArgs none) sampleRequest 0 "").toBool =
    true := by
  decide +kernel

theorem halfMinute_issued :
    (issueLicense sampleLibrary () (sampleArgs halfMinute) sampleRequest 0 "").toBool = true := by
  decide +kernel

theorem half_minute_is_lost :
    ¬ ∀ (N D K P : Type) (lib : IssueLibrary N D K P) (key : P) (args : IssueArgs D)
      (activationRequest : List Nat) (now : Int) (uuid : String) (text : List Nat),
      issueLicense lib key args activationRequest now uuid = .ok text →
      (∀ date, CommandDate lib args now date → ReadsBack lib date) →
      Activates lib key args activationRequest now uuid text ∧
        CoversModules lib args activationRequest now uuid := by
  intro claimed
  obtain ⟨text, issued⟩ := Process.Fallible.exists_of_toBool halfMinute_issued
  have reads := sample_reads halfMinute_parsed (.inr rfl)
  have activates := (claimed _ _ _ _ _ _ _ _ _ _ _ issued reads).1
  have term : InTerm sampleLibrary (sampleArgs halfMinute) ⟨0, some 0⟩ := by
    refine ⟨rfl, fun date given => ?_, fun date given => ?_⟩
    · cases halfMinute_parsed.symm.trans given
      exact ⟨-30000000, rfl, by decide⟩
    · cases given
  have kept := (activates_iff issued reads).mp activates ⟨_, term⟩
  have lost := kept.dates halfMinute (.tail _ (.tail _ (.head _))) _ _ halfMinute_parsed rfl
  exact absurd lost (by decide)

theorem sample_license_activates : ∃ text,
    issueLicense sampleLibrary () (sampleArgs none) sampleRequest 0 "" = .ok text ∧
      Activates sampleLibrary () (sampleArgs none) sampleRequest 0 "" text ∧
      CoversModules sampleLibrary (sampleArgs none) sampleRequest 0 "" := by
  obtain ⟨text, issued⟩ := Process.Fallible.exists_of_toBool sample_issued
  refine ⟨text, issued, (issued_license_iff sampleLibrary () (sampleArgs none) sampleRequest 0 ""
    text issued (sample_reads rfl (.inl rfl))).mpr fun _ => ⟨?_, ?_⟩⟩
  · intro value mem date offset parsed
    simp only [sampleArgs, List.mem_cons, List.not_mem_nil, or_false, or_self] at mem
    rw [mem] at parsed
    cases parsed
  · intro request metadata dumped _ _ dump
    rw [Option.some.inj dump]

end AgentHive.LicenseIssue
