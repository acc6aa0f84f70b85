import AgentHive.Process.Fallible
import AgentHive.Services.MediaOutputArchive

/-!
Accepted references lie in the namespace of their job.

The namespaces of two jobs overlap only where one job's configured prefix lies in the
namespace of the other.
-/

namespace AgentHive.MediaOutputArchive

open Process
open Rag (Json JsonDict)
open PolicyValidation (strip isSpace)

theorem isSafeObjectKeyPath_iff (value : String) :
    isSafeObjectKeyPath value = true ↔
      (value ≠ "" ∧ value = strip value ∧ '\\' ∉ value.toList ∧
        hasControlCharacters value = false) ∧ ObjectPath.Clean value.toList := by
  rw [isSafeObjectKeyPath]
  by_cases odd : value = "" ∨ value ≠ strip value ∨ '\\' ∈ value.toList ∨ hasControlCharacters value
  · rw [if_pos odd]
    refine ⟨fun no => Bool.noConfusion no, fun safe => ?_⟩
    obtain ⟨⟨some, stripped, slash, control⟩, _⟩ := safe
    cases odd with
    | inl none => exact absurd none some
    | inr odd =>
      cases odd with
      | inl loose => exact absurd stripped loose
      | inr odd =>
        cases odd with
        | inl there => exact absurd there slash
        | inr odd => rw [control] at odd; exact Bool.noConfusion odd
  · rw [if_neg odd]
    simp only [not_or, not_not, Bool.not_eq_true] at odd
    by_cases unclean : [] ∈ value.toList.splitOn '/' ∨ ['.'] ∈ value.toList.splitOn '/' ∨
        ['.', '.'] ∈ value.toList.splitOn '/'
    · rw [if_pos unclean]
      refine ⟨fun no => Bool.noConfusion no, fun safe => ?_⟩
      obtain ⟨_, some, undotted, undoubled⟩ := safe
      tauto
    · rw [if_neg unclean]
      simp only [not_or] at unclean
      refine ⟨fun _ => ⟨odd, unclean⟩, fun _ => ?_⟩
      rw [ObjectPath.asPosix_eq_self unclean.1 unclean.2.1]
      exact beq_self_eq_true _

def isPathChar (c : Char) : Bool := c == '/' || isPlainChar c

theorem isPathChar_isSpace {c : Char} (plain : isPathChar c = true) : isSpace c = false := by
  cases Bool.or_eq_true_iff.mp plain with
  | inl slash =>
    rw [beq_iff_eq.mp slash]
    decide
  | inr other =>
    simp only [isPlainChar, Bool.and_eq_true, Bool.not_eq_true'] at other
    exact other.1.2

theorem isPathChar_isControl {c : Char} (plain : isPathChar c = true) :
    (c.toNat < 32 || c.toNat == 127) = false := by
  cases Bool.or_eq_true_iff.mp plain with
  | inl slash =>
    rw [beq_iff_eq.mp slash]
    decide
  | inr other =>
    simp only [isPlainChar, Bool.and_eq_true, Bool.not_eq_true'] at other
    exact other.2

theorem strip_eq_self {value : String} (spaceless : ∀ c ∈ value.toList, isSpace c = false) :
    strip value = value := by
  have kept : ∀ text : List Char, (∀ c ∈ text, isSpace c = false) →
      text.dropWhile isSpace = text := by
    intro text spaceless
    cases text with
    | nil => rfl
    | cons c rest =>
      rw [List.dropWhile_cons_of_neg]
      rw [spaceless c List.mem_cons_self]
      exact Bool.noConfusion
  have spaceless' : ∀ c ∈ value.toList.reverse, isSpace c = false :=
    fun c mem => spaceless c (List.mem_reverse.mp mem)
  rw [strip, kept _ spaceless, kept _ spaceless', List.reverse_reverse, String.ofList_toList]

theorem safe_of_clean {value : String} (plain : ∀ c ∈ value.toList, isPathChar c = true)
    (clean : ObjectPath.Clean value.toList) : isSafeObjectKeyPath value = true := by
  refine (isSafeObjectKeyPath_iff value).mpr ⟨⟨?_, ?_, ?_, ?_⟩, clean⟩
  · intro none
    rw [none] at clean
    exact clean.1 List.mem_cons_self
  · exact (strip_eq_self fun c mem => isPathChar_isSpace (plain c mem)).symm
  · intro mem
    exact Bool.noConfusion (plain _ mem)
  · apply List.any_eq_false.mpr
    intro c mem
    rw [isPathChar_isControl (plain c mem)]
    exact Bool.noConfusion

theorem toList_uuidText (id : UUID) : (uuidText id).toList = HexText.uuid id :=
  String.toList_ofList

theorem slash_not_mem_uuid (id : UUID) : '/' ∉ HexText.uuid id :=
  HexText.not_mem_uuid (by decide)

theorem uuid_clean (id : UUID) : ObjectPath.Clean (HexText.uuid id) := by
  obtain ⟨c, rest, eq⟩ := List.exists_cons_of_ne_nil (HexText.uuid_ne_nil id)
  have mem : c ∈ HexText.uuid id := by
    rw [eq]
    exact List.mem_cons_self
  refine ObjectPath.Clean.name (slash_not_mem_uuid id) mem fun dot => ?_
  rw [dot] at mem
  exact HexText.not_mem_uuid (by decide) mem

theorem uuid_ne {id : UUID} {text : List Char} {c : Char} (foreign : HexText.isUuidChar c = false)
    (mem : c ∈ text) : HexText.uuid id ≠ text := by
  intro eq
  rw [← eq] at mem
  exact HexText.not_mem_uuid foreign mem

def tenants : List Char := ['t', 'e', 'n', 'a', 'n', 't', 's']

def jobs : List Char := ['j', 'o', 'b', 's']

theorem markers : ObjectPath.Markers '/' tenants jobs where
  first_plain := by decide
  second_plain := by decide
  ne := by decide

theorem named (job : MediaGenerationJob) :
    ObjectPath.Named '/' tenants jobs (HexText.uuid job.tenantId) (HexText.uuid job.id) where
  tenant_plain := slash_not_mem_uuid job.tenantId
  job_plain := slash_not_mem_uuid job.id
  ne_first := uuid_ne (c := 't') (by decide) (by decide)
  ne_second := uuid_ne (c := 'j') (by decide) (by decide)

def home (base : String) (job : MediaGenerationJob) : List Char :=
  ObjectPath.folder '/' tenants jobs base.toList (HexText.uuid job.tenantId) (HexText.uuid job.id)

theorem toList_namespaceOf (base : String) (job : MediaGenerationJob) :
    (namespaceOf base job).toList = home base job ++ ['/'] := by
  have first : "/tenants/".toList = ['/'] ++ tenants ++ ['/'] := by decide
  have second : "/jobs/".toList = ['/'] ++ jobs ++ ['/'] := by decide
  have slash : "/".toList = ['/'] := by decide
  simp only [namespaceOf, home, ObjectPath.folder, String.toList_append, toList_uuidText, first,
    second, slash, List.append_assoc]

theorem toList_legacyNamespaceOf (base : String) (job : MediaGenerationJob) :
    (legacyNamespaceOf base job).toList =
      base.toList ++ ['/'] ++ HexText.uuid job.id ++ ['/'] := by
  have slash : "/".toList = ['/'] := by decide
  simp only [legacyNamespaceOf, String.toList_append, toList_uuidText, slash]

theorem tenants_clean : ObjectPath.Clean tenants :=
  ObjectPath.Clean.name (c := 't') (by decide) (by decide) (by decide)

theorem jobs_clean : ObjectPath.Clean jobs :=
  ObjectPath.Clean.name (c := 'j') (by decide) (by decide) (by decide)

variable {base : String}

theorem home_clean (clean : ObjectPath.Clean base.toList) (job : MediaGenerationJob) :
    ObjectPath.Clean (home base job) :=
  clean.below (tenants_clean.below ((uuid_clean _).below (jobs_clean.below (uuid_clean _))))

theorem removePrefix_eq_some {start text rest : String} :
    removePrefix start text = some rest ↔ text.toList = start.toList ++ rest.toList := by
  rw [removePrefix]
  by_cases begins : start.toList <+: text.toList
  · obtain ⟨more, eq⟩ := begins
    rw [if_pos ⟨more, eq⟩, Option.some.injEq, ← eq, List.drop_left]
    constructor
    · intro same
      rw [← same, String.toList_ofList]
    · intro same
      rw [List.append_cancel_left same, String.ofList_toList]
  · rw [if_neg begins]
    constructor
    · intro no
      cases no
    · intro eq
      exact absurd ⟨rest.toList, eq.symm⟩ begins

theorem stripped_ok {rawPrefix : Json} (returned : safePrefix rawPrefix = .ok base) :
    isSafeObjectKeyPath base = true := by
  cases rawPrefix with
  | str text =>
    rw [safePrefix, Fallible.guard_ok] at returned
    obtain ⟨accepted, eq⟩ := returned
    cases eq
    simp only [not_or, Bool.not_eq_true, Bool.not_eq_false'] at accepted
    exact accepted.1
  | null => cases returned
  | bool b => cases returned
  | num q => cases returned
  | arr items => cases returned
  | obj entries => cases returned

variable {lib : OutputLibrary} {settings : MediaOutputSettings} {job other : MediaGenerationJob}

theorem base_safe (returned : mediaOutputBasePrefix lib job = .ok base) :
    isSafeObjectKeyPath base = true := by
  rw [mediaOutputBasePrefix, Fallible.guard_ok] at returned
  exact stripped_ok returned.2

variable {key : String}

theorem relativeObjectKey_ok {expected legacy : String} {relative : String × Bool}
    (returned : relativeObjectKey expected legacy key = .ok relative) :
    (relative.2 = false ∧ key.toList = expected.toList ++ relative.1.toList) ∨
      (relative.2 = true ∧ key.toList = legacy.toList ++ relative.1.toList) := by
  rw [relativeObjectKey] at returned
  cases own : removePrefix expected key with
  | some rest =>
    rw [own] at returned
    cases returned
    exact .inl ⟨rfl, removePrefix_eq_some.mp own⟩
  | none =>
    cases old : removePrefix legacy key with
    | some rest =>
      rw [own, old] at returned
      cases returned
      exact .inr ⟨rfl, removePrefix_eq_some.mp old⟩
    | none =>
      rw [own, old] at returned
      cases returned

variable {output : JsonDict}

theorem validateKey_ok :
    validateKey lib job output key = .ok () ↔
      ∃ base relative, mediaOutputBasePrefix lib job = .ok base ∧
        relativeObjectKey (namespaceOf base job) (legacyNamespaceOf base job) key = .ok relative ∧
        isSafeObjectKeyPath relative.1 = true ∧
        validateStorageOwnerMetadata lib job output relative.2 = .ok () := by
  constructor
  · intro returned
    rw [validateKey, Fallible.bind_ok] at returned
    obtain ⟨expected, got, returned⟩ := returned
    rw [mediaOutputObjectKeyPrefix, Fallible.bind_ok] at got
    obtain ⟨base, configured, eq⟩ := got
    cases eq
    rw [Fallible.bind_ok] at returned
    obtain ⟨base', configured', returned⟩ := returned
    rw [configured] at configured'
    cases configured'
    rw [Fallible.bind_ok] at returned
    obtain ⟨relative, found, returned⟩ := returned
    rw [Fallible.guard_ok] at returned
    obtain ⟨safe, owned⟩ := returned
    simp only [Bool.not_eq_true', Bool.not_eq_false] at safe
    exact ⟨base, relative, configured, found, safe, owned⟩
  · intro h
    obtain ⟨base, relative, configured, found, safe, owned⟩ := h
    rw [validateKey, Fallible.bind_ok]
    refine ⟨namespaceOf base job, ?_, ?_⟩
    · rw [mediaOutputObjectKeyPrefix, configured]
      rfl
    · rw [Fallible.bind_ok]
      refine ⟨base, configured, ?_⟩
      rw [Fallible.bind_ok]
      refine ⟨relative, found, ?_⟩
      rw [Fallible.guard_ok]
      refine ⟨?_, owned⟩
      rw [safe]
      exact Bool.noConfusion

theorem base_of_configured {raw : String} (untenanted : job.outputStorage.get "tenant_id" = .null)
    (configured : job.outputStorage.get "prefix" = .str raw) (stripped : stripSlashes raw = raw)
    (safe : isSafeObjectKeyPath raw = true) : mediaOutputBasePrefix lib job = .ok raw := by
  simp only [mediaOutputBasePrefix, untenanted, configured, Json.isNull, safePrefix, stripped, safe,
    Bool.not_true, Bool.false_eq_true, false_and, if_false, ne_eq, not_true_eq_false, or_self]

theorem validateKey_own {relative : String} (configured : mediaOutputBasePrefix lib job = .ok base)
    (safe : isSafeObjectKeyPath relative = true)
    (eq : key.toList = (namespaceOf base job).toList ++ relative.toList)
    (owned : validateStorageOwnerMetadata lib job output false = .ok ()) :
    validateKey lib job output key = .ok () := by
  refine validateKey_ok.mpr ⟨base, (relative, false), configured, ?_, safe, owned⟩
  rw [relativeObjectKey, removePrefix_eq_some.mpr eq]

theorem validate_ok {bucket : String} :
    validateMediaOutputStorageReference lib settings job output = .ok (bucket, key) ↔
      output.get "bucket" = .str bucket ∧ output.get "object_key" = .str key ∧
        mediaOutputBucket settings job = .ok bucket ∧
        validateKey lib job output key = .ok () := by
  constructor
  · intro returned
    rw [validateMediaOutputStorageReference] at returned
    split at returned
    · rename_i named_bucket named_key there there'
      rw [Fallible.bind_ok] at returned
      obtain ⟨expected, configured, returned⟩ := returned
      rw [Fallible.guard_ok, Fallible.bind_ok] at returned
      obtain ⟨same, done, checked, eq⟩ := returned
      cases eq
      rw [not_not] at same
      exact ⟨there, there', same ▸ configured, checked⟩
    · cases returned
  · intro h
    obtain ⟨there, there', configured, checked⟩ := h
    rw [validateMediaOutputStorageReference, there, there']
    simp only [configured, checked, bind, Except.bind, ne_eq, not_true_eq_false, if_false]
    rfl

structure Owned (lib : OutputLibrary) (job : MediaGenerationJob) (metadata : JsonDict) : Prop where
  tenant_named : (metadata.get "tenant_id").isNull = false
  tenant_eq : lib.str (metadata.get "tenant_id") = uuidText job.tenantId
  job_named : namedJobs metadata ≠ []
  job_eq : ∀ value ∈ namedJobs metadata, lib.str value = uuidText job.id

theorem required_owner (checked : validateStorageOwnerMetadata lib job output true = .ok ()) :
    ∃ metadata, output.get "storage_metadata" = .obj metadata ∧ Owned lib job metadata := by
  cases stored : output.get "storage_metadata" with
  | obj metadata =>
    simp only [validateStorageOwnerMetadata, stored] at checked
    rw [validateOwner, Fallible.guard_ok, Fallible.guard_ok, Fallible.guard_ok] at checked
    obtain ⟨tenant, jobs, some, _⟩ := checked
    have tenant_named : (JsonDict.get metadata "tenant_id").isNull = false := by
      apply Bool.eq_false_iff.mpr
      exact fun missing => tenant (.inl ⟨rfl, missing⟩)
    refine ⟨metadata, rfl, tenant_named, ?_, ?_, ?_⟩
    · apply Decidable.of_not_not
      intro differs
      refine tenant (.inr ⟨?_, differs⟩)
      rw [tenant_named]
      rfl
    · intro none
      rw [none] at some
      exact some ⟨rfl, rfl⟩
    · intro value mem
      apply Decidable.of_not_not
      exact fun differs => jobs ⟨value, mem, differs⟩
  | null =>
    simp only [validateStorageOwnerMetadata, stored] at checked
    cases checked
  | bool b =>
    simp only [validateStorageOwnerMetadata, stored] at checked
    cases checked
  | num q =>
    simp only [validateStorageOwnerMetadata, stored] at checked
    cases checked
  | str s =>
    simp only [validateStorageOwnerMetadata, stored] at checked
    cases checked
  | arr items =>
    simp only [validateStorageOwnerMetadata, stored] at checked
    cases checked

def InNamespace (lib : OutputLibrary) (job : MediaGenerationJob) (key : String) : Prop :=
  ∃ base relative, mediaOutputBasePrefix lib job = .ok base ∧
    isSafeObjectKeyPath relative = true ∧
    key.toList = (namespaceOf base job).toList ++ relative.toList

def InLegacyNamespace (lib : OutputLibrary) (job : MediaGenerationJob) (output : JsonDict)
    (key : String) : Prop :=
  ∃ base relative, mediaOutputBasePrefix lib job = .ok base ∧
    isSafeObjectKeyPath relative = true ∧
    key.toList = (legacyNamespaceOf base job).toList ++ relative.toList ∧
    ∃ metadata, output.get "storage_metadata" = .obj metadata ∧ Owned lib job metadata

def HoldsBaseOf (lib : OutputLibrary) (job other : MediaGenerationJob) : Prop :=
  ∃ base base', mediaOutputBasePrefix lib job = .ok base ∧
    mediaOutputBasePrefix lib other = .ok base' ∧
    (namespaceOf base job).toList <+: (base' ++ "/").toList

theorem namespace_of_validateKey (checked : validateKey lib job output key = .ok ()) :
    InNamespace lib job key ∨ InLegacyNamespace lib job output key := by
  obtain ⟨base, relative, configured, found, safe, owned⟩ := validateKey_ok.mp checked
  cases relativeObjectKey_ok found with
  | inl own => exact .inl ⟨base, relative.1, configured, safe, own.2⟩
  | inr old =>
    rw [old.1] at owned
    exact .inr ⟨base, relative.1, configured, safe, old.2, required_owner owned⟩

theorem InNamespace.clean (within : InNamespace lib job key) : ObjectPath.Clean key.toList := by
  obtain ⟨base, relative, configured, safe, eq⟩ := within
  have root := ((isSafeObjectKeyPath_iff base).mp (base_safe configured)).2
  rw [eq, toList_namespaceOf]
  exact (home_clean root job).below ((isSafeObjectKeyPath_iff relative).mp safe).2

theorem InLegacyNamespace.clean (within : InLegacyNamespace lib job output key) :
    ObjectPath.Clean key.toList := by
  obtain ⟨base, relative, configured, safe, eq, _⟩ := within
  have root := ((isSafeObjectKeyPath_iff base).mp (base_safe configured)).2
  rw [eq, toList_legacyNamespaceOf]
  exact (root.below (uuid_clean job.id)).below ((isSafeObjectKeyPath_iff relative).mp safe).2

theorem namespaces_apart (distinct : job.id ≠ other.id) (free : ¬ HoldsBaseOf lib job other)
    (free' : ¬ HoldsBaseOf lib other job) (within : InNamespace lib job key) :
    ¬ InNamespace lib other key := by
  intro within'
  obtain ⟨base, relative, configured, _, eq⟩ := within
  obtain ⟨base', relative', configured', _, eq'⟩ := within'
  have slash : "/".toList = ['/'] := by decide
  have below : home base job ++ ['/'] <+: key.toList := by
    rw [eq, toList_namespaceOf]
    exact List.prefix_append _ _
  have below' : home base' other ++ ['/'] <+: key.toList := by
    rw [eq', toList_namespaceOf]
    exact List.prefix_append _ _
  refine ObjectPath.apart_of_not_nested markers (named job) (named other) ?_ ?_ ?_ below below'
  · intro same
    exact distinct (HexText.uuid_inj job.id_bounded other.id_bounded same.2)
  · intro nested
    refine free ⟨base, base', configured, configured', ?_⟩
    rw [toList_namespaceOf, String.toList_append, slash]
    exact nested
  · intro nested
    refine free' ⟨base', base, configured', configured, ?_⟩
    rw [toList_namespaceOf, String.toList_append, slash]
    exact nested

/-- What is accepted stays in the bucket and namespace of its job, and two jobs neither of
which has its configured prefix in the other's namespace share no namespaced key. -/
theorem references_stay_in_namespace (lib : OutputLibrary) (settings : MediaOutputSettings) :
    (∀ job output bucket key,
      validateMediaOutputStorageReference lib settings job output = .ok (bucket, key) →
      output.get "bucket" = .str bucket ∧ output.get "object_key" = .str key ∧
        mediaOutputBucket settings job = .ok bucket ∧
        (InNamespace lib job key ∨ InLegacyNamespace lib job output key) ∧
        ObjectPath.Clean key.toList) ∧
    ∀ job other, job.id ≠ other.id → ¬ HoldsBaseOf lib job other → ¬ HoldsBaseOf lib other job →
      ∀ key, InNamespace lib job key → ¬ InNamespace lib other key := by
  refine ⟨?_, ?_⟩
  · intro job output bucket key accepted
    obtain ⟨there, there', configured, checked⟩ := validate_ok.mp accepted
    have within := namespace_of_validateKey checked
    exact ⟨there, there', configured, within, within.elim (·.clean) (·.clean)⟩
  · intro job other distinct free free' key within
    exact namespaces_apart distinct free free' within

def plainLibrary : OutputLibrary where
  str value := match value with
    | .str text => text
    | _ => ""
  urlPath url := .ok url
  guessType _ := none
  guessExtension type := if type = "image/png" then some ".png" else none
  b64decode _ := some [104, 105]
  sha256 _ := 0x8f434346648f6b96df89dda901c5176b10a6d83961dd3c1ac88b59b2dc327aa4
  str_text _ := rfl
  extension_plain := by
    intro type extension eq
    split at eq
    · cases eq
      exact ⟨['p', 'n', 'g'], by decide, List.all_eq_true.mp (by decide)⟩
    · cases eq

def mediaBucket : MediaOutputSettings := ⟨"media"⟩

def mediaJob (id : UUID) (bounded : id < 2 ^ 128) (base : String) : MediaGenerationJob where
  id := id
  tenantId := 10
  kind := "image"
  providerKey := "openai"
  modelKey := "gpt-image-1"
  outputStorage := [("driver", .str "minio"), ("prefix", .str base)]
  id_bounded := bounded
  tenant_bounded := by decide

theorem base_of_mediaJob {id : UUID} {bounded : id < 2 ^ 128} (stripped : stripSlashes base = base)
    (safe : isSafeObjectKeyPath base = true) :
    mediaOutputBasePrefix plainLibrary (mediaJob id bounded base) = .ok base :=
  base_of_configured rfl rfl stripped safe

def posterJob : MediaGenerationJob := mediaJob 1 (by decide) "images"

def clipJob : MediaGenerationJob := mediaJob 3 (by decide) "videos"

def nestedJob : MediaGenerationJob :=
  mediaJob 2 (by decide) (String.ofList (home "images" posterJob))

def referenceTo (base : String) (job : MediaGenerationJob) (relative : String) : JsonDict :=
  [("bucket", .str "media"), ("object_key", .str (namespaceOf base job ++ relative))]

theorem image_safe : isSafeObjectKeyPath "1.png" = true := by decide +kernel

theorem poster_base : mediaOutputBasePrefix plainLibrary posterJob = .ok "images" :=
  rfl

theorem clip_base : mediaOutputBasePrefix plainLibrary clipJob = .ok "videos" :=
  rfl

theorem reference_accepted (job : MediaGenerationJob) {relative : String}
    (media : mediaOutputBucket mediaBucket job = .ok "media")
    (configured : mediaOutputBasePrefix plainLibrary job = .ok base)
    (safe : isSafeObjectKeyPath relative = true) :
    validateMediaOutputStorageReference plainLibrary mediaBucket job
      (referenceTo base job relative) = .ok ("media", namespaceOf base job ++ relative) :=
  validate_ok.mpr ⟨rfl, rfl, media,
    validateKey_own configured safe String.toList_append rfl⟩

theorem poster_reference_apart :
    InNamespace plainLibrary posterJob (namespaceOf "images" posterJob ++ "1.png") ∧
      ¬ InNamespace plainLibrary clipJob (namespaceOf "images" posterJob ++ "1.png") ∧
      ObjectPath.Clean (namespaceOf "images" posterJob ++ "1.png").toList := by
  have stay := references_stay_in_namespace plainLibrary mediaBucket
  have within : InNamespace plainLibrary posterJob (namespaceOf "images" posterJob ++ "1.png") :=
    ⟨_, "1.png", poster_base, image_safe, String.toList_append⟩
  have accepted := reference_accepted posterJob rfl poster_base image_safe
  refine ⟨within, stay.2 posterJob clipJob (by decide) ?_ ?_ _ within,
    (stay.1 _ _ _ _ accepted).2.2.2.2⟩
  · intro nested
    obtain ⟨base, base', configured, configured', holds⟩ := nested
    rw [poster_base] at configured
    rw [clip_base] at configured'
    cases configured
    cases configured'
    revert holds
    decide +kernel
  · intro nested
    obtain ⟨base, base', configured, configured', holds⟩ := nested
    rw [clip_base] at configured
    rw [poster_base] at configured'
    cases configured
    cases configured'
    revert holds
    decide +kernel

def nestedPlace (job : MediaGenerationJob) : List Char :=
  tenants ++ ['/'] ++ (HexText.uuid job.tenantId ++ ['/'] ++
    (jobs ++ ['/'] ++ (HexText.uuid job.id ++ ['/'] ++ ['1', '.', 'p', 'n', 'g'])))

theorem nestedPlace_safe : isSafeObjectKeyPath (String.ofList (nestedPlace nestedJob)) = true := by
  decide +kernel

theorem nested_base : mediaOutputBasePrefix plainLibrary nestedJob =
    .ok (String.ofList (home "images" posterJob)) :=
  base_of_mediaJob (by decide +kernel) (by decide +kernel)

theorem nested_jobs_share_key :
    ¬ ∀ job other : MediaGenerationJob, job.id ≠ other.id →
      ∀ output output' bucket key,
        validateMediaOutputStorageReference plainLibrary mediaBucket job output =
          .ok (bucket, key) →
        validateMediaOutputStorageReference plainLibrary mediaBucket other output' =
          .ok (bucket, key) →
        InNamespace plainLibrary job key → ¬ InNamespace plainLibrary other key := by
  intro apart
  have same : namespaceOf (String.ofList (home "images" posterJob)) nestedJob ++ "1.png" =
      namespaceOf "images" posterJob ++ String.ofList (nestedPlace nestedJob) := by
    have image : "1.png".toList = ['1', '.', 'p', 'n', 'g'] := by decide
    rw [← String.toList_inj, String.toList_append, String.toList_append, toList_namespaceOf,
      toList_namespaceOf, image]
    simp only [home, ObjectPath.folder, String.toList_ofList, nestedPlace, List.append_assoc]
  have outer := reference_accepted posterJob rfl poster_base (nestedPlace_safe)
  have inner := reference_accepted nestedJob rfl nested_base image_safe
  refine apart posterJob nestedJob (by decide) _ _ _ _ outer (same ▸ inner) ?_ ?_
  · exact ⟨_, _, poster_base, nestedPlace_safe, String.toList_append⟩
  · rw [← same]
    exact ⟨_, _, nested_base, image_safe, String.toList_append⟩

end AgentHive.MediaOutputArchive
