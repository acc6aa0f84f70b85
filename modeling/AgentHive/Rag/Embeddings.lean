import AgentHive.Services.KnowledgeTables
import AgentHive.Store.TtlCache
import Mathlib.Algebra.Order.Field.Rat
import Mathlib.Data.List.Induction

/-!
The embedding services: the hash of the offline service, and the adapter of a live
endpoint with its retries, its circuit breaker and its fallback.
-/

namespace AgentHive.Rag

structure HashVectors where
  hashVector : Nat → String → List ℚ
  length_hashVector : ∀ dimensions text, (hashVector dimensions text).length = dimensions

inductive PostOutcome
  | answers (vector : List ℚ)
  | statusError (code : Nat)
  | fails (className message : String)
  | raises (x : Exc)

structure EmbedCall where
  text : String
  askedAt : ℚ
  failedAt : ℚ
  attempts : Nat → PostOutcome

structure EmbeddingBreaker where
  failures : Nat := 0
  openedAt : Option ℚ := none

structure BreakerConfig where
  failureThreshold : Int
  resetTimeoutSeconds : ℚ

namespace EmbeddingBreaker

variable (config : BreakerConfig) (breaker : EmbeddingBreaker)

/-- `allow`: closed, or open for so long that a probe is let through. -/
def allow (now : ℚ) : Bool :=
  match breaker.openedAt with
  | none => true
  | some openedAt => max 0 config.resetTimeoutSeconds ≤ now - openedAt

def recordSuccess : EmbeddingBreaker := { failures := 0, openedAt := none }

def recordFailure (now : ℚ) : EmbeddingBreaker where
  failures := breaker.failures + 1
  openedAt :=
    if max 1 config.failureThreshold ≤ breaker.failures + 1 then some now else breaker.openedAt

end EmbeddingBreaker

structure GatewayEmbeddingConfig where
  baseUrl : String
  apiKey : String
  modelKey : String
  requestedDimensions : Int
  maxRetries : Int
  breaker : Option BreakerConfig
  development : Bool

inductive EmbeddingConfig
  | localHash (modelKey : String) (requestedDimensions : Int) (mode : String)
  | gateway (config : GatewayEmbeddingConfig)

namespace LocalHash

def embedText (hash : HashVectors) (modelKey : String) (requestedDimensions : Int)
    (mode text : String) : EmbeddingResult :=
  let dimensions := (min (max requestedDimensions 64) 1536).toNat
  { modelKey := modelKey
    dimensions := dimensions
    vector := hash.hashVector dimensions text
    mode := mode }

end LocalHash

namespace GatewayEmbeddingConfig

variable (hash : HashVectors) (config : GatewayEmbeddingConfig)

def liveMode : String := "llm_gateway_openai_compatible"

def fallbackMode : String := liveMode ++ "+local_hash_fallback"

def isLiveConfigured : Bool := config.baseUrl != "" && config.apiKey != ""

def dimensions : Int := min (max config.requestedDimensions 64) 4096

def fallback (text : String) : EmbeddingResult :=
  LocalHash.embedText hash config.modelKey (min config.dimensions 1536) fallbackMode text

variable (breaker : EmbeddingBreaker)

def lets (now : ℚ) : Bool :=
  match config.breaker with
  | none => true
  | some settings => breaker.allow settings now

def failed (now : ℚ) : EmbeddingBreaker :=
  match config.breaker with
  | none => breaker
  | some settings => breaker.recordFailure settings now

def succeeded : EmbeddingBreaker :=
  match config.breaker with
  | none => breaker
  | some _ => EmbeddingBreaker.recordSuccess

/-- The loop of `_post_embeddings_with_resilience` from an attempt on, with so many
attempts left and the error so far. -/
def postFrom (breaker : EmbeddingBreaker) (call : EmbedCall) (attempt : Nat) :
    Nat → Exc → Except Exc (List ℚ) × EmbeddingBreaker
  | 0, lastExc => (.error lastExc, config.failed breaker call.failedAt)
  | remaining + 1, _ =>
    match call.attempts attempt with
    | .answers vector => (.ok vector, config.succeeded breaker)
    | .statusError code =>
      if 400 ≤ code ∧ code < 500 then
        (.error (.other "HTTPStatusError" ""), config.failed breaker call.failedAt)
      else postFrom breaker call (attempt + 1) remaining (.other "HTTPStatusError" "")
    | .fails className message =>
      postFrom breaker call (attempt + 1) remaining (.other className message)
    | .raises x => (.error x, breaker)

def post (call : EmbedCall) : Except Exc (List ℚ) × EmbeddingBreaker :=
  config.postFrom breaker call 0 (config.maxRetries + 1).toNat
    (.other "RuntimeError" "Embedding endpoint call failed after retries.")

def embedText (call : EmbedCall) : Except Exc EmbeddingResult × EmbeddingBreaker :=
  if !config.isLiveConfigured then
    if config.development then (.ok (config.fallback hash call.text), breaker)
    else (.error (.other "RuntimeError" ""), breaker)
  else if !config.lets breaker call.askedAt then
    if config.development then (.ok (config.fallback hash call.text), breaker)
    else (.error (.other "CircuitBreakerOpenError" ""), breaker)
  else
    match config.post breaker call with
    | (.ok vector, breaker) =>
      (.ok
        { modelKey := config.modelKey
          dimensions := vector.length
          vector := vector
          mode := liveMode }, breaker)
    | (.error x, breaker) => (.error x, breaker)

end GatewayEmbeddingConfig

namespace EmbeddingConfig

variable (hash : HashVectors)

def modelKey : EmbeddingConfig → String
  | .localHash modelKey _ _ => modelKey
  | .gateway config => config.modelKey

/-- `embed_text` of the service. -/
def embedText (breaker : EmbeddingBreaker) (call : EmbedCall) :
    EmbeddingConfig → Except Exc EmbeddingResult × EmbeddingBreaker
  | .localHash modelKey dimensions mode =>
    (.ok (LocalHash.embedText hash modelKey dimensions mode call.text), breaker)
  | .gateway config => config.embedText hash breaker call

def embedAll (config : EmbeddingConfig) (breaker : EmbeddingBreaker) :
    List EmbedCall → Except Exc (List EmbeddingResult) × EmbeddingBreaker
  | [] => (.ok [], breaker)
  | call :: calls =>
    match config.embedText hash breaker call with
    | (.error x, breaker) => (.error x, breaker)
    | (.ok embedding, breaker) =>
      match embedAll config breaker calls with
      | (.error x, breaker) => (.error x, breaker)
      | (.ok embeddings, breaker) => (.ok (embedding :: embeddings), breaker)

def mode : EmbeddingConfig → String
  | .localHash _ _ mode => mode
  | .gateway config =>
    if config.isLiveConfigured then GatewayEmbeddingConfig.liveMode
    else GatewayEmbeddingConfig.fallbackMode

def LetThrough (breaker : EmbeddingBreaker) (call : EmbedCall) : EmbeddingConfig → Prop
  | .localHash .. => True
  | .gateway config =>
    config.isLiveConfigured → config.development → config.lets breaker call.askedAt

def AllLetThrough (config : EmbeddingConfig) (breaker : EmbeddingBreaker) :
    List EmbedCall → Prop
  | [] => True
  | call :: calls =>
    config.LetThrough breaker call ∧
      ∀ embedding, (config.embedText hash breaker call).1 = .ok embedding →
        AllLetThrough config (config.embedText hash breaker call).2 calls

structure Native (config : EmbeddingConfig) (embedding : EmbeddingResult) : Prop where
  mode : embedding.mode = config.mode
  dimensions : embedding.dimensions = embedding.vector.length

variable {hash} {config : EmbeddingConfig} {breaker : EmbeddingBreaker} {call : EmbedCall}
  {embedding : EmbeddingResult}

theorem native_of_letThrough (through : config.LetThrough breaker call)
    (embedded : (config.embedText hash breaker call).1 = .ok embedding) :
    config.Native embedding := by
  cases config with
  | localHash modelKey dimensions mode =>
    cases embedded
    exact ⟨rfl, (hash.length_hashVector ..).symm⟩
  | gateway config =>
    simp only [embedText, GatewayEmbeddingConfig.embedText] at embedded
    split at embedded
    · rename_i unconfigured
      split at embedded
      · cases embedded
        refine ⟨?_, (hash.length_hashVector ..).symm⟩
        rw [mode, if_neg (by simpa using unconfigured)]
        rfl
      · cases embedded
    · rename_i configured
      have live : config.isLiveConfigured := by simpa using configured
      split at embedded
      · rename_i refused
        split at embedded
        · rename_i development
          rw [through live development] at refused
          cases refused
        · cases embedded
      · split at embedded
        · cases embedded
          exact ⟨(if_pos live).symm, rfl⟩
        · cases embedded

theorem native_of_allLetThrough {calls : List EmbedCall} {embeddings : List EmbeddingResult}
    (through : config.AllLetThrough hash breaker calls)
    (embedded : (config.embedAll hash breaker calls).1 = .ok embeddings) :
    ∀ embedding ∈ embeddings, config.Native embedding := by
  induction calls generalizing breaker embeddings with
  | nil =>
    cases embedded
    exact fun _ mem => nomatch mem
  | cons call calls ih =>
    obtain ⟨first, rest⟩ := through
    simp only [embedAll] at embedded
    cases answered : config.embedText hash breaker call with
    | mk answer breaker' =>
      rw [answered] at embedded rest
      cases answer with
      | error x => cases embedded
      | ok embedding =>
        have through' := rest embedding rfl
        dsimp only at embedded through'
        cases others : config.embedAll hash breaker' calls with
        | mk answers breaker'' =>
          rw [others] at embedded
          cases answers with
          | error x => cases embedded
          | ok found =>
            cases embedded
            intro e mem
            rcases List.mem_cons.mp mem with own | later
            · rw [own]
              exact native_of_letThrough first (congrArg Prod.fst answered)
            · exact ih through' (congrArg Prod.fst others) e later

end EmbeddingConfig
inductive BreakerStep
  | ask (call : Nat) (now : ℚ)
  | succeeded (call : Nat)
  | failed (call : Nat) (now : ℚ)

structure BreakerSystem where
  breaker : EmbeddingBreaker := {}
  probes : List Nat := []

namespace BreakerSystem

variable (config : BreakerConfig)

def after (s : BreakerSystem) : BreakerStep → BreakerSystem
  | .ask call now =>
    if s.breaker.openedAt.isSome && s.breaker.allow config now then
      { s with probes := call :: s.probes }
    else s
  | .succeeded call => { breaker := .recordSuccess, probes := s.probes.erase call }
  | .failed call now =>
    { breaker := s.breaker.recordFailure config now, probes := s.probes.erase call }

variable (steps : List BreakerStep)

def run : BreakerSystem := steps.foldl (after config) {}

def IsOpen (s : BreakerSystem) (now : ℚ) : Prop :=
  ∃ openedAt, s.breaker.openedAt = some openedAt ∧
    now - openedAt < max 0 config.resetTimeoutSeconds

def LetsOneProbe : Prop :=
  (∀ before call now later, steps = before ++ .ask call now :: later →
    (run config before).IsOpen config now → (run config before).breaker.allow config now = false) ∧
    ∀ before later, steps = before ++ later → (run config before).probes.length ≤ 1

def AsksAlone : Prop :=
  ∀ before call now later, steps = before ++ .ask call now :: later →
    (run config before).breaker.openedAt.isSome = true →
      (run config before).breaker.allow config now = true → (run config before).probes = []

theorem run_concat (before : List BreakerStep) (step : BreakerStep) :
    run config (before ++ [step]) = (run config before).after config step :=
  List.foldl_append

theorem probes_after {s : BreakerSystem} {step : BreakerStep} (one : s.probes.length ≤ 1)
    (alone : ∀ call now, step = .ask call now → s.breaker.openedAt.isSome = true →
      s.breaker.allow config now = true → s.probes = []) :
    (s.after config step).probes.length ≤ 1 := by
  cases step with
  | ask call now =>
    rw [after]
    split
    · rename_i through
      obtain ⟨isOpen, allowed⟩ := Bool.and_eq_true_iff.mp through
      simp [alone call now rfl isOpen allowed]
    · exact one
  | succeeded call | failed call => exact Nat.le_trans List.length_erase_le one

theorem letsOneProbe_iff (steps : List BreakerStep) :
    LetsOneProbe config steps ↔ AsksAlone config steps := by
  constructor
  · intro ⟨_, one⟩ before call now later eq isOpen allowed
    have more := one (before ++ [.ask call now]) later (by rw [eq, List.append_assoc]; rfl)
    rw [run_concat, after, if_pos (by rw [isOpen, allowed]; rfl)] at more
    exact List.eq_nil_of_length_eq_zero (Nat.le_zero.mp (Nat.le_of_succ_le_succ more))
  · intro alone
    refine ⟨?_, ?_⟩
    · intro before call now later _ ⟨openedAt, isOpen, early⟩
      rw [EmbeddingBreaker.allow, isOpen]
      exact decide_eq_false (not_le.mpr early)
    · intro before
      induction before using List.reverseRecOn with
      | nil => exact fun _ _ => Nat.zero_le 1
      | append_singleton before step ih =>
        intro later eq
        rw [List.append_assoc] at eq
        rw [run_concat]
        refine probes_after config (ih _ eq) fun call now same => ?_
        exact alone before call now later (same ▸ eq)

theorem two_probes_at_once :
    ¬ LetsOneProbe ⟨1, 10⟩ [.ask 1 0, .failed 1 0, .ask 2 10, .ask 3 10] := by
  intro ⟨_, one⟩
  exact absurd (one _ [] (List.append_nil _).symm) (by decide +kernel)

end BreakerSystem

structure EmbeddedChunk where
  tenantId : UUID
  knowledgeBaseId : UUID
  documentId : UUID
  chunkIndex : Nat
  text : String
  embedding : Option EmbeddingResult

structure EmbeddingSystem where
  rows : List EmbeddedChunk
  cache : TtlCache (String × String) EmbeddingResult ℚ
  breakers : Nat → EmbeddingBreaker

def emptySystem : EmbeddingSystem where
  rows := []
  cache := { maxsize := 1024, ttl := 600, data := .empty }
  breakers _ := {}

/-- The settings, `query.strip().lower()`, and whether the column for embeddings is there. -/
structure EmbeddingSetup where
  hash : HashVectors
  config : EmbeddingConfig
  normalizeQuery : String → String
  schemaReady : Bool := true

def columnDimensions : Nat := 1536

/-- An ingestion of the knowledge service or an upsert of the adapter, with a service of
its own; a search of the one or the other, of which the latter asks the cache; a
deletion; and the clearing of the caches. -/
inductive EmbeddingStep
  | write (service : Nat) (tenantId knowledgeBaseId documentId : UUID) (calls : List EmbedCall)
  | search (service : Nat) (tenantId knowledgeBaseId : UUID) (call : EmbedCall)
  | cachedSearch (service : Nat) (tenantId knowledgeBaseId : UUID) (call : EmbedCall)
      (clock : Nat → ℚ)
  | delete (documentId : UUID)
  | clearCaches

namespace EmbeddingSetup

variable (setup : EmbeddingSetup) (system : EmbeddingSystem)

def setBreaker (service : Nat) (breaker : EmbeddingBreaker) : EmbeddingSystem :=
  { system with
    breakers := fun other => if other = service then breaker else system.breakers other }

def writtenRows (tenantId knowledgeBaseId documentId : UUID) (calls : List EmbedCall)
    (embeddings : List (Option EmbeddingResult)) : List EmbeddedChunk :=
  (calls.zip embeddings).mapIdx fun index e =>
    { tenantId := tenantId
      knowledgeBaseId := knowledgeBaseId
      documentId := documentId
      chunkIndex := index
      text := e.1.text
      embedding := e.2 }

def replaceRows (documentId : UUID) (rows : List EmbeddedChunk) : EmbeddingSystem :=
  { system with
    rows := (system.rows.filter fun row => row.documentId != documentId) ++ rows }

/-- The chunks of a document with their embeddings, in one transaction: a call that raises
or a vector that the column does not take leaves the table as it was. -/
def write (service : Nat) (tenantId knowledgeBaseId documentId : UUID)
    (calls : List EmbedCall) : EmbeddingSystem :=
  if setup.schemaReady then
    match setup.config.embedAll setup.hash (system.breakers service) calls with
    | (.error _, breaker) => setBreaker system service breaker
    | (.ok embeddings, breaker) =>
      if embeddings.all fun embedding => embedding.vector.length == columnDimensions then
        replaceRows (setBreaker system service breaker) documentId
          (writtenRows tenantId knowledgeBaseId documentId calls (embeddings.map some))
      else setBreaker system service breaker
  else
    replaceRows system documentId
      (writtenRows tenantId knowledgeBaseId documentId calls (calls.map fun _ => none))

/-- The embeddings that `embedding <=> query` is computed for. -/
def candidates (tenantId knowledgeBaseId : UUID) : List EmbeddingResult :=
  (system.rows.filter fun row =>
    row.tenantId == tenantId && row.knowledgeBaseId == knowledgeBaseId).filterMap
      EmbeddedChunk.embedding

def compare (query : EmbeddingResult) (tenantId knowledgeBaseId : UUID) :
    Except Exc (EmbeddingResult × List EmbeddingResult) :=
  let compared := candidates system tenantId knowledgeBaseId
  if compared.all fun embedding => embedding.vector.length == query.vector.length then
    .ok (query, compared)
  else .error (.sqlAlchemy "DataError" "different vector dimensions")

/-- `_retrieve_pgvector_embedding_chunks`. -/
def search (service : Nat) (tenantId knowledgeBaseId : UUID) (call : EmbedCall) :
    Except Exc (EmbeddingResult × List EmbeddingResult) × EmbeddingSystem :=
  match setup.config.embedText setup.hash (system.breakers service) call with
  | (.error x, breaker) => (.error x, setBreaker system service breaker)
  | (.ok query, breaker) =>
    (compare system query tenantId knowledgeBaseId, setBreaker system service breaker)

def cachedSearch (service : Nat) (tenantId knowledgeBaseId : UUID) (call : EmbedCall)
    (clock : Nat → ℚ) : Except Exc (EmbeddingResult × List EmbeddingResult) × EmbeddingSystem :=
  let key := (setup.config.modelKey, setup.normalizeQuery call.text)
  match system.cache.get (clock 0) key with
  | (some query, cache) =>
    (compare system query tenantId knowledgeBaseId, { system with cache := cache })
  | (none, cache) =>
    match setup.config.embedText setup.hash (system.breakers service) call with
    | (.error x, breaker) =>
      (.error x, setBreaker { system with cache := cache } service breaker)
    | (.ok query, breaker) =>
      (compare system query tenantId knowledgeBaseId,
        setBreaker { system with cache := cache.set (clock 1) key query } service breaker)

def step : EmbeddingStep → Option (EmbeddingResult × List EmbeddingResult) × EmbeddingSystem
  | .write service tenantId knowledgeBaseId documentId calls =>
    (none, setup.write system service tenantId knowledgeBaseId documentId calls)
  | .search service tenantId knowledgeBaseId call =>
    if setup.schemaReady then
      let searched := setup.search system service tenantId knowledgeBaseId call
      (searched.1.toOption, searched.2)
    else (none, system)
  | .cachedSearch service tenantId knowledgeBaseId call clock =>
    if setup.schemaReady then
      let searched := setup.cachedSearch system service tenantId knowledgeBaseId call clock
      (searched.1.toOption, searched.2)
    else (none, system)
  | .delete documentId =>
    (none, { system with rows := system.rows.filter fun row => row.documentId != documentId })
  | .clearCaches => (none, { system with cache := system.cache.clear })

def OneSpace (found : Option (EmbeddingResult × List EmbeddingResult)) : Prop :=
  ∀ query compared, found = some (query, compared) →
    ∀ embedding ∈ compared,
      embedding.mode = query.mode ∧ embedding.dimensions = query.dimensions

def ComparesOneSpace (s : EmbeddingStep) : Prop := OneSpace (setup.step system s).1

def Steady : EmbeddingStep → Prop
  | .write service _ _ _ calls =>
    setup.config.AllLetThrough setup.hash (system.breakers service) calls
  | .search service _ _ call => setup.config.LetThrough (system.breakers service) call
  | .cachedSearch service _ _ call clock =>
    (system.cache.get (clock 0)
      (setup.config.modelKey, setup.normalizeQuery call.text)).1 = none →
        setup.config.LetThrough (system.breakers service) call
  | _ => True

def ComparesOneSpaceAlong (system : EmbeddingSystem) : List EmbeddingStep → Prop
  | [] => True
  | s :: steps =>
    setup.ComparesOneSpace system s ∧ ComparesOneSpaceAlong (setup.step system s).2 steps

def SteadyAlong (system : EmbeddingSystem) : List EmbeddingStep → Prop
  | [] => True
  | s :: steps => setup.Steady system s ∧ SteadyAlong (setup.step system s).2 steps

structure Uniform (system : EmbeddingSystem) : Prop where
  rows : ∀ row ∈ system.rows, ∀ embedding ∈ row.embedding, setup.config.Native embedding
  cache : system.cache.Holds fun _ embedding => setup.config.Native embedding

variable {setup} {system}

theorem oneSpace_none : OneSpace none := by
  intro query compared found
  cases found

theorem uniform_empty : setup.Uniform emptySystem where
  rows := fun _ mem => nomatch mem
  cache := fun _ mem => nomatch mem

section

variable (uniform : setup.Uniform system)

include uniform

theorem Uniform.setBreaker (service : Nat)
    (breaker : EmbeddingBreaker) : setup.Uniform (setBreaker system service breaker) :=
  ⟨uniform.rows, uniform.cache⟩

theorem Uniform.filter (kept : EmbeddedChunk → Bool) :
    setup.Uniform { system with rows := system.rows.filter kept } :=
  ⟨fun row mem => uniform.rows row (List.mem_of_mem_filter mem), uniform.cache⟩

theorem Uniform.replaceRows {documentId : UUID}
    {rows : List EmbeddedChunk}
    (native : ∀ row ∈ rows, ∀ embedding ∈ row.embedding, setup.config.Native embedding) :
    setup.Uniform (replaceRows system documentId rows) := by
  refine ⟨fun row mem => ?_, uniform.cache⟩
  rcases List.mem_append.mp mem with old | new
  · exact uniform.rows row (List.mem_of_mem_filter old)
  · exact native row new

omit uniform in
theorem native_of_writtenRows {tenantId knowledgeBaseId documentId : UUID}
    {calls : List EmbedCall} {embeddings : List (Option EmbeddingResult)}
    (native : ∀ answer ∈ embeddings, ∀ embedding ∈ answer, setup.config.Native embedding) :
    ∀ row ∈ writtenRows tenantId knowledgeBaseId documentId calls embeddings,
      ∀ embedding ∈ row.embedding, setup.config.Native embedding := by
  intro row mem embedding own
  obtain ⟨index, inside, made⟩ := List.mem_mapIdx.mp mem
  subst made
  exact native _ (List.of_mem_zip (List.getElem_mem inside)).2 embedding own

theorem Uniform.write {service : Nat}
    {tenantId knowledgeBaseId documentId : UUID} {calls : List EmbedCall}
    (through : setup.config.AllLetThrough setup.hash (system.breakers service) calls) :
    setup.Uniform (setup.write system service tenantId knowledgeBaseId documentId calls) := by
  rw [EmbeddingSetup.write]
  split
  · cases embedded : setup.config.embedAll setup.hash (system.breakers service) calls with
    | mk answer breaker =>
      cases answer with
      | error x => exact uniform.setBreaker service breaker
      | ok embeddings =>
        dsimp only
        split
        · refine (uniform.setBreaker service breaker).replaceRows (native_of_writtenRows ?_)
          intro answer mem embedding own
          obtain ⟨e, found, same⟩ := List.mem_map.mp mem
          rw [← same] at own
          cases own
          exact EmbeddingConfig.native_of_allLetThrough through (congrArg Prod.fst embedded)
            embedding found
        · exact uniform.setBreaker service breaker
  · refine uniform.replaceRows (native_of_writtenRows ?_)
    intro answer mem embedding own
    obtain ⟨_, _, same⟩ := List.mem_map.mp mem
    rw [← same] at own
    cases own

theorem Uniform.compare {query : EmbeddingResult}
    (native : setup.config.Native query) (tenantId knowledgeBaseId : UUID) :
    OneSpace (compare system query tenantId knowledgeBaseId).toOption := by
  rw [EmbeddingSetup.compare]
  split
  · rename_i sized
    intro answer compared answered embedding mem
    cases answered
    obtain ⟨row, kept, own⟩ := List.mem_filterMap.mp mem
    have stored := uniform.rows row (List.mem_of_mem_filter kept) embedding own
    have size : embedding.vector.length = query.vector.length :=
      beq_iff_eq.mp (List.all_eq_true.mp sized embedding mem)
    refine ⟨stored.mode.trans native.mode.symm, ?_⟩
    rw [stored.dimensions, native.dimensions, size]
  · exact oneSpace_none

theorem Uniform.search {service : Nat}
    {tenantId knowledgeBaseId : UUID} {call : EmbedCall}
    (through : setup.config.LetThrough (system.breakers service) call) :
    OneSpace (setup.search system service tenantId knowledgeBaseId call).1.toOption ∧
      setup.Uniform (setup.search system service tenantId knowledgeBaseId call).2 := by
  rw [EmbeddingSetup.search]
  cases embedded : setup.config.embedText setup.hash (system.breakers service) call with
  | mk answer breaker =>
    cases answer with
    | error x => exact ⟨oneSpace_none, uniform.setBreaker service breaker⟩
    | ok query =>
      have native := EmbeddingConfig.native_of_letThrough through (congrArg Prod.fst embedded)
      exact ⟨uniform.compare native tenantId knowledgeBaseId,
        uniform.setBreaker service breaker⟩

theorem Uniform.cachedSearch {service : Nat}
    {tenantId knowledgeBaseId : UUID} {call : EmbedCall} {clock : Nat → ℚ}
    (through : (system.cache.get (clock 0)
      (setup.config.modelKey, setup.normalizeQuery call.text)).1 = none →
        setup.config.LetThrough (system.breakers service) call) :
    OneSpace (setup.cachedSearch system service tenantId knowledgeBaseId call clock).1.toOption ∧
      setup.Uniform (setup.cachedSearch system service tenantId knowledgeBaseId call clock).2 := by
  have hit : ∀ query, (system.cache.get (clock 0)
      (setup.config.modelKey, setup.normalizeQuery call.text)).1 = some query →
        setup.config.Native query := fun query found => uniform.cache.of_get found
  have kept := @TtlCache.Holds.get _ _ _ _ _ _ _ _ (clock 0)
    (setup.config.modelKey, setup.normalizeQuery call.text) uniform.cache
  simp only [EmbeddingSetup.cachedSearch]
  cases looked : system.cache.get (clock 0)
      (setup.config.modelKey, setup.normalizeQuery call.text) with
  | mk answer cache =>
    rw [looked] at hit kept through
    cases answer with
    | some query =>
      exact ⟨uniform.compare (hit query rfl) tenantId knowledgeBaseId, uniform.rows, kept⟩
    | none =>
      cases embedded : setup.config.embedText setup.hash (system.breakers service) call with
      | mk answer breaker =>
        cases answer with
        | error x => exact ⟨oneSpace_none, uniform.rows, kept⟩
        | ok query =>
          have native := EmbeddingConfig.native_of_letThrough (through rfl)
            (congrArg Prod.fst embedded)
          exact ⟨uniform.compare native tenantId knowledgeBaseId, uniform.rows,
            kept.set native⟩

theorem step_spec {s : EmbeddingStep}
    (steady : setup.Steady system s) :
    setup.ComparesOneSpace system s ∧ setup.Uniform (setup.step system s).2 := by
  cases s with
  | write service tenantId knowledgeBaseId documentId calls =>
    exact ⟨oneSpace_none, uniform.write steady⟩
  | search service tenantId knowledgeBaseId call =>
    obtain ⟨compares, stays⟩ := @Uniform.search _ _ uniform service tenantId knowledgeBaseId call
      steady
    rw [ComparesOneSpace, step]
    split
    · exact ⟨compares, stays⟩
    · exact ⟨oneSpace_none, uniform⟩
  | cachedSearch service tenantId knowledgeBaseId call clock =>
    obtain ⟨compares, stays⟩ := @Uniform.cachedSearch _ _ uniform service tenantId
      knowledgeBaseId call clock steady
    rw [ComparesOneSpace, step]
    split
    · exact ⟨compares, stays⟩
    · exact ⟨oneSpace_none, uniform⟩
  | delete documentId => exact ⟨oneSpace_none, uniform.filter _⟩
  | clearCaches =>
    exact ⟨oneSpace_none, uniform.rows, TtlCache.holds_clear⟩

end

def developmentSetup : EmbeddingSetup where
  hash := ⟨fun dimensions _ => List.replicate dimensions 0, fun _ _ => List.length_replicate⟩
  config := .gateway
    { baseUrl := "http://embeddings"
      apiKey := "key"
      modelKey := "embed"
      requestedDimensions := 1536
      maxRetries := 0
      breaker := some { failureThreshold := 1, resetTimeoutSeconds := 60 }
      development := true }
  normalizeQuery := id

def callWith (outcome : PostOutcome) : EmbedCall where
  text := "price"
  askedAt := 0
  failedAt := 0
  attempts _ := outcome

def writePrice : EmbeddingStep :=
  .write 0 1 2 3 [callWith (.answers (List.replicate 1536 0))]

end EmbeddingSetup
end AgentHive.Rag
