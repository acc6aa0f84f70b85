import AgentHive.Process.Fallible
import AgentHive.Rag.Schemas

/-!
The router of retrieval: RAGFlow first, and the vector store where the call of RAGFlow
failed.
-/

namespace AgentHive.Rag

inductive TransportError
  | connectError
  | connectTimeout
  | readTimeout
  | poolTimeout
  | remoteProtocolError
  | other (className : String)
deriving DecidableEq

def TransportError.className : TransportError → String
  | .connectError => "ConnectError"
  | .connectTimeout => "ConnectTimeout"
  | .readTimeout => "ReadTimeout"
  | .poolTimeout => "PoolTimeout"
  | .remoteProtocolError => "RemoteProtocolError"
  | .other className => className

inductive HttpError
  | transport (error : TransportError) (message : String)
  | status (code : Nat) (message : String)
deriving DecidableEq

def HttpError.className : HttpError → String
  | .transport error _ => error.className
  | .status .. => "HTTPStatusError"

def HttpError.message : HttpError → String
  | .transport _ message | .status _ message => message

def isRetryable : HttpError → Bool
  | .transport (.other _) _ => false
  | .transport .. => true
  | .status code _ => 500 ≤ code

inductive Attempt
  | fails (error : TransportError) (message : String)
  | responds (statusCode : Nat) (body : Except Exc Json)

inductive Raised
  | http (error : HttpError)
  | exception (x : Exc)
deriving DecidableEq

structure RagflowConfig where
  baseUrl : String
  maxRetries : Int := 2

namespace Ragflow

/-- `response.raise_for_status()` passes. -/
def isSuccess (statusCode : Nat) : Bool := 200 ≤ statusCode && statusCode < 300

def toDict : Json → JsonDict
  | .obj entries => entries
  | value => [("data", value)]

/-- One turn of the loop of `_post_json`. -/
def attemptOnce (message : Nat → String) : Attempt → Except Raised JsonDict
  | .fails error text => .error (.http (.transport error text))
  | .responds statusCode body =>
    if isSuccess statusCode then
      match body with
      | .ok value => .ok (toDict value)
      | .error x => .error (.exception x)
    else .error (.http (.status statusCode (message statusCode)))

/-- `_post_json` from an attempt on, with so many attempts after it. -/
def postFrom (message : Nat → String) (endpoint : Nat → Attempt) (attempt : Nat) :
    Nat → Except Raised JsonDict
  | 0 => attemptOnce message (endpoint attempt)
  | remaining + 1 =>
    match attemptOnce message (endpoint attempt) with
    | .error (.http error) =>
      if isRetryable error then postFrom message endpoint (attempt + 1) remaining
      else .error (.http error)
    | answer => answer

/-- `_post_json`. Without a single attempt the assertion at its end fails. -/
def postJson (config : RagflowConfig) (message : Nat → String) (endpoint : Nat → Attempt) :
    Except Raised JsonDict :=
  if config.maxRetries < 0 then .error (.exception (.other "AssertionError" ""))
  else postFrom message endpoint 0 config.maxRetries.toNat

/-- `_list_path` for the paths that are asked for. -/
def listPath (data : JsonDict) : List String → List Json
  | [] => []
  | [key] =>
    match data.get key with
    | .arr items => items
    | _ => []
  | key :: keys =>
    match data.get key with
    | .obj entries => listPath entries keys
    | _ => []

def rawChunks (data : JsonDict) : List Json :=
  if listPath data ["chunks"] ≠ [] then listPath data ["chunks"]
  else if listPath data ["results"] ≠ [] then listPath data ["results"]
  else listPath data ["data", "chunks"]

section Chunks

variable (lib : TextLibrary)

def floatOrNone (value : Json) : Option PyFloat :=
  if value.isNull then none else lib.floatOf (lib.str value)

def uuidOrNone (value : Json) : Option UUID :=
  if value.isNull then none else lib.uuidOf (lib.str value)

def stringOrNone (value : Json) : Option String :=
  if value.isNull then none else some (lib.str value)

def textOr (value : Json) : String := if value.truthy then lib.str value else ""

def metadataOf : Json → JsonDict
  | .obj entries => entries
  | _ => []

/-- `_chunk_from_response`. A score below zero is refused by the class of chunks. -/
def chunkFromResponse (item : JsonDict) : Except Exc (Option RAGChunk) :=
  let text := item.firstOf ["text", "content", "chunk", "answer"]
  let score := floatOrNone lib (item.firstOf ["score", "similarity"])
  if text.isNull then .ok none
  else if valid : ∀ value ∈ score, value.isNegative = false then
    .ok (some
      { chunkId := textOr lib (item.firstOf ["chunk_id", "id", "chunkId"])
        documentId := uuidOrNone lib (item.firstOf ["document_id", "doc_id", "documentId"])
        text := lib.str text
        score := score
        sourceName := stringOrNone lib (item.firstOf ["source_name", "source", "filename"])
        metadata := (metadataOf (item.get "metadata")).set "ragflow_raw_keys" item.sortedKeys
        score_nonneg := valid })
  else .error (.other "ValidationError" "")

def chunksOf (data : JsonDict) : Except Exc (List RAGChunk) := do
  let chunks ← (rawChunks data).mapM fun
    | .obj item => chunkFromResponse lib item
    | _ => .ok none
  .ok (chunks.filterMap id)

def retrieve (config : RagflowConfig) (message : Nat → String) (elapsedMs : Nat)
    (endpoint : Nat → Attempt) (request : RetrieveRequest) : Except Exc RetrieveResult :=
  if config.baseUrl = "" then
    .ok
      { chunks := []
        engine := .ragflow
        elapsedMs := 0
        diagnostics := [("ragflow_url_configured", .bool false),
          ("message", .str "RAGFlow URL is not configured.")] }
  else
    match postJson config message endpoint with
    | .error (.exception x) => .error x
    | .error (.http error) =>
      .ok
        { chunks := []
          engine := .ragflow
          elapsedMs := elapsedMs
          diagnostics := [("ragflow_url_configured", .bool true),
            ("error", .str (error.className ++ ": " ++ error.message)),
            ("retries_exhausted", .bool true)] }
    | .ok data => do
      let chunks ← chunksOf lib data
      .ok
        { chunks := chunks.take request.topK
          engine := .ragflow
          elapsedMs := elapsedMs
          diagnostics := [("ragflow_url_configured", .bool true),
            ("candidate_count", .num (rawChunks data).length),
            ("response_keys", data.sortedKeys)] }

end Chunks

end Ragflow

def isRagflowFailure (result : RetrieveResult) : Bool :=
  result.chunks.isEmpty &&
    ((JsonDict.get result.diagnostics "error").truthy ||
      (JsonDict.get result.diagnostics "retries_exhausted").truthy ||
      match JsonDict.get result.diagnostics "ragflow_url_configured" with
      | .bool false => true
      | _ => false)

def searchRequest (request : RetrieveRequest) : VectorSearchRequest where
  tenantId := request.tenantId
  knowledgeBaseId := request.knowledgeBaseId
  query := request.query
  topK := request.topK
  filters := request.filters

def fallbackToPgvector (search : VectorSearchRequest → Except Exc RetrieveResult)
    (request : RetrieveRequest) (ragflowResult : RetrieveResult) : Except Exc RetrieveResult :=
  match search (searchRequest request) with
  | .ok fallback =>
    .ok { fallback with
      diagnostics := JsonDict.merge fallback.diagnostics
        [("ragflow_failure", .obj ragflowResult.diagnostics),
          ("pgvector_fallback_used", .bool true)] }
  | .error x =>
    if x.isException then
      .ok
        { chunks := []
          engine := .ragflow
          elapsedMs := ragflowResult.elapsedMs
          diagnostics := JsonDict.merge ragflowResult.diagnostics
            [("pgvector_fallback_attempted", .bool true),
              ("pgvector_fallback_error", .str x.className)] }
    else .error x

/-- `RAGRouter.retrieve`, over what the RAGFlow adapter answers. -/
def routeRetrieve (ragflow : RetrieveRequest → Except Exc RetrieveResult)
    (search : VectorSearchRequest → Except Exc RetrieveResult) (fallbackToPgvectorEnabled : Bool)
    (request : RetrieveRequest) : RAGEngineType → Except Exc RetrieveResult
  | .ragflow => do
    let result ← ragflow request
    if fallbackToPgvectorEnabled && isRagflowFailure result then
      fallbackToPgvector search request result
    else .ok result
  | .pgvector => search (searchRequest request)

namespace Ragflow

def transient : Attempt → Bool
  | .fails error message => isRetryable (.transport error message)
  | .responds statusCode _ => 500 ≤ statusCode

def finalFrom (endpoint : Nat → Attempt) (attempt : Nat) : Nat → Attempt
  | 0 => endpoint attempt
  | remaining + 1 =>
    if transient (endpoint attempt) then finalFrom endpoint (attempt + 1) remaining
    else endpoint attempt

def finalAttempt (config : RagflowConfig) (endpoint : Nat → Attempt) : Option Attempt :=
  if config.maxRetries < 0 then none else some (finalFrom endpoint 0 config.maxRetries.toNat)

variable {lib : TextLibrary} {message : Nat → String} {endpoint : Nat → Attempt}

theorem attemptOnce_of_transient {attempt : Attempt} (passing : transient attempt) :
    ∃ error, attemptOnce message attempt = .error (.http error) ∧ isRetryable error := by
  cases attempt with
  | fails error text => exact ⟨_, rfl, passing⟩
  | responds statusCode body =>
    have server : 500 ≤ statusCode := of_decide_eq_true passing
    have unsuccessful : isSuccess statusCode = false := by
      simp only [isSuccess, Bool.and_eq_false_iff, decide_eq_false_iff_not]
      omega
    refine ⟨.status statusCode (message statusCode), ?_, passing⟩
    simp only [attemptOnce, unsuccessful, Bool.false_eq_true, if_false]

theorem not_retryable_of_attemptOnce {attempt : Attempt} {error : HttpError}
    (lasting : transient attempt = false)
    (failed : attemptOnce message attempt = .error (.http error)) : isRetryable error = false := by
  cases attempt with
  | fails kind text =>
    cases failed
    exact lasting
  | responds statusCode body =>
    simp only [attemptOnce] at failed
    split at failed
    · split at failed
      · cases failed
      · cases failed
    · cases failed
      exact lasting

theorem postFrom_eq (attempt remaining : Nat) :
    postFrom message endpoint attempt remaining =
      attemptOnce message (finalFrom endpoint attempt remaining) := by
  induction remaining generalizing attempt with
  | zero => rfl
  | succ remaining ih =>
    rw [postFrom, finalFrom]
    cases passing : transient (endpoint attempt) with
    | true =>
      obtain ⟨error, failed, retryable⟩ := @attemptOnce_of_transient message _ passing
      rw [failed, if_pos rfl]
      simp only [retryable, if_true, ih]
    | false =>
      rw [if_neg Bool.false_ne_true]
      split
      · rename_i error failed
        rw [not_retryable_of_attemptOnce passing failed, failed]
        rfl
      · rfl

def UnusableBody (lib : TextLibrary) (body : Except Exc Json) : Prop :=
  ∀ value, body = .ok value → ∃ x, chunksOf lib (toDict value) = .error x

def CallFailed (lib : TextLibrary) (config : RagflowConfig) (endpoint : Nat → Attempt) : Prop :=
  config.baseUrl = "" ∨
    ∀ statusCode body, finalAttempt config endpoint = some (.responds statusCode body) →
      isSuccess statusCode = false ∨ UnusableBody lib body

def AnsweredChunks (lib : TextLibrary) (config : RagflowConfig) (endpoint : Nat → Attempt)
    (chunks : List RAGChunk) : Prop :=
  ∃ statusCode value, finalAttempt config endpoint = some (.responds statusCode (.ok value)) ∧
    chunksOf lib (toDict value) = .ok chunks

/-- The failure is one that the adapter does not look for: no attempt is made, or an answer
that is a success cannot be used. -/
def Unforeseen (lib : TextLibrary) (config : RagflowConfig) (endpoint : Nat → Attempt) : Prop :=
  config.baseUrl ≠ "" ∧
    ∀ attempt, finalAttempt config endpoint = some attempt →
      ∃ statusCode body, attempt = .responds statusCode body ∧ isSuccess statusCode ∧
        UnusableBody lib body

inductive Outcome (lib : TextLibrary) (config : RagflowConfig) (endpoint : Nat → Attempt)
    (request : RetrieveRequest) : Except Exc RetrieveResult → Prop
  | failed {result : RetrieveResult} (call : CallFailed lib config endpoint)
      (foreseen : ¬ Unforeseen lib config endpoint) (told : isRagflowFailure result) :
      Outcome lib config endpoint request (.ok result)
  | raised {x : Exc} (call : CallFailed lib config endpoint)
      (unforeseen : Unforeseen lib config endpoint) : Outcome lib config endpoint request (.error x)
  | answered {result : RetrieveResult} {chunks : List RAGChunk}
      (call : ¬ CallFailed lib config endpoint) (foreseen : ¬ Unforeseen lib config endpoint)
      (answer : AnsweredChunks lib config endpoint chunks)
      (made : result.chunks = chunks.take request.topK) (engine : result.engine = .ragflow)
      (told : isRagflowFailure result = false) :
      Outcome lib config endpoint request (.ok result)

theorem isRagflowFailure_unconfigured (elapsedMs : Nat) :
    isRagflowFailure
      { chunks := []
        engine := .ragflow
        elapsedMs := elapsedMs
        diagnostics := [("ragflow_url_configured", .bool false),
          ("message", .str "RAGFlow URL is not configured.")] } = true := by
  simp [isRagflowFailure, JsonDict.get, List.lookup_cons]

theorem isRagflowFailure_of_error (elapsedMs : Nat) (error : String) :
    isRagflowFailure
      { chunks := []
        engine := .ragflow
        elapsedMs := elapsedMs
        diagnostics := [("ragflow_url_configured", .bool true), ("error", .str error),
          ("retries_exhausted", .bool true)] } = true := by
  simp [isRagflowFailure, JsonDict.get, List.lookup_cons, Json.truthy]

theorem isRagflowFailure_of_answer (elapsedMs : Nat) (chunks : List RAGChunk) (count : ℚ)
    (keys : Json) :
    isRagflowFailure
      { chunks := chunks
        engine := .ragflow
        elapsedMs := elapsedMs
        diagnostics := [("ragflow_url_configured", .bool true), ("candidate_count", .num count),
          ("response_keys", keys)] } = false := by
  simp [isRagflowFailure, JsonDict.get, List.lookup_cons, Json.truthy]

section Outcome

variable {config : RagflowConfig} {request : RetrieveRequest} {elapsedMs : Nat}

theorem retrieve_of_failed {error : HttpError} (configured : config.baseUrl ≠ "")
    (posted : postJson config message endpoint = .error (.http error)) :
    ∃ result, retrieve lib config message elapsedMs endpoint request = .ok result ∧
      isRagflowFailure result := by
  rw [retrieve, if_neg configured, posted]
  exact ⟨_, rfl, isRagflowFailure_of_error elapsedMs _⟩

theorem retrieve_of_raised {x : Exc} (configured : config.baseUrl ≠ "")
    (posted : postJson config message endpoint = .error (.exception x)) :
    retrieve lib config message elapsedMs endpoint request = .error x := by
  rw [retrieve, if_neg configured, posted]

theorem retrieve_of_refused {data : JsonDict} {x : Exc} (configured : config.baseUrl ≠ "")
    (posted : postJson config message endpoint = .ok data)
    (refused : chunksOf lib data = .error x) :
    retrieve lib config message elapsedMs endpoint request = .error x := by
  rw [retrieve, if_neg configured, posted]
  simp only [refused]
  rfl

theorem retrieve_of_answered {data : JsonDict} {chunks : List RAGChunk}
    (configured : config.baseUrl ≠ "") (posted : postJson config message endpoint = .ok data)
    (made : chunksOf lib data = .ok chunks) :
    ∃ result, retrieve lib config message elapsedMs endpoint request = .ok result ∧
      result.chunks = chunks.take request.topK ∧ result.engine = .ragflow ∧
      isRagflowFailure result = false := by
  rw [retrieve, if_neg configured, posted]
  simp only [made]
  exact ⟨_, rfl, rfl, rfl, isRagflowFailure_of_answer elapsedMs _ _ _⟩

theorem postJson_eq (attempts : ¬ config.maxRetries < 0) :
    postJson config message endpoint =
      attemptOnce message (finalFrom endpoint 0 config.maxRetries.toNat) := by
  rw [postJson, if_neg attempts, postFrom_eq]

theorem foreseen_of_final {attempt : Attempt} (final : finalAttempt config endpoint = some attempt)
    (other : ∀ statusCode body, attempt = .responds statusCode body →
      isSuccess statusCode = false) :
    CallFailed lib config endpoint ∧ ¬ Unforeseen lib config endpoint := by
  constructor
  · refine .inr fun statusCode body found => .inl ?_
    rw [final] at found
    exact other statusCode body (Option.some.inj found)
  · intro ⟨_, unforeseen⟩
    obtain ⟨statusCode, body, responds, success, _⟩ := unforeseen attempt final
    rw [other statusCode body responds] at success
    cases success

theorem unforeseen_of_final {statusCode : Nat} {body : Except Exc Json}
    (configured : config.baseUrl ≠ "")
    (final : finalAttempt config endpoint = some (.responds statusCode body))
    (success : isSuccess statusCode) (unusable : UnusableBody lib body) :
    CallFailed lib config endpoint ∧ Unforeseen lib config endpoint := by
  constructor
  · refine .inr fun other body' found => .inr ?_
    rw [final] at found
    cases found
    exact unusable
  · refine ⟨configured, fun attempt found => ?_⟩
    rw [final] at found
    cases found
    exact ⟨statusCode, body, rfl, success, unusable⟩

theorem answered_of_final {statusCode : Nat} {value : Json} {chunks : List RAGChunk}
    (configured : config.baseUrl ≠ "")
    (final : finalAttempt config endpoint = some (.responds statusCode (.ok value)))
    (success : isSuccess statusCode) (made : chunksOf lib (toDict value) = .ok chunks) :
    ¬ CallFailed lib config endpoint ∧ ¬ Unforeseen lib config endpoint ∧
      AnsweredChunks lib config endpoint chunks := by
  have usable : ¬ UnusableBody lib (.ok value) := by
    intro unusable
    obtain ⟨x, refused⟩ := unusable value rfl
    rw [made] at refused
    cases refused
  refine ⟨?_, ?_, statusCode, value, final, made⟩
  · intro failed
    rcases failed with unconfigured | failed
    · exact configured unconfigured
    · rcases failed statusCode (.ok value) final with unsuccessful | unusable
      · rw [success] at unsuccessful
        cases unsuccessful
      · exact usable unusable
  · intro ⟨_, unforeseen⟩
    obtain ⟨_, _, responds, _, unusable⟩ := unforeseen _ final
    cases responds
    exact usable unusable

theorem retrieve_outcome (config : RagflowConfig) (elapsedMs : Nat) (request : RetrieveRequest) :
    Outcome lib config endpoint request
      (retrieve lib config message elapsedMs endpoint request) := by
  by_cases unconfigured : config.baseUrl = ""
  · rw [retrieve, if_pos unconfigured]
    exact .failed (.inl unconfigured) (fun unforeseen => unforeseen.1 unconfigured)
      (isRagflowFailure_unconfigured 0)
  by_cases noAttempt : config.maxRetries < 0
  · have final : finalAttempt config endpoint = none := if_pos noAttempt
    rw [retrieve_of_raised unconfigured (if_pos noAttempt)]
    refine .raised (.inr fun _ _ found => ?_) ⟨unconfigured, fun _ found => ?_⟩
    · rw [final] at found
      cases found
    · rw [final] at found
      cases found
  have final : finalAttempt config endpoint =
    some (finalFrom endpoint 0 config.maxRetries.toNat) := if_neg noAttempt
  have posted : postJson config message endpoint =
    attemptOnce message (finalFrom endpoint 0 config.maxRetries.toNat) := postJson_eq noAttempt
  generalize finalFrom endpoint 0 config.maxRetries.toNat = attempt at final posted
  cases attempt with
  | fails error text =>
    obtain ⟨call, foreseen⟩ := @foreseen_of_final lib _ _ _ final (by
      intro _ _ responds
      cases responds)
    obtain ⟨result, retrieved, told⟩ := retrieve_of_failed unconfigured posted
    rw [retrieved]
    exact .failed call foreseen told
  | responds statusCode body =>
    simp only [attemptOnce] at posted
    by_cases success : isSuccess statusCode
    · rw [if_pos success] at posted
      cases body with
      | error x =>
        obtain ⟨call, unforeseen⟩ := unforeseen_of_final unconfigured final success
          (fun value decoded => nomatch decoded)
        rw [retrieve_of_raised unconfigured posted]
        exact .raised call unforeseen
      | ok value =>
        cases made : chunksOf lib (toDict value) with
        | error x =>
          obtain ⟨call, unforeseen⟩ := @unforeseen_of_final lib _ _ _ _ unconfigured final
            success (by
              intro value' decoded
              cases decoded
              exact ⟨x, made⟩)
          rw [retrieve_of_refused unconfigured posted made]
          exact .raised call unforeseen
        | ok chunks =>
          obtain ⟨call, foreseen, answer⟩ := answered_of_final unconfigured final success made
          obtain ⟨result, retrieved, taken, engine, told⟩ :=
            @retrieve_of_answered lib message endpoint config request elapsedMs _ _
              unconfigured posted made
          rw [retrieved]
          exact .answered call foreseen answer taken engine told
    · rw [if_neg success] at posted
      obtain ⟨call, foreseen⟩ := @foreseen_of_final lib _ _ _ final (by
        intro statusCode' body' responds
        cases responds
        exact Bool.eq_false_iff.mpr success)
      obtain ⟨result, retrieved, told⟩ := retrieve_of_failed unconfigured posted
      rw [retrieved]
      exact .failed call foreseen told

end Outcome

/-- A call that failed is served by the vector store, and any other with the chunks of
RAGFlow. -/
def Served (lib : TextLibrary) (config : RagflowConfig) (endpoint : Nat → Attempt)
    (search : VectorSearchRequest → RetrieveResult) (request : RetrieveRequest)
    (answer : Except Exc RetrieveResult) : Prop :=
  (CallFailed lib config endpoint →
    ∃ result, answer = .ok result ∧ result.engine = (search (searchRequest request)).engine ∧
      result.chunks = (search (searchRequest request)).chunks) ∧
  (¬ CallFailed lib config endpoint →
    ∃ result chunks, answer = .ok result ∧ AnsweredChunks lib config endpoint chunks ∧
      result.engine = .ragflow ∧ result.chunks = chunks.take request.topK)

/-- Every call is served so, just where it does not fail in a way that the adapter does not
look for. -/
theorem ragflow_outage_served_iff (lib : TextLibrary) (config : RagflowConfig)
    (message : Nat → String) (elapsedMs : Nat) (endpoint : Nat → Attempt)
    (search : VectorSearchRequest → RetrieveResult) (request : RetrieveRequest) :
    Served lib config endpoint search request
      (routeRetrieve (retrieve lib config message elapsedMs endpoint)
        (fun searched => .ok (search searched)) true request .ragflow) ↔
      ¬ Unforeseen lib config endpoint := by
  have outcome : Outcome lib config endpoint request
    (retrieve lib config message elapsedMs endpoint request) :=
      retrieve_outcome config elapsedMs request
  rw [routeRetrieve]
  generalize retrieve lib config message elapsedMs endpoint request = answer at outcome
  cases outcome with
  | failed call foreseen told =>
    refine ⟨fun _ => foreseen, fun _ => ⟨fun _ => ?_, fun answered => absurd call answered⟩⟩
    simp only [bind, Except.bind, told, Bool.and_self, if_true, fallbackToPgvector]
    exact ⟨_, rfl, rfl, rfl⟩
  | raised call unforeseen =>
    refine ⟨fun served => ?_, fun foreseen => absurd unforeseen foreseen⟩
    obtain ⟨result, answered, _⟩ := served.1 call
    cases answered
  | answered call foreseen answer made engine told =>
    refine ⟨fun _ => foreseen, fun _ => ⟨fun failed => absurd failed call, fun _ => ?_⟩⟩
    simp only [bind, Except.bind, told, Bool.and_false, Bool.false_eq_true, if_false]
    exact ⟨_, _, rfl, answer, engine, made⟩

def proxyPage : Nat → Attempt :=
  fun _ => .responds 200 (.error (.other "JSONDecodeError" ""))

theorem undecodable_answer_raised :
    ¬ ∀ (lib : TextLibrary) (config : RagflowConfig) (message : Nat → String) (elapsedMs : Nat)
      (endpoint : Nat → Attempt) (search : VectorSearchRequest → RetrieveResult)
      (request : RetrieveRequest),
      Served lib config endpoint search request
        (routeRetrieve (retrieve lib config message elapsedMs endpoint)
          (fun searched => .ok (search searched)) true request .ragflow) := by
  intro claimed
  have served := (claimed ⟨fun _ => "", fun _ => none, fun _ => none⟩ ⟨"http://ragflow", 2⟩
    (fun _ => "") 0 proxyPage (fun _ => ⟨[], .pgvector, 0, []⟩)
    { tenantId := 1, knowledgeBaseId := 2, query := "price" }).1
  have failed : CallFailed ⟨fun _ => "", fun _ => none, fun _ => none⟩ ⟨"http://ragflow", 2⟩
      proxyPage := by
    refine .inr fun statusCode body final => .inr ?_
    cases final
    intro value decoded
    cases decoded
  obtain ⟨result, answered, _⟩ := served failed
  cases answered

end Ragflow

end AgentHive.Rag
