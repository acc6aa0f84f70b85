import AgentHive.Llm.Policy

/-!
Validation and normalization of a model policy before it is stored.
-/

namespace AgentHive

structure LLMPolicyUpsertRequest where
  name : String
  description : Option String := none
  effect : PolicyEffect := .allow
  allowedModels : List String := []
  allowedRoutingKeys : List String := []
  defaultModelKey : Option String := none
  defaultRoutingKey : Option String := none
  maxTokens : Option Int := none
deriving DecidableEq

namespace PolicyValidation

def maxModelPolicyListItems : Nat := 100

/-- The characters `str.strip` removes. -/
def isSpace (c : Char) : Bool :=
  let n := c.toNat
  (0x09 ≤ n && n ≤ 0x0D) || (0x1C ≤ n && n ≤ 0x20) || n == 0x85 || n == 0xA0 ||
    n == 0x1680 || (0x2000 ≤ n && n ≤ 0x200A) || n == 0x2028 || n == 0x2029 ||
    n == 0x202F || n == 0x205F || n == 0x3000

def strip (s : String) : String :=
  String.ofList ((s.toList.dropWhile isSpace).reverse.dropWhile isSpace).reverse

def isPolicyKey (s : String) : Bool :=
  match s.toList with
  | [] => false
  | c :: rest =>
    c.isAlphanum && rest.length ≤ 119 &&
      rest.all fun c => c.isAlphanum || "._:/@+-".toList.contains c

def unprocessable (detail : String) : Exc := .http 422 (.text detail)

def normalizePolicyKey (value : Option String) (fieldName : String) (required : Bool) :
    Except Exc (Option String) :=
  match value with
  | none => if required then .error (unprocessable (fieldName ++ " is required.")) else .ok none
  | some value =>
    let normalized := strip value
    if normalized = "" then
      if required then .error (unprocessable (fieldName ++ " cannot be empty."))
      else .ok none
    else if !isPolicyKey normalized then
      .error (unprocessable (fieldName ++ " contains an invalid model or routing key. " ++
        "Use letters, numbers, '.', '_', '-', '/', ':', '@', or '+'."))
    else .ok (some normalized)

/-- `if normalized and normalized not in result: result.append(normalized)`. -/
def appendNew (result : List String) : Option String → List String
  | some key => if result.contains key then result else result ++ [key]
  | none => result

/-- The loop of `normalize_policy_key_list`, with the keys kept so far. -/
def normalizeKeys (fieldName : String) : List String → List String → Except Exc (List String)
  | result, [] => .ok result
  | result, value :: rest => do
    let normalized ← normalizePolicyKey (some value) fieldName false
    normalizeKeys fieldName (appendNew result normalized) rest

def normalizePolicyKeyList (values : List String) (fieldName : String) : Except Exc (List String) :=
  if values.length > maxModelPolicyListItems then
    .error (unprocessable (fieldName ++ " cannot contain more than 100 items."))
  else normalizeKeys fieldName [] values

def checkPayload (payload : LLMPolicyUpsertRequest) : Except Exc LLMPolicyUpsertRequest :=
  if payload.effect == .allow && payload.allowedModels.isEmpty &&
      payload.allowedRoutingKeys.isEmpty && payload.defaultModelKey == none &&
      payload.defaultRoutingKey == none then
    .error (unprocessable "Allow model policies must specify at least one model, routing key, or default route.")
  else if truthy payload.defaultModelKey &&
      !isIn payload.defaultModelKey payload.allowedModels then
    .error (unprocessable "default_model_key must be included in allowed_models.")
  else if truthy payload.defaultRoutingKey &&
      !isIn payload.defaultRoutingKey payload.allowedRoutingKeys then
    .error (unprocessable "default_routing_key must be included in allowed_routing_keys.")
  else .ok payload

def normalizeAndValidatePolicyPayload (payload : LLMPolicyUpsertRequest) :
    Except Exc LLMPolicyUpsertRequest := do
  let name := strip payload.name
  if name = "" then .error (unprocessable "Model policy name cannot be empty.")
  else
    let description := if truthy payload.description then payload.description.map strip else none
    let allowedModels ← normalizePolicyKeyList payload.allowedModels "allowed_models"
    let allowedRoutingKeys ←
      normalizePolicyKeyList payload.allowedRoutingKeys "allowed_routing_keys"
    let defaultModelKey ← normalizePolicyKey payload.defaultModelKey "default_model_key" false
    let defaultRoutingKey ←
      normalizePolicyKey payload.defaultRoutingKey "default_routing_key" false
    checkPayload { payload with
      name, description, allowedModels, allowedRoutingKeys, defaultModelKey, defaultRoutingKey }

def Validated (policy : ModelPolicyRule) : Prop :=
  ∃ payload saved, normalizeAndValidatePolicyPayload payload = .ok saved ∧
    policy.effect = saved.effect ∧ policy.allowedModels = saved.allowedModels ∧
    policy.allowedRoutingKeys = saved.allowedRoutingKeys ∧
    policy.defaultModelKey = saved.defaultModelKey ∧
    policy.defaultRoutingKey = saved.defaultRoutingKey

theorem checkPayload_ok {payload saved : LLMPolicyUpsertRequest}
    (h : checkPayload payload = .ok saved) :
    saved = payload ∧
      (truthy payload.defaultModelKey = true →
        isIn payload.defaultModelKey payload.allowedModels = true) ∧
      (truthy payload.defaultRoutingKey = true →
        isIn payload.defaultRoutingKey payload.allowedRoutingKeys = true) := by
  simp only [checkPayload] at h
  split at h
  · cases h
  · split at h
    · cases h
    · rename_i model
      split at h
      · cases h
      · rename_i routing
        cases h
        refine ⟨rfl, ?_, ?_⟩
        · intro given
          simpa [given] using model
        · intro given
          simpa [given] using routing

theorem normalizeAndValidate_checked {payload saved : LLMPolicyUpsertRequest}
    (h : normalizeAndValidatePolicyPayload payload = .ok saved) :
    checkPayload saved = .ok saved := by
  have last : ∃ normalized, checkPayload normalized = .ok saved := by
    simp only [normalizeAndValidatePolicyPayload, bind, Except.bind] at h
    split at h
    · cases h
    · repeat' split at h
      all_goals first | cases h | exact ⟨_, h⟩
  obtain ⟨normalized, checked⟩ := last
  obtain ⟨rfl, _⟩ := checkPayload_ok checked
  exact checked

theorem Validated.default_listed {policy : ModelPolicyRule} (h : Validated policy) :
    (truthy policy.defaultModelKey = true →
        isIn policy.defaultModelKey policy.allowedModels = true) ∧
      (truthy policy.defaultRoutingKey = true →
        isIn policy.defaultRoutingKey policy.allowedRoutingKeys = true) := by
  obtain ⟨payload, saved, ok, _, models, routes, model, route⟩ := h
  obtain ⟨_, checked⟩ := checkPayload_ok (normalizeAndValidate_checked ok)
  rw [models, routes, model, route]
  exact checked

end PolicyValidation
end AgentHive
