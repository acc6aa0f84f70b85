import AgentHive.Llm.Schemas
import Mathlib.Data.List.Sort

/-!
The model policy engine: which rules match a context, which of them decides,
and what the decision fills in.
-/

namespace AgentHive

inductive PolicyEffect
  | allow
  | deny
  | other (name : String)
deriving DecidableEq

structure ModelPolicyRule where
  id : UUID
  name : String
  scopeType : ScopeType
  scopeId : Option UUID := none
  effect : PolicyEffect
  allowedModels : List String := []
  allowedRoutingKeys : List String := []
  defaultModelKey : Option String := none
  defaultRoutingKey : Option String := none
  maxTokens : Option Int := none
  priority : Int := 100
  metadata : Dict := []
deriving DecidableEq

namespace ModelPolicyEngine

def scopeRank : ScopeType → Int
  | .tenant => 10
  | .department => 20
  | .costCenter => 25
  | .channel => 30
  | .agent => 40
  | .user => 50
  | .other _ => 0

def matchesContext (policy : ModelPolicyRule) (context : LLMRequestContext)
    (costCenterId : Option UUID) : Bool :=
  match policy.scopeType with
  | .tenant => policy.scopeId == none
  | .department => policy.scopeId == context.departmentId
  | .costCenter => policy.scopeId == costCenterId
  | .user => policy.scopeId == context.userId
  | .agent => policy.scopeId == context.agentId
  | .channel => policy.scopeId == context.channelId
  | .other _ => false

/-- The order of the sort key `(-rank, priority, name)`. -/
def keyLe (p q : ModelPolicyRule) : Prop :=
  -scopeRank p.scopeType < -scopeRank q.scopeType ∨
    (-scopeRank p.scopeType = -scopeRank q.scopeType ∧
      (p.priority < q.priority ∨ (p.priority = q.priority ∧ p.name ≤ q.name)))

instance : DecidableRel keyLe := fun _ _ => inferInstanceAs (Decidable (_ ∨ _))

def matchingPolicies (policies : List ModelPolicyRule) (context : LLMRequestContext)
    (costCenterId : Option UUID) : List ModelPolicyRule :=
  (policies.filter fun policy => matchesContext policy context costCenterId).insertionSort keyLe

def policyTargetsRequest (policy : ModelPolicyRule) (request : LLMChatRequest) : Bool :=
  if policy.allowedModels.isEmpty && policy.allowedRoutingKeys.isEmpty then true
  else
    (truthy request.modelKey && isIn request.modelKey policy.allowedModels) ||
      (truthy request.routingKey && isIn request.routingKey policy.allowedRoutingKeys)

def policyAllowsRequest (policy : ModelPolicyRule) (request : LLMChatRequest) : Bool :=
  if truthy request.modelKey && !policy.allowedModels.isEmpty &&
      !isIn request.modelKey policy.allowedModels then false
  else if truthy request.routingKey && !policy.allowedRoutingKeys.isEmpty &&
      !isIn request.routingKey policy.allowedRoutingKeys then false
  else if request.modelKey == none && request.routingKey == none then
    truthy policy.defaultModelKey || truthy policy.defaultRoutingKey
  else true

def firstDeny (policies : List ModelPolicyRule) (request : LLMChatRequest) :
    Option ModelPolicyRule :=
  policies.find? fun policy => policy.effect == .deny && policyTargetsRequest policy request

def firstAllow (policies : List ModelPolicyRule) (request : LLMChatRequest) :
    Option ModelPolicyRule :=
  policies.find? fun policy => policy.effect == .allow && policyAllowsRequest policy request

def effectiveMaxTokens (requested policyLimit : Option Int) : Option Int :=
  match policyLimit, requested with
  | none, _ => requested
  | some limit, none => some limit
  | some limit, some n => some (min n limit)

def costCenterId (policies : List ModelPolicyRule) (context : LLMRequestContext)
    (resolved : Option UUID) : Option UUID :=
  if context.costCenterId.isSome then context.costCenterId
  else if policies.any fun policy => policy.scopeType == .costCenter then resolved
  else none

def allowDecision (allow : ModelPolicyRule) (request : LLMChatRequest)
    (context : LLMRequestContext) : PolicyDecision :=
  let strategy := allow.metadata.get "routing_strategy"
  { allowed := true
    reason := "model_policy_allowed:" ++ allow.name
    modelKey := pyOr request.modelKey allow.defaultModelKey
    routingKey := pyOr request.routingKey allow.defaultRoutingKey
    maxTokens := effectiveMaxTokens request.maxTokens allow.maxTokens
    metadata :=
      [("policy_id", .uuid allow.id), ("policy_scope", .str allow.scopeType.text),
        ("tenant_id", .uuid context.tenantId)] ++
      if strategy.truthy then [("routing_strategy", strategy)] else [] }

def decideMatched (matched : List ModelPolicyRule) (request : LLMChatRequest)
    (context : LLMRequestContext) : PolicyDecision :=
  match firstDeny matched request with
  | some deny =>
    { allowed := false
      reason := "model_policy_denied:" ++ deny.name
      metadata := [("policy_id", .uuid deny.id),
        ("policy_scope", .str deny.scopeType.text)] }
  | none =>
    match firstAllow matched request with
    | some allow => allowDecision allow request context
    | none =>
      if !matched.isEmpty then
        { allowed := false
          reason := "model_policy_no_matching_allow"
          metadata := [("matched_policy_ids", .uuids (matched.map (·.id))),
            ("matched_policy_scopes", .strs (matched.map fun p => p.scopeType.text)),
            ("tenant_id", .uuid context.tenantId)] }
      else if request.modelKey == none && request.routingKey == none then
        { allowed := true
          reason := "default_route"
          routingKey := some "default-chat"
          maxTokens := request.maxTokens
          metadata := [("tenant_id", .uuid context.tenantId)] }
      else
        { allowed := true
          reason := "explicit_route"
          modelKey := request.modelKey
          routingKey := request.routingKey
          maxTokens := request.maxTokens
          metadata := [("tenant_id", .uuid context.tenantId)] }

def evaluate (policies : List ModelPolicyRule) (request : LLMChatRequest)
    (context : LLMRequestContext) (resolved : Option UUID) : PolicyDecision :=
  if request.messages.isEmpty then
    { allowed := false, reason := "messages_required" }
  else
    decideMatched (matchingPolicies policies context (costCenterId policies context resolved))
      request context

end ModelPolicyEngine
end AgentHive
