import AgentHive.Services.OrgAdmin
import AgentHive.Store.Grouping
import Mathlib.Algebra.Order.Field.Rat

/-!
The totals of the usage reports beside the rows they are made of: the breakdown
by one dimension, which adds up no more groups than it lists, and the analytics
overview, whose breakdowns list them all.
-/

namespace AgentHive.UsageReports

open Grouping (groupBy leftJoin)

structure LLMUsage where
  tenantId : UUID
  userId : Option UUID := none
  departmentId : Option UUID := none
  costCenterId : Option UUID := none
  agentId : Option UUID := none
  channelId : Option UUID := none
  modelKey : String
  inputTokens : Int := 0
  outputTokens : Int := 0
  totalTokens : Int := 0
  costUsd : ℚ := 0
  status : String := "success"
  createdAt : Nat
deriving DecidableEq

structure NamedRow where
  tenantId : UUID
  name : String

structure NamedUser where
  tenantId : UUID
  fullName : Option String
  email : String
  deleted : Bool

structure NamedAgent extends NamedRow where
  agentKey : String

structure UsageTables where
  usage : List LLMUsage
  departments : OrderedDict UUID NamedRow
  users : OrderedDict UUID NamedUser
  agents : OrderedDict UUID NamedAgent
  /-- The users and the departments that `UserDepartment` binds. -/
  memberships : List (UUID × UUID)

variable (tables : UsageTables) (principal : Principal)

def canReadAllBudgetData : Bool :=
  [.tenantAdmin, .budgetsWrite, .budgetsExport].any principal.permissions.contains

def principalDepartmentIds : List UUID :=
  (tables.memberships.filter fun binding => binding.1 == principal.userId &&
    (tables.departments.get binding.2).any (·.tenantId == principal.tenantId)).map Prod.snd

/-- `_budget_data_visibility_filters`, and `_visibility_filters` of the analytics. -/
def visibilityFilters (row : LLMUsage) : Bool :=
  canReadAllBudgetData principal || row.userId == some principal.userId ||
    row.departmentId.any (principalDepartmentIds tables principal).contains

structure UsageFilters where
  start : Option Nat := none
  stop : Option Nat := none
  userId : Option UUID := none
  departmentId : Option UUID := none
  costCenterId : Option UUID := none
  agentId : Option UUID := none
  channelId : Option UUID := none
  modelKey : Option String := none
  status : Option String := none

/-- `_usage_ledger_filters`. -/
def UsageFilters.admits (filters : UsageFilters) (row : LLMUsage) : Bool :=
  row.tenantId == principal.tenantId && filters.start.all (· ≤ row.createdAt) &&
    filters.stop.all (row.createdAt < ·) && filters.userId.all (row.userId == some ·) &&
    filters.departmentId.all (row.departmentId == some ·) &&
    filters.costCenterId.all (row.costCenterId == some ·) &&
    filters.agentId.all (row.agentId == some ·) &&
    filters.channelId.all (row.channelId == some ·) &&
    filters.modelKey.all (row.modelKey == ·) && filters.status.all (row.status == ·)

structure UsageLedgerResponse where
  items : List LLMUsage
  total : Nat

def ledgerRows (filters : UsageFilters) : List LLMUsage :=
  tables.usage.filter fun row =>
    filters.admits principal row && visibilityFilters tables principal row

def listUsageLedger (limit offset : Nat) (filters : UsageFilters) : UsageLedgerResponse where
  items := (((ledgerRows tables principal filters).insertionSort fun a b =>
    b.createdAt ≤ a.createdAt).drop offset).take limit
  total := (ledgerRows tables principal filters).length

inductive UsageBreakdownDimension
  | department | user | costCenter | agent | channel | model | status
deriving DecidableEq

inductive UsageKey
  | id (value : Option UUID)
  | text (value : String)
deriving DecidableEq

def usageBreakdownField : UsageBreakdownDimension → LLMUsage → UsageKey
  | .department, row => .id row.departmentId
  | .user, row => .id row.userId
  | .costCenter, row => .id row.costCenterId
  | .agent, row => .id row.agentId
  | .channel, row => .id row.channelId
  | .status, row => .text row.status
  | .model, row => .text row.modelKey

structure UsageBreakdownItem where
  dimension : UsageBreakdownDimension
  key : String
  requestCount : Nat
  successCount : Nat
  errorCount : Nat
  inputTokens : Int
  outputTokens : Int
  totalTokens : Int
  costAmount : ℚ
  lastUsedAt : Option Nat

variable (str : UUID → String)

def toUsageBreakdownItem (dimension : UsageBreakdownDimension) (group : UsageKey × List LLMUsage) :
    UsageBreakdownItem where
  dimension := dimension
  key :=
    match group.1 with
    | .id value => (value.map str).getD "unassigned"
    | .text value => value
  requestCount := group.2.length
  successCount := group.2.countP (·.status == "success")
  errorCount := group.2.countP (·.status != "success")
  inputTokens := (group.2.map (·.inputTokens)).sum
  outputTokens := (group.2.map (·.outputTokens)).sum
  totalTokens := (group.2.map (·.totalTokens)).sum
  costAmount := (group.2.map (·.costUsd)).sum
  lastUsedAt := (group.2.map (·.createdAt)).max?

structure UsageBreakdownResponse where
  items : List UsageBreakdownItem
  totalRequestCount : Nat
  totalCostAmount : ℚ
  totalTokens : Int

def costliestFirst (groups : List (UsageKey × List LLMUsage)) : List (UsageKey × List LLMUsage) :=
  groups.insertionSort fun a b => (b.2.map (·.costUsd)).sum ≤ (a.2.map (·.costUsd)).sum

def getUsageBreakdown (dimension : UsageBreakdownDimension) (limit : Nat)
    (start stop : Option Nat) (status : Option String) : UsageBreakdownResponse :=
  let rows := tables.usage.filter fun row => row.tenantId == principal.tenantId &&
    visibilityFilters tables principal row && start.all (· ≤ row.createdAt) &&
    stop.all (row.createdAt < ·) && status.all (row.status == ·)
  let items := ((costliestFirst (groupBy (usageBreakdownField dimension) rows)).take limit).map
    (toUsageBreakdownItem str dimension)
  { items := items
    totalRequestCount := (items.map (·.requestCount)).sum
    totalCostAmount := (items.map (·.costAmount)).sum
    totalTokens := (items.map (·.totalTokens)).sum }

structure AnalyticsTotals where
  totalRequests : Nat
  totalTokens : Int
  totalCostUsd : ℚ
  successRate : ℚ

/-- `ModelUsageItem` and its siblings, which differ in what they name. -/
structure UsageItem (label : Type) where
  names : label
  tokens : Int
  costUsd : ℚ
  requests : Nat

structure AnalyticsOverviewResponse where
  totals : AnalyticsTotals
  modelUsage : List (UsageItem String)
  departmentUsage : List (UsageItem (Option UUID × String))
  userUsage : List (UsageItem (Option UUID × String))
  agentUsage : List (UsageItem (Option UUID × String × Option String))

variable {ρ κ label : Type} [DecidableEq κ]

def usageItems (key : ρ → κ) (names : κ → label) (usage : ρ → LLMUsage) (rows : List ρ) :
    List (UsageItem label) :=
  ((groupBy key rows).map fun group =>
    { names := names group.1
      tokens := (group.2.map fun row => (usage row).totalTokens).sum
      costUsd := (group.2.map fun row => (usage row).costUsd).sum
      requests := group.2.length }).insertionSort fun a b => b.tokens ≤ a.tokens

def orOther (text : Option String) (other : String) : String :=
  (text.filter (· ≠ "")).getD other

def getTotals (rows : List LLMUsage) : AnalyticsTotals where
  totalRequests := rows.length
  totalTokens := (rows.map (·.totalTokens)).sum
  totalCostUsd := (rows.map (·.costUsd)).sum
  successRate :=
    if rows.length = 0 then 0 else (rows.countP (·.status == "success") : ℚ) / rows.length

def getModelUsage (rows : List LLMUsage) : List (UsageItem String) :=
  usageItems (·.modelKey) id id rows

def getDepartmentUsage (rows : List LLMUsage) : List (UsageItem (Option UUID × String)) :=
  usageItems (fun row => (row.1.departmentId, row.2.map (·.2.name)))
    (fun key => (key.1, orOther key.2 "Unassigned")) Prod.fst
    (leftJoin rows tables.departments.entries fun row department =>
      row.departmentId == some department.1 && department.2.tenantId == principal.tenantId)

def getUserUsage (rows : List LLMUsage) : List (UsageItem (Option UUID × String)) :=
  usageItems (fun row => (row.1.userId, row.2.bind (·.2.fullName), row.2.map (·.2.email)))
    (fun key => (key.1, orOther key.2.1 (orOther key.2.2 "Unassigned"))) Prod.fst
    (leftJoin rows tables.users.entries fun row user => row.userId == some user.1 &&
      user.2.tenantId == principal.tenantId && !user.2.deleted)

def getAgentUsage (rows : List LLMUsage) :
    List (UsageItem (Option UUID × String × Option String)) :=
  usageItems (fun row => (row.1.agentId, row.2.map (·.2.name), row.2.map (·.2.agentKey)))
    (fun key => (key.1, orOther key.2.1 "Direct model calls", key.2.2)) Prod.fst
    (leftJoin rows tables.agents.entries fun row agent =>
      row.agentId == some agent.1 && agent.2.tenantId == principal.tenantId)

def getAnalyticsOverview : AnalyticsOverviewResponse :=
  let rows := tables.usage.filter fun row =>
    row.tenantId == principal.tenantId && visibilityFilters tables principal row
  { totals := getTotals rows
    modelUsage := getModelUsage rows
    departmentUsage := getDepartmentUsage tables principal rows
    userUsage := getUserUsage tables principal rows
    agentUsage := getAgentUsage tables principal rows }

def AddsUp (totals : AnalyticsTotals) (items : List (UsageItem label)) : Prop :=
  totals.totalRequests = (items.map (·.requests)).sum ∧
    totals.totalTokens = (items.map (·.tokens)).sum ∧
    totals.totalCostUsd = (items.map (·.costUsd)).sum

structure TotalsAreTotals (dimension : UsageBreakdownDimension) (limit : Nat)
    (start stop : Option Nat) (status : Option String) : Prop where
  count : ∀ page offset,
    (getUsageBreakdown tables principal str dimension limit start stop status).totalRequestCount =
      (listUsageLedger tables principal page offset { start, stop, status }).total
  cost : (getUsageBreakdown tables principal str dimension limit start stop status).totalCostAmount =
    ((ledgerRows tables principal { start, stop, status }).map (·.costUsd)).sum
  tokens : (getUsageBreakdown tables principal str dimension limit start stop status).totalTokens =
    ((ledgerRows tables principal { start, stop, status }).map (·.totalTokens)).sum
  models : AddsUp (getAnalyticsOverview tables principal).totals
    (getAnalyticsOverview tables principal).modelUsage
  departments : AddsUp (getAnalyticsOverview tables principal).totals
    (getAnalyticsOverview tables principal).departmentUsage
  users : AddsUp (getAnalyticsOverview tables principal).totals
    (getAnalyticsOverview tables principal).userUsage
  agents : AddsUp (getAnalyticsOverview tables principal).totals
    (getAnalyticsOverview tables principal).agentUsage

theorem addsUp_usageItems {key : ρ → κ} {names : κ → label} {usage : ρ → LLMUsage}
    {joined : List ρ} {rows : List LLMUsage} (whole : joined.map usage = rows) :
    AddsUp (getTotals rows) (usageItems key names usage joined) := by
  have perm := List.perm_insertionSort (fun a b : UsageItem label => b.tokens ≤ a.tokens)
    ((groupBy key joined).map fun group =>
      { names := names group.1
        tokens := (group.2.map fun row => (usage row).totalTokens).sum
        costUsd := (group.2.map fun row => (usage row).costUsd).sum
        requests := group.2.length })
  refine ⟨?_, ?_, ?_⟩
  · rw [usageItems, (perm.map _).sum_eq, List.map_map, ← whole]
    exact (List.length_map _).trans (Grouping.sum_length_groupBy joined).symm
  · rw [usageItems, (perm.map _).sum_eq, List.map_map, ← whole]
    exact (congrArg List.sum List.map_map).trans (Grouping.sum_groupBy _ joined).symm
  · rw [usageItems, (perm.map _).sum_eq, List.map_map, ← whole]
    exact (congrArg List.sum List.map_map).trans (Grouping.sum_groupBy _ joined).symm

theorem filter_entries_le_one {β : Type} (dict : OrderedDict UUID β) {picks : UUID × β → Bool}
    {k : Option UUID} (own : ∀ e, picks e = true → k = some e.1) :
    (dict.entries.filter picks).length ≤ 1 := by
  have distinct : ((dict.entries.filter picks).map Prod.fst).Nodup :=
    dict.distinct.sublist (List.filter_sublist.map _)
  have same : ∀ e ∈ dict.entries.filter picks, k = some e.1 :=
    fun e mem => own e (List.mem_filter.mp mem).2
  match found : dict.entries.filter picks with
  | [] => simp
  | [_] => simp
  | first :: second :: rest =>
    rw [found] at distinct same
    have both := (same first (by simp)).symm.trans (same second (by simp))
    simp_all

theorem perm_costliestFirst (groups : List (UsageKey × List LLMUsage)) :
    (costliestFirst groups).Perm groups :=
  List.perm_insertionSort _ _

/-- The rows the breakdown groups are those the ledger counts. -/
theorem breakdown_rows (start stop : Option Nat) (status : Option String) :
    (tables.usage.filter fun row => row.tenantId == principal.tenantId &&
      visibilityFilters tables principal row && start.all (· ≤ row.createdAt) &&
      stop.all (row.createdAt < ·) && status.all (row.status == ·)) =
      ledgerRows tables principal { start, stop, status } := by
  refine List.filter_congr fun row _ => ?_
  simp only [UsageFilters.admits, Option.all_none, Bool.and_true]
  ac_rfl

theorem dedup_length_le {dimension : UsageBreakdownDimension} {limit : Nat}
    {start stop : Option Nat} {status : Option String}
    (totals : TotalsAreTotals tables principal str dimension limit start stop status) :
    ((ledgerRows tables principal { start, stop, status }).map
      (usageBreakdownField dimension)).dedup.length ≤ limit := by
  have count := totals.count 0 0
  rw [getUsageBreakdown, breakdown_rows] at count
  rw [List.map_map] at count
  exact (Grouping.sum_length_take_iff (perm_costliestFirst _) limit).mp count

theorem totalsAreTotals_iff (dimension : UsageBreakdownDimension) (limit : Nat)
    (start stop : Option Nat) (status : Option String) :
    TotalsAreTotals tables principal str dimension limit start stop status ↔
      ((ledgerRows tables principal { start, stop, status }).map
        (usageBreakdownField dimension)).dedup.length ≤ limit := by
  have perm := perm_costliestFirst
    (groupBy (usageBreakdownField dimension) (ledgerRows tables principal { start, stop, status }))
  constructor
  · exact dedup_length_le tables principal str
  · intro few
    have all : (costliestFirst (groupBy (usageBreakdownField dimension)
        (ledgerRows tables principal { start, stop, status }))).take limit =
        costliestFirst (groupBy (usageBreakdownField dimension)
          (ledgerRows tables principal { start, stop, status })) := by
      rw [List.take_of_length_le]
      rwa [perm.length_eq, Grouping.length_groupBy]
    refine ⟨fun page offset => ?_, ?_, ?_, ?_, ?_, ?_, ?_⟩
    · simp only [getUsageBreakdown, breakdown_rows, all, List.map_map]
      exact (perm.map _).sum_eq.trans (Grouping.sum_length_groupBy _)
    · simp only [getUsageBreakdown, breakdown_rows, all, List.map_map]
      exact (perm.map _).sum_eq.trans (Grouping.sum_groupBy _ _)
    · simp only [getUsageBreakdown, breakdown_rows, all, List.map_map]
      exact (perm.map _).sum_eq.trans (Grouping.sum_groupBy _ _)
    · exact addsUp_usageItems (List.map_id _)
    all_goals
      simp only [getAnalyticsOverview, getDepartmentUsage, getUserUsage, getAgentUsage]
      refine addsUp_usageItems (Grouping.map_fst_leftJoin (fun row => ?_) _)
    · exact filter_entries_le_one (k := row.departmentId) _ (by simp_all)
    · exact filter_entries_le_one (k := row.userId) _ (by simp_all)
    · exact filter_entries_le_one (k := row.agentId) _ (by simp_all)

theorem totals_of_first_group :
    ¬ ∀ tables principal str dimension limit start stop status,
      TotalsAreTotals tables principal str dimension limit start stop status := by
  intro total
  have few := dedup_length_le
    { usage := [{ tenantId := 0, modelKey := "a", createdAt := 0 },
        { tenantId := 0, modelKey := "b", createdAt := 0 }]
      departments := ⟨[], .nil⟩, users := ⟨[], .nil⟩, agents := ⟨[], .nil⟩, memberships := [] }
    { userId := 0, tenantId := 0, permissions := [.tenantAdmin] } (fun _ => "")
    (total _ _ _ .model 1 none none none)
  exact absurd few (by decide)

end AgentHive.UsageReports
