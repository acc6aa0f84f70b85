import AgentHive.Store.OrderedDict
import Mathlib.Order.Lattice

/-!
Caches of bounded size whose entries expire, the least recently used first to go.
-/

structure TtlCache (κ β τ : Type) where
  maxsize : Nat
  ttl : τ
  data : OrderedDict κ (τ × β)

namespace TtlCache

variable {κ β τ : Type}

def clear (cache : TtlCache κ β τ) : TtlCache κ β τ := { cache with data := .empty }

variable [DecidableEq κ] [LT τ] [DecidableLT τ] [Add τ]

/-- An entry that has expired is dropped, and another becomes the most recently used. -/
def get (cache : TtlCache κ β τ) (now : τ) (key : κ) : Option β × TtlCache κ β τ :=
  match cache.data.get key with
  | none => (none, cache)
  | some (expiresAt, value) =>
    if expiresAt < now then (none, { cache with data := cache.data.erase key })
    else
      (some value,
        { cache with data := (cache.data.erase key).set key (expiresAt, value) })

def trim (cache : TtlCache κ β τ) : TtlCache κ β τ :=
  { cache with
    data :=
      { entries := cache.data.entries.drop (cache.data.entries.length - cache.maxsize)
        distinct := cache.data.distinct.sublist ((List.drop_sublist ..).map Prod.fst) } }

def set (cache : TtlCache κ β τ) (now : τ) (key : κ) (value : β) : TtlCache κ β τ :=
  trim { cache with data := (cache.data.erase key).set key (now + cache.ttl, value) }

def Holds (cache : TtlCache κ β τ) (P : κ → β → Prop) : Prop :=
  ∀ e ∈ cache.data.entries, P e.1 e.2.2

variable {cache : TtlCache κ β τ} {P Q : κ → β → Prop} {now : τ} {key : κ} {value : β}

omit [DecidableEq κ] [LT τ] [DecidableLT τ] [Add τ] in
theorem holds_clear : cache.clear.Holds P := fun _ mem => nomatch mem

omit [DecidableEq κ] [LT τ] [DecidableLT τ] [Add τ] in
theorem Holds.mono (holds : cache.Holds P) (implies : ∀ e ∈ cache.data.entries, P e.1 e.2.2 →
    Q e.1 e.2.2) : cache.Holds Q :=
  fun e mem => implies e mem (holds e mem)

omit [LT τ] [DecidableLT τ] [Add τ] in
theorem holds_iff : cache.Holds P ↔ ∀ key e, cache.data.get key = some e → P key e.2 := by
  constructor
  · intro holds key e found
    exact holds (key, e) (OrderedDict.mem_entries_of_get found)
  · intro holds e mem
    exact holds e.1 e.2 (OrderedDict.get_of_mem_entries mem)

omit [Add τ] in
theorem Holds.of_get (holds : cache.Holds P) (hit : (cache.get now key).1 = some value) :
    P key value := by
  rw [get] at hit
  split at hit
  · cases hit
  · rename_i expiresAt kept found
    split at hit
    · cases hit
    · cases hit
      exact holds_iff.mp holds key _ found

omit [Add τ] in
theorem Holds.get (holds : cache.Holds P) : (cache.get now key).2.Holds P := by
  rw [holds_iff] at holds ⊢
  rw [TtlCache.get]
  split
  · exact holds
  · rename_i expiresAt kept found
    split
    · intro other e found'
      rw [OrderedDict.get_erase] at found'
      split at found'
      · cases found'
      · exact holds other e found'
    · intro other e found'
      rw [OrderedDict.get_set, OrderedDict.get_erase] at found'
      split at found'
      · rename_i same
        cases found'
        rw [same]
        exact holds key _ found
      · exact holds other e found'

omit [DecidableEq κ] [LT τ] [DecidableLT τ] [Add τ] in
theorem Holds.trim (holds : cache.Holds P) : cache.trim.Holds P :=
  fun e mem => holds e (List.mem_of_mem_drop mem)

omit [LT τ] [DecidableLT τ] in
/-- What is set joins what is kept. -/
theorem Holds.set (holds : cache.Holds P) (new : P key value) :
    (cache.set now key value).Holds P := by
  refine Holds.trim ?_
  rw [holds_iff] at holds ⊢
  intro other e found
  rw [OrderedDict.get_set, OrderedDict.get_erase] at found
  split at found
  · rename_i same
    cases found
    rw [same]
    exact new
  · exact holds other e found

end TtlCache

namespace TtlCache

variable {κ β τ : Type}

variable (κ β τ) in
inductive Call
  | got (key : κ) (answer : Option β)
  | set (key : κ) (value : β) (evicted : List κ)
  | cleared

variable (κ β τ) in
structure Event where
  now : τ
  call : Call κ β

def Event.Touches (k : κ) (e : Event κ β τ) : Prop :=
  match e.call with
  | .got key answer => key = k ∧ answer.isSome
  | .set key _ _ => key = k
  | .cleared => False

variable {maxsize : Nat} {ttl now : τ} {before : List (Event κ β τ)}
  {cache after : TtlCache κ β τ} {e : Event κ β τ} {key a b : κ} {value : β} {evicted : List κ}

theorem Event.touches_unique (first : e.Touches a) (second : e.Touches b) : b = a := by
  obtain ⟨now, call⟩ := e
  cases call with
  | got => exact second.1.symm.trans first.1
  | set => exact second.symm.trans first
  | cleared => exact first.elim

def Older (a b : κ) : List (Event κ β τ) → Prop
  | [] => False
  | e :: before => e.Touches b ∧ a ≠ b ∨ ¬ e.Touches a ∧ Older a b before

theorem Older.asymm (older : Older a b before) : ¬ Older b a before := by
  induction before with
  | nil => exact older.elim
  | cons e before ih =>
    intro newer
    rcases older with ⟨touched, _⟩ | ⟨left, older⟩
    · rcases newer with ⟨other, apart⟩ | ⟨missed, _⟩
      · exact apart (Event.touches_unique other touched)
      · exact missed touched
    · rcases newer with ⟨other, _⟩ | ⟨_, newer⟩
      · exact left other
      · exact ih older newer

theorem keys_trim : cache.trim.data.keys =
    cache.data.keys.drop (cache.data.keys.length - cache.maxsize) := by
  simp [trim, OrderedDict.keys, List.map_drop]

variable [DecidableEq κ]

/-- What the last setting of a key has stored, and when, unless the cache has been cleared or
the key evicted since. The newest event stands first. -/
def lastSet (k : κ) : List (Event κ β τ) → Option (β × τ)
  | [] => none
  | ⟨now, .set key value evicted⟩ :: before =>
    if key = k then some (value, now) else if k ∈ evicted then none else lastSet k before
  | ⟨_, .got _ _⟩ :: before => lastSet k before
  | ⟨_, .cleared⟩ :: _ => none

theorem keys_moved (d : OrderedDict κ (τ × β)) (key : κ) (kept : τ × β) :
    ((d.erase key).set key kept).keys = d.keys.filter (· ≠ key) ++ [key] := by
  have left : (d.erase key).keys = d.keys.filter (· ≠ key) := by
    rw [OrderedDict.keys, OrderedDict.keys, List.filter_map]
    rfl
  rw [OrderedDict.keys_set, left, if_neg (by simp)]

theorem get_moved (d : OrderedDict κ (τ × β)) (key other : κ) (kept : τ × β) :
    ((d.erase key).set key kept).get other = if other = key then some kept else d.get other := by
  rw [OrderedDict.get_set, OrderedDict.get_erase]
  split <;> rfl

theorem ordered_moved {keys : List κ} (ordered : keys.Pairwise fun a b => Older a b before)
    (touched : e.Touches key) :
    (keys.filter (· ≠ key) ++ [key]).Pairwise fun a b => Older a b (e :: before) := by
  rw [List.pairwise_append]
  refine ⟨?_, List.pairwise_singleton _ _, ?_⟩
  · refine (ordered.filter _).imp_of_mem fun first second older => .inr ⟨fun other => ?_, older⟩
    exact of_decide_eq_true (List.mem_filter.mp first).2 (Event.touches_unique touched other)
  · intro a mem b last
    rw [List.mem_singleton.mp last]
    exact .inl ⟨touched, of_decide_eq_true (List.mem_filter.mp mem).2⟩

theorem get_trim {other : κ} (stays : other ∈ cache.trim.data.keys) :
    cache.trim.data.get other = cache.data.get other := by
  obtain ⟨kept, found⟩ := Option.isSome_iff_exists.mp (OrderedDict.mem_keys.mp stays)
  rw [found]
  have mem := OrderedDict.mem_entries_of_get found
  exact (OrderedDict.get_of_mem_entries (List.mem_of_mem_drop mem)).symm

variable [Add τ]

theorem get_set_of_mem {other : κ} (stays : other ∈ (cache.set now key value).data.keys) :
    (cache.set now key value).data.get other =
      if other = key then some (now + cache.ttl, value) else cache.data.get other := by
  rw [set, get_trim stays, get_moved]

variable (isSet : cache.set now key value = after)
  (gone : evicted = cache.data.keys.filter (· ∉ after.data.keys))

include isSet gone in
theorem get_set_evicting (other : κ) (has : key ∈ after.data.keys) :
    after.data.get other = if key = other then some (now + cache.ttl, value)
      else if other ∈ evicted then none else cache.data.get other := by
  by_cases stays : other ∈ after.data.keys
  · have remains : other ∉ evicted := by simp [gone, stays]
    rw [← isSet] at stays ⊢
    simp only [get_set_of_mem stays, eq_comm (a := other), if_neg remains]
  · have missing : after.data.get other = none := by
      simpa [OrderedDict.mem_keys] using stays
    rw [missing, if_neg fun same : key = other => stays (same ▸ has)]
    split
    · rfl
    · rename_i remains
      have unknown : other ∉ cache.data.keys := fun old =>
        remains (by rw [gone]; exact List.mem_filter.mpr ⟨old, decide_eq_true stays⟩)
      rw [OrderedDict.mem_keys, Bool.not_eq_true, Option.isSome_eq_false_iff,
        Option.isNone_iff_eq_none] at unknown
      exact unknown.symm

variable [LinearOrder τ]

def Event.Step (cache : TtlCache κ β τ) (e : Event κ β τ) (after : TtlCache κ β τ) : Prop :=
  match e.call with
  | .got key answer => cache.get e.now key = (answer, after)
  | .set key value evicted => cache.set e.now key value = after ∧
      evicted = cache.data.keys.filter (· ∉ after.data.keys)
  | .cleared => cache.clear = after

/-- The runs of a cache under a clock that does not go back. -/
inductive Run (maxsize : Nat) (ttl : τ) : List (Event κ β τ) → TtlCache κ β τ → Prop
  | start : Run maxsize ttl [] ⟨maxsize, ttl, .empty⟩
  | step {before : List (Event κ β τ)} {cache after : TtlCache κ β τ} {e : Event κ β τ}
      (run : Run maxsize ttl before cache) (clock : ∀ earlier ∈ before, earlier.now ≤ e.now)
      (step : e.Step cache after) : Run maxsize ttl (e :: before) after

/-- A call answers what was set last, if that is not too long ago, and setting a new key in
a full cache evicts the oldest one. -/
def Event.Exact (cache : TtlCache κ β τ) (before : List (Event κ β τ)) (e : Event κ β τ) : Prop :=
  match e.call with
  | .got key answer => ∀ value, answer = some value ↔
      ∃ stored, lastSet key before = some (value, stored) ∧ e.now ≤ stored + cache.ttl
  | .set key _ evicted => ∀ a, a ∈ evicted ↔
      key ∉ cache.data.keys ∧ cache.data.keys.length = cache.maxsize ∧ a ∈ cache.data.keys ∧
        ∀ b ∈ cache.data.keys, b ≠ a → Older a b before
  | .cleared => True

def Content (before : List (Event κ β τ)) (cache : TtlCache κ β τ) (key : κ) : Prop :=
  cache.data.get key =
      (lastSet key before).map (fun stored => (stored.2 + cache.ttl, stored.1)) ∨
    cache.data.get key = none ∧
      ∃ e ∈ before, ∀ stored ∈ lastSet key before, stored.2 + cache.ttl < e.now

structure Told (before : List (Event κ β τ)) (cache : TtlCache κ β τ) : Prop where
  size : cache.data.keys.length ≤ cache.maxsize
  content : ∀ key, Content before cache key
  ordered : cache.data.keys.Pairwise fun a b => Older a b before

theorem told_start : Told ([] : List (Event κ β τ)) ⟨maxsize, ttl, .empty⟩ where
  size := Nat.zero_le maxsize
  content := fun _ => .inl rfl
  ordered := List.Pairwise.nil

section

variable (told : Told before cache)

include told

include isSet gone in
theorem set_cases (positive : 0 < cache.maxsize) :
    (after.data.keys = cache.data.keys.filter (· ≠ key) ++ [key] ∧ evicted = [] ∧
        after.data.keys.length ≤ cache.maxsize) ∨
      ∃ first rest, cache.data.keys = first :: rest ∧ key ∉ cache.data.keys ∧
        cache.data.keys.length = cache.maxsize ∧ after.data.keys = rest ++ [key] ∧
        evicted = [first] := by
  have keys : after.data.keys = (cache.data.keys.filter (· ≠ key) ++ [key]).drop
      ((cache.data.keys.filter (· ≠ key)).length + 1 - cache.maxsize) := by
    rw [← isSet, TtlCache.set, keys_trim]
    simp only [keys_moved, List.length_append, List.length_singleton]
  have fewer := List.length_filter_le (· ≠ key) cache.data.keys
  have size := told.size
  by_cases fits : (cache.data.keys.filter (· ≠ key)).length + 1 ≤ cache.maxsize
  · rw [Nat.sub_eq_zero_of_le fits, List.drop_zero] at keys
    refine .inl ⟨keys, ?_, by simpa [keys] using fits⟩
    rw [gone, keys, List.filter_eq_nil_iff]
    intro other mem
    by_cases same : other = key <;> simp [same, mem]
  · have whole : (cache.data.keys.filter (· ≠ key)).length = cache.data.keys.length := by omega
    have all := List.length_filter_eq_length_iff.mp whole
    have new : key ∉ cache.data.keys := fun mem => of_decide_eq_true (all key mem) rfl
    rw [List.filter_eq_self.mpr all] at keys whole fits
    have full : cache.data.keys.length = cache.maxsize := by omega
    have distinct : cache.data.keys.Nodup := cache.data.distinct
    cases old : cache.data.keys with
    | nil =>
      rw [old] at full
      exact absurd full.symm (Nat.ne_of_gt positive)
    | cons first rest =>
      rw [old] at keys full distinct new
      have one : (first :: rest).length + 1 - cache.maxsize = 1 := by omega
      rw [one, List.cons_append, List.drop_one, List.tail_cons] at keys
      refine .inr ⟨first, rest, rfl, new, full, keys, ?_⟩
      have apart : first ≠ key := fun same => new (same ▸ List.mem_cons_self)
      have missing := (List.nodup_cons.mp distinct).1
      rw [gone, keys, old, List.filter_cons_of_pos (by simp [missing, apart]),
        List.filter_eq_nil_iff.mpr fun other mem => by simp [mem]]

include isSet gone in
theorem Told.set (positive : 0 < cache.maxsize) :
    Told (⟨now, .set key value evicted⟩ :: before) after := by
  have bounds : after.maxsize = cache.maxsize ∧ after.ttl = cache.ttl := by
    rw [← isSet]
    exact ⟨rfl, rfl⟩
  have moved := ordered_moved (e := ⟨now, .set key value evicted⟩) told.ordered rfl
  have content (has : key ∈ after.data.keys) (other : κ) :
      Content (⟨now, .set key value evicted⟩ :: before) after other := by
    rw [Content, get_set_evicting isSet gone other has, bounds.2, lastSet]
    split
    · exact .inl rfl
    · split
      · exact .inl rfl
      · refine (told.content other).imp_right (And.imp_right fun found => ?_)
        obtain ⟨e, mem, expired⟩ := found
        exact ⟨e, List.mem_cons_of_mem _ mem, expired⟩
  rcases set_cases isSet gone told positive with ⟨keys, _, size⟩ | ⟨first, rest, old, new, full,
    keys, _⟩
  · exact ⟨bounds.1 ▸ size, content (by simp [keys]), keys ▸ moved⟩
  · have all : cache.data.keys.filter (· ≠ key) = cache.data.keys :=
      List.filter_eq_self.mpr fun other mem => decide_eq_true fun same => new (same ▸ mem)
    rw [all, old] at moved
    refine ⟨?_, content (by simp [keys]), ?_⟩
    · rw [bounds.1, keys, ← full, old, List.length_append]
      exact Nat.le_refl _
    · rw [keys]
      exact (List.pairwise_cons.mp moved).2

include isSet gone in
theorem Told.exact_set (positive : 0 < cache.maxsize) :
    (⟨now, .set key value evicted⟩ : Event κ β τ).Exact cache before := by
  intro a
  have distinct : cache.data.keys.Nodup := cache.data.distinct
  have ordered := told.ordered
  rcases set_cases isSet gone told positive with ⟨keys, none, size⟩ | ⟨first, rest, old, new, full,
    _, one⟩
  · rw [none]
    refine iff_of_false List.not_mem_nil ?_
    intro ⟨new, full, _⟩
    have all : cache.data.keys.filter (· ≠ key) = cache.data.keys :=
      List.filter_eq_self.mpr fun other mem => decide_eq_true fun same => new (same ▸ mem)
    rw [keys, all, List.length_append, full] at size
    exact absurd size (Nat.not_succ_le_self _)
  · rw [one, List.mem_singleton]
    rw [old, List.pairwise_cons] at ordered
    constructor
    · intro same
      subst same
      refine ⟨new, full, old ▸ List.mem_cons_self, fun b mem other => ?_⟩
      rw [old] at mem
      exact ordered.1 b ((List.mem_cons.mp mem).resolve_left other)
    · intro ⟨_, _, mem, oldest⟩
      by_contra other
      rw [old] at mem oldest
      exact (oldest first List.mem_cons_self (Ne.symm other)).asymm
        (ordered.1 a ((List.mem_cons.mp mem).resolve_left other))

theorem Told.exact_get (clock : ∀ earlier ∈ before, earlier.now ≤ now) :
    (⟨now, .got key (cache.get now key).1⟩ : Event κ β τ).Exact cache before := by
  intro value
  rw [TtlCache.get]
  rcases told.content key with here | ⟨none, e, mem, expired⟩
  · rw [here]
    cases lastSet key before with
    | none => simp
    | some stored =>
      obtain ⟨last, at_⟩ := stored
      by_cases late : at_ + cache.ttl < now
      · simp [late, not_le.mpr late]
      · simp [late, not_lt.mp late, and_comm, eq_comm]
  · rw [none]
    refine iff_of_false (fun found => nomatch found) ?_
    intro ⟨stored, last, fresh⟩
    have gone := expired (value, stored) last
    exact absurd (lt_of_le_of_lt fresh gone) (not_lt.mpr (clock e mem))

theorem Told.get :
    Told (⟨now, .got key (cache.get now key).1⟩ :: before) (cache.get now key).2 := by
  have kept (event : Event κ β τ) (other : κ) := (told.content other).imp_right fun
    ⟨lost, e, mem, expired⟩ => And.intro lost (Exists.intro e
      (And.intro (List.mem_cons_of_mem event mem) expired))
  have later {keys : List κ} (sub : keys.Sublist cache.data.keys) : keys.Pairwise fun a b =>
      Older a b ((⟨now, .got key none⟩ : Event κ β τ) :: before) :=
    (told.ordered.sublist sub).imp fun older => .inr ⟨(fun touched => nomatch touched.2), older⟩
  rw [TtlCache.get]
  split
  · exact ⟨told.size, kept _, later (.refl _)⟩
  · rename_i expiresAt value found
    have expires : ∀ stored ∈ lastSet key before, stored.2 + cache.ttl = expiresAt := by
      intro stored last
      rcases told.content key with here | ⟨lost, _⟩
      · rw [found, last] at here
        exact congrArg Prod.fst (Option.some.inj here).symm
      · rw [found] at lost
        cases lost
    split
    · rename_i expired
      have sub : (cache.data.erase key).keys.Sublist cache.data.keys :=
        List.filter_sublist.map Prod.fst
      refine ⟨Nat.le_trans sub.length_le told.size, fun other => ?_, later sub⟩
      simp only [Content, OrderedDict.get_erase]
      split
      · rename_i same
        refine .inr ⟨rfl, _, List.mem_cons_self, fun stored last => ?_⟩
        rw [same] at last
        exact expires stored last ▸ expired
      · exact kept _ other
    · refine ⟨?_, fun other => ?_, ?_⟩
      · have mem : key ∈ cache.data.keys := OrderedDict.mem_keys.mpr (by rw [found]; rfl)
        have fewer : (cache.data.keys.filter (· ≠ key)).length < cache.data.keys.length :=
          List.length_filter_lt_length_iff_exists.mpr ⟨key, mem, by simp⟩
        simp only [keys_moved, List.length_append, List.length_singleton]
        exact Nat.le_trans fewer told.size
      · simp only [Content, get_moved]
        split
        · rename_i same
          rw [same, ← found]
          exact kept _ key
        · exact kept _ other
      · simp only [keys_moved]
        exact ordered_moved told.ordered ⟨rfl, rfl⟩

end

omit [Add τ] in
theorem bounds_get : (cache.get now key).2.maxsize = cache.maxsize ∧
    (cache.get now key).2.ttl = cache.ttl := by
  rw [TtlCache.get]
  split
  · exact ⟨rfl, rfl⟩
  · split <;> exact ⟨rfl, rfl⟩

theorem Run.told (run : Run maxsize ttl before cache) (positive : 0 < maxsize) :
    Told before cache ∧ cache.maxsize = maxsize ∧ cache.ttl = ttl := by
  induction run with
  | start => exact ⟨told_start, rfl, rfl⟩
  | step run clock step ih =>
    rename_i before cache after e
    obtain ⟨told, size, time⟩ := ih
    obtain ⟨now, call⟩ := e
    cases call with
    | got key answer =>
      have answered : (cache.get now key).1 = answer := congrArg Prod.fst step
      have left : (cache.get now key).2 = after := congrArg Prod.snd step
      refine ⟨answered ▸ left ▸ told.get, ?_, ?_⟩
      · rw [← left, bounds_get.1, size]
      · rw [← left, bounds_get.2, time]
    | set key value evicted =>
      obtain ⟨set, gone⟩ := step
      exact ⟨told.set set gone (size ▸ positive), by rw [← set]; exact size,
        by rw [← set]; exact time⟩
    | cleared =>
      cases step
      exact ⟨⟨Nat.zero_le _, fun _ => .inl rfl, List.Pairwise.nil⟩, size, time⟩

/-- In every run the cache keeps its size, and every call is exact. -/
theorem Run.exact (run : Run maxsize ttl before cache) (positive : 0 < maxsize) :
    cache.data.keys.length ≤ maxsize ∧ ∀ (e : Event κ β τ) after,
      (∀ earlier ∈ before, earlier.now ≤ e.now) → e.Step cache after → e.Exact cache before := by
  obtain ⟨told, size, _⟩ := run.told positive
  refine ⟨size ▸ told.size, ?_⟩
  intro ⟨now, call⟩ after clock step
  cases call with
  | got key answer =>
    have answered : (cache.get now key).1 = answer := congrArg Prod.fst step
    exact answered ▸ told.exact_get clock
  | set key value evicted => exact told.exact_set step.1 step.2 (size ▸ positive)
  | cleared => trivial

end TtlCache
