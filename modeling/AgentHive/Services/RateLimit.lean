import AgentHive.Store.Buckets
import AgentHive.Store.IpAddress
import AgentHive.Store.TextBytes
import Mathlib.Algebra.Order.Field.Rat
import Mathlib.Data.List.DropRight
import Mathlib.Data.List.Induction

/-!
The bucket a request is counted in.
-/

namespace AgentHive.RateLimit

open IpAddress (textV4)

structure Request where
  client : Option (List Char)
  forwardedFor : Option (List Char)
  path : List Char

def strip (text : List Char) : List Char :=
  (text.dropWhile fun c => TextBytes.isWhite c.toNat).rdropWhile fun c => TextBytes.isWhite c.toNat

def isTrustedProxy (cidrs : List (List Char)) (value : List Char) : Bool :=
  match IpAddress.parse value with
  | none => false
  | some peer =>
    cidrs.any fun cidr =>
      match IpNetwork.parse cidr with
      | none => false
      | some network => network.contains peer

def peerOf (request : Request) : List Char := request.client.getD "unknown".toList

def clientIp (cidrs : List (List Char)) (request : Request) : List Char :=
  let peer := peerOf request
  if isTrustedProxy cidrs peer then
    let forwardedFor := request.forwardedFor.getD []
    let candidate := strip (forwardedFor.takeWhile fun c => c != ',')
    match IpAddress.parse candidate with
    | some address => address.text
    | none => peer
  else peer

section Paths

-- The decimal digits of all scripts.
variable (isDecimal : Char → Bool)

def isHex (c : Char) : Bool := (IpAddress.hexDigit c).isSome

def isDynamicSegment (segment : List Char) : Bool :=
  (segment != [] && segment.all isDecimal) ||
    ((segment.take 8).length == 8 && (segment.take 8).all isHex &&
      (segment.drop 8).head? == some '-' && 27 ≤ (segment.drop 9).length &&
      (segment.drop 9).all fun c => isHex c || c == '-') ||
    (24 ≤ segment.length && segment.all fun c => c.isAlphanum || c == '_' || c == '-')

def normalizedPath (path : List Char) : List Char :=
  ['/'].intercalate ((path.splitOn '/').map fun segment =>
    if isDynamicSegment isDecimal segment then ['{', 'i', 'd', '}'] else segment)

def rateLimitKey (cidrs : List (List Char)) (request : Request) : List Char :=
  clientIp cidrs request ++ ':' :: normalizedPath isDecimal request.path

end Paths

def proxyAddForwardedFor (sent : List (List Char)) (address : List Char) : List Char :=
  sent.flatMap (fun value => value ++ [',', ' ']) ++ address

def forwarded (proxy : Option (List Char)) (address path : List Char) (sent : List (List Char)) :
    Request :=
  { client := proxy, forwardedFor := some (proxyAddForwardedFor sent address), path }

/-- No client chooses the bucket it is counted in: not by what it sends through a trusted proxy,
and not by any header when its peer is not one. -/
structure BucketFixed (isDecimal : Char → Bool) (cidrs : List (List Char))
    (client : Option (List Char)) (address path : List Char) : Prop where
  proxied : isTrustedProxy cidrs (client.getD "unknown".toList) = true → ∀ sent other,
    rateLimitKey isDecimal cidrs (forwarded client address path sent) =
      rateLimitKey isDecimal cidrs (forwarded client address path other)
  direct : isTrustedProxy cidrs (client.getD "unknown".toList) = false → ∀ header other,
    rateLimitKey isDecimal cidrs { client, forwardedFor := header, path } =
      rateLimitKey isDecimal cidrs { client, forwardedFor := other, path }

theorem textV4_solid {value : Nat} {c : Char} (mem : c ∈ textV4 value) :
    c ≠ ',' ∧ TextBytes.isWhite c.toNat = false := by
  have range : 0x2E ≤ c.toNat ∧ c.toNat ≤ 0x39 ∧ c ≠ ',' := by
    cases IpAddress.mem_textV4 mem with
    | inl dot =>
      rw [dot]
      decide
    | inr digit =>
      rw [Char.isDigit, Bool.and_eq_true, decide_eq_true_iff, decide_eq_true_iff] at digit
      have low : 48 ≤ c.toNat := digit.1
      have high : c.toNat ≤ 57 := digit.2
      refine ⟨by omega, high, ?_⟩
      intro comma
      rw [comma] at low
      exact absurd low (by decide)
  refine ⟨range.2.2, ?_⟩
  simp only [TextBytes.isWhite, Bool.or_eq_false_iff, Bool.and_eq_false_iff,
    decide_eq_false_iff_not]
  omega

theorem strip_textV4 (value : Nat) : strip (textV4 value) = textV4 value := by
  have front : (textV4 value).dropWhile (fun c => TextBytes.isWhite c.toNat) =
      textV4 value := by
    apply List.dropWhile_eq_self_iff.mpr
    intro nonempty
    rw [(textV4_solid (List.getElem_mem nonempty)).2]
    decide
  rw [strip, front]
  apply List.rdropWhile_eq_self_iff.mpr
  intro nonempty
  rw [(textV4_solid (List.getLast_mem nonempty)).2]
  decide

theorem clientIp_forwarded {cidrs : List (List Char)} {client : Option (List Char)}
    (trusted : isTrustedProxy cidrs (client.getD "unknown".toList) = true)
    (address path : List Char) {value : Nat} (small : value < 2 ^ 32) :
    clientIp cidrs (forwarded client address path [textV4 value]) =
      textV4 value := by
  have first : (proxyAddForwardedFor [textV4 value] address).takeWhile
      (fun c => c != ',') = textV4 value := by
    rw [proxyAddForwardedFor, List.flatMap_cons, List.append_assoc, List.append_assoc,
      List.takeWhile_append_of_pos fun c mem => bne_iff_ne.mpr (textV4_solid mem).1]
    exact List.append_nil _
  unfold clientIp peerOf forwarded
  simp only [trusted, if_true, Option.getD_some, first, strip_textV4,
    IpAddress.parse_textV4 small, IpAddress.text]

theorem clientIp_direct {cidrs : List (List Char)} {request : Request}
    (untrusted : isTrustedProxy cidrs (peerOf request) = false) :
    clientIp cidrs request = peerOf request := by
  unfold clientIp
  simp only [untrusted, Bool.false_eq_true, if_false]

/-- A client is kept to its bucket exactly when the peer is not a trusted proxy. -/
theorem bucket_fixed_iff (isDecimal : Char → Bool) (cidrs : List (List Char))
    (client : Option (List Char)) (address path : List Char) :
    BucketFixed isDecimal cidrs client address path ↔
      isTrustedProxy cidrs (client.getD "unknown".toList) = false := by
  constructor
  · intro fixed
    by_contra other
    have trusted := eq_true_of_ne_false other
    have same := fixed.proxied trusted [IpAddress.textV4 1] [IpAddress.textV4 2]
    unfold rateLimitKey at same
    rw [clientIp_forwarded trusted address path (by decide),
      clientIp_forwarded trusted address path (by decide)] at same
    exact absurd (List.append_cancel_right same) (by decide)
  · intro untrusted
    refine ⟨fun trusted => ?_, fun _ header other => ?_⟩
    · rw [untrusted] at trusted
      cases trusted
    · unfold rateLimitKey
      rw [@clientIp_direct cidrs { client, forwardedFor := header, path } untrusted,
        @clientIp_direct cidrs { client, forwardedFor := other, path } untrusted]
      rfl

theorem sent_address_is_counted :
    rateLimitKey Char.isDigit ["172.16.0.0/12".toList]
        (forwarded (some "172.20.0.4".toList) "172.16.5.9".toList "/api/v1/auth/login".toList []) =
        "172.16.5.9:/api/v1/auth/login".toList ∧
      rateLimitKey Char.isDigit ["172.16.0.0/12".toList]
        (forwarded (some "172.20.0.4".toList) "172.16.5.9".toList "/api/v1/auth/login".toList
          ["192.0.2.1".toList]) = "192.0.2.1:/api/v1/auth/login".toList ∧
      ¬ BucketFixed Char.isDigit ["172.16.0.0/12".toList] (some "172.20.0.4".toList)
        "172.16.5.9".toList "/api/v1/auth/login".toList := by
  have trusted : isTrustedProxy ["172.16.0.0/12".toList] "172.20.0.4".toList = true := by
    decide +kernel
  have plain : rateLimitKey Char.isDigit ["172.16.0.0/12".toList]
      (forwarded (some "172.20.0.4".toList) "172.16.5.9".toList "/api/v1/auth/login".toList []) =
      "172.16.5.9:/api/v1/auth/login".toList := by decide +kernel
  have spoofed : rateLimitKey Char.isDigit ["172.16.0.0/12".toList]
      (forwarded (some "172.20.0.4".toList) "172.16.5.9".toList "/api/v1/auth/login".toList
        ["192.0.2.1".toList]) = "192.0.2.1:/api/v1/auth/login".toList := by decide +kernel
  refine ⟨plain, spoofed, fun fixed => ?_⟩
  have same := fixed.proxied trusted [] ["192.0.2.1".toList]
  rw [plain, spoofed] at same
  exact absurd same (by decide)

open Buckets

variable {κ : Type} [DecidableEq κ] (limit : Int) (window : ℚ) (buckets : OrderedDict κ (List ℚ))

/-- `InMemoryRateLimiter.allow`: the answer, what remains, and the buckets after it. -/
def allow (key : κ) (now : ℚ) : Bool × Int × OrderedDict κ (List ℚ) :=
  let cutoff := now - window
  let found := later cutoff (bucket buckets key)
  let allowed := decide ((found.length : Int) < limit)
  let items := if allowed then found ++ [now] else found
  (allowed, max (limit - items.length) 0,
    compact (if items = [] then buckets.erase key else buckets.set key items) cutoff)

structure LimiterCall (κ : Type) where
  key : κ
  now : ℚ

structure Limiter (κ : Type) where
  outcomes : List (LimiterCall κ × Bool) := []
  buckets : OrderedDict κ (List ℚ) := .empty

def serve (s : Limiter κ) (call : LimiterCall κ) : Limiter κ :=
  let answer := allow limit window s.buckets call.key call.now
  { outcomes := s.outcomes ++ [(call, answer.1)], buckets := answer.2.2 }

def serveAll (calls : List (LimiterCall κ)) : Limiter κ := calls.foldl (serve limit window) {}

def granted (outcomes : List (ℚ × Bool)) : List ℚ :=
  (outcomes.filter fun outcome => outcome.2).map Prod.fst

def slidingWindow (times : List ℚ) : List (ℚ × Bool) :=
  times.foldl (fun outcomes now =>
    outcomes ++
    [(now, decide (((later (now - window) (granted outcomes)).length : Int) < limit))]) []

def ownTimes (key : κ) (calls : List (LimiterCall κ)) : List ℚ :=
  (calls.filter fun call => call.key = key).map LimiterCall.now

def ownOutcomes (key : κ) (outcomes : List (LimiterCall κ × Bool)) : List (ℚ × Bool) :=
  (outcomes.filter fun outcome => outcome.1.key = key).map fun outcome =>
    (outcome.1.now, outcome.2)

/-- Each key has an exact window of its own, no window has more allowed calls than the limit,
and a key is stored while its last window has allowed calls. -/
structure LimitsExactly (calls : List (LimiterCall κ)) : Prop where
  exact : ∀ key, ownOutcomes key (serveAll limit window calls).outcomes =
    slidingWindow limit window (ownTimes key calls)
  bounded : ∀ (key : κ) (stop : ℚ), (((granted (slidingWindow limit window
    (ownTimes key calls))).filter fun t => stop - window < t ∧ t ≤ stop).length : Int) ≤ max limit 0
  stored : ∀ call before, calls = before ++ [call] → ∀ key,
    key ∈ (serveAll limit window calls).buckets.keys ↔
      ∃ t ∈ granted (slidingWindow limit window (ownTimes key calls)), call.now - window < t

variable {limit window} {key : κ} {calls : List (LimiterCall κ)} {cutoff now : ℚ} {items : List ℚ}

theorem later_append (cutoff : ℚ) (items more : List ℚ) :
    later cutoff (items ++ more) = later cutoff items ++ later cutoff more := List.filter_append ..

theorem later_of_le {first : ℚ} (le : first ≤ cutoff) :
    later cutoff (later first items) = later cutoff items := by
  rw [later, later, List.filter_filter]
  refine List.filter_congr fun item _ => ?_
  by_cases after : cutoff < item
  · simp [after, lt_of_le_of_lt le after]
  · simp [after]

@[simp] theorem granted_true : granted [(now, true)] = [now] := rfl

@[simp] theorem granted_false : granted [(now, false)] = [] := rfl

theorem granted_append (outcomes more : List (ℚ × Bool)) :
    granted (outcomes ++ more) = granted outcomes ++ granted more := by
  simp [granted]

theorem slidingWindow_concat (times : List ℚ) (now : ℚ) :
    slidingWindow limit window (times ++ [now]) =
      slidingWindow limit window times ++ [(now, decide (((later (now - window)
        (granted (slidingWindow limit window times))).length : Int) < limit))] :=
  List.foldl_append

/-- In no window more calls are allowed than the limit. -/
theorem slidingWindow_bounded (times : List ℚ) (stop : ℚ) :
    (((granted (slidingWindow limit window times)).filter
      fun t => stop - window < t ∧ t ≤ stop).length : Int) ≤ max limit 0 := by
  induction times using List.reverseRecOn with
  | nil => exact le_max_right _ _
  | append_singleton times now ih =>
    rw [slidingWindow_concat, granted_append, List.filter_append, List.length_append]
    by_cases fits : ((later (now - window)
        (granted (slidingWindow limit window times))).length : Int) < limit
    · rw [decide_eq_true fits, granted_true]
      by_cases inside : stop - window < now ∧ now ≤ stop
      · have sub : ((granted (slidingWindow limit window times)).filter
            fun t => stop - window < t ∧ t ≤ stop).length ≤
            (later (now - window) (granted (slidingWindow limit window times))).length := by
          refine (List.monotone_filter_right _ fun t within => ?_).length_le
          obtain ⟨after, _⟩ := of_decide_eq_true within
          exact decide_eq_true ((sub_le_sub_right inside.2 window).trans_lt after)
        rw [List.filter_singleton, decide_eq_true inside, cond_true, List.length_singleton]
        omega
      · rw [List.filter_singleton, decide_eq_false inside]
        exact ih
    · rw [decide_eq_false fits, granted_false]
      exact ih

theorem bucket_store (key other : κ) (items : List ℚ) :
    bucket (if items = [] then buckets.erase key else buckets.set key items) other =
      if other = key then items else bucket buckets other := by
  split
  · rename_i empty
    rw [bucket, OrderedDict.get_erase, empty]
    split
    · rfl
    · rfl
  · rw [bucket, OrderedDict.get_set]
    split
    · rfl
    · rfl

theorem bucket_allow (key other : κ) (now : ℚ) :
    bucket (allow limit window buckets key now).2.2 other = later (now - window)
      (bucket buckets other ++
        granted (if key = other then [(now, (allow limit window buckets key now).1)] else [])) := by
  simp only [allow, bucket_compact, bucket_store]
  by_cases own : other = key
  · subst own
    rw [if_pos rfl, if_pos rfl]
    by_cases fits : ((later (now - window) (bucket buckets other)).length : Int) < limit
    · rw [decide_eq_true fits, granted_true, if_pos rfl, later_append, later_later, later_append]
    · rw [decide_eq_false fits, granted_false, if_neg (by decide), later_later, List.append_nil]
  · rw [if_neg own, if_neg (Ne.symm own)]
    exact congrArg (later _) (List.append_nil _).symm

theorem mem_keys_compact (d : OrderedDict κ (List ℚ)) (cutoff : ℚ) (key : κ) :
    key ∈ (compact d cutoff).keys ↔ bucket (compact d cutoff) key ≠ [] := by
  rw [OrderedDict.mem_keys, bucket, compact, OrderedDict.get_filterValues]
  cases found : ((d.mapValues fun _ items => later cutoff items).get key) with
  | none => exact ⟨fun none => absurd none (by decide), fun other => absurd rfl other⟩
  | some items =>
    cases items with
    | nil => exact ⟨fun none => absurd none (by decide), fun other => absurd rfl other⟩
    | cons item rest => exact ⟨fun _ => List.cons_ne_nil _ _, fun _ => rfl⟩

theorem serveAll_concat (calls : List (LimiterCall κ)) (call : LimiterCall κ) :
    serveAll limit window (calls ++ [call]) =
      serve limit window (serveAll limit window calls) call :=
  List.foldl_append

theorem ownOutcomes_concat (key : κ) (outcomes : List (LimiterCall κ × Bool))
    (call : LimiterCall κ) (allowed : Bool) :
    ownOutcomes key (outcomes ++ [(call, allowed)]) =
      ownOutcomes key outcomes ++ if call.key = key then [(call.now, allowed)] else [] := by
  by_cases own : call.key = key
  · simp [ownOutcomes, own]
  · simp [ownOutcomes, own]

theorem ownTimes_concat (key : κ) (calls : List (LimiterCall κ)) (call : LimiterCall κ) :
    ownTimes key (calls ++ [call]) =
      ownTimes key calls ++ if call.key = key then [call.now] else [] := by
  by_cases own : call.key = key
  · simp [ownTimes, own]
  · simp [ownTimes, own]

theorem bucket_serveAll {stop : ℚ} (passed : ∀ call ∈ calls, call.now ≤ stop) (key : κ) :
    later (stop - window) (bucket (serveAll limit window calls).buckets key) =
      later (stop - window) (granted (ownOutcomes key (serveAll limit window calls).outcomes)) := by
  induction calls using List.reverseRecOn with
  | nil => rfl
  | append_singleton calls call ih =>
    have before := ih fun earlier mem => passed earlier (List.mem_append_left _ mem)
    have le : call.now - window ≤ stop - window :=
      sub_le_sub_right (passed call (List.mem_append_right _ (List.mem_singleton_self _))) window
    rw [serveAll_concat, serve, ownOutcomes_concat, bucket_allow, later_of_le le, later_append,
      before, granted_append, later_append]

/-- Other keys and the moments of pruning do not influence what is allowed. -/
theorem outcomes_serveAll (sorted : (calls.map LimiterCall.now).Pairwise (· ≤ ·)) (key : κ) :
    ownOutcomes key (serveAll limit window calls).outcomes =
      slidingWindow limit window (ownTimes key calls) := by
  induction calls using List.reverseRecOn with
  | nil => rfl
  | append_singleton calls call ih =>
    rw [List.map_append, List.pairwise_append] at sorted
    obtain ⟨sorted, _, passed⟩ := sorted
    have before := ih sorted
    rw [serveAll_concat, serve, ownOutcomes_concat, ownTimes_concat, before]
    by_cases own : call.key = key
    · subst own
      have found := @bucket_serveAll κ _ limit window calls call.now
        (fun earlier mem => passed _ (List.mem_map_of_mem mem) _ (List.mem_singleton_self _))
        call.key
      rw [if_pos rfl, if_pos rfl, slidingWindow_concat, ← before, ← found]
      rfl
    · rw [if_neg own, if_neg own, List.append_nil, List.append_nil]

theorem limiter_exact (limit : Int) (window : ℚ) {calls : List (LimiterCall κ)}
    (sorted : (calls.map LimiterCall.now).Pairwise (· ≤ ·)) :
    LimitsExactly limit window calls where
  exact := outcomes_serveAll sorted
  bounded _ stop := slidingWindow_bounded _ stop
  stored call before split key := by
    have all : ∀ earlier ∈ calls, earlier.now ≤ call.now := by
      intro earlier mem
      rw [split, List.map_append, List.pairwise_append] at sorted
      rw [split] at mem
      cases List.mem_append.mp mem with
      | inl mem => exact sorted.2.2 _ (List.mem_map_of_mem mem) _ (List.mem_singleton_self _)
      | inr mem => rw [List.mem_singleton.mp mem]
    have found := @bucket_serveAll κ _ limit window calls call.now all key
    have kept : (serveAll limit window calls).buckets = (allow limit window
        (serveAll limit window before).buckets call.key call.now).2.2 := by
      rw [split, serveAll_concat, serve]
    rw [outcomes_serveAll sorted, kept, bucket_allow, later_later, ← bucket_allow] at found
    rw [kept]
    refine (mem_keys_compact _ _ _).trans ?_
    refine (not_congr (Eq.congr_left found)).trans ?_
    rw [later, List.filter_eq_nil_iff]
    simp

theorem limiter_exact_of_three :
    (([⟨'a', 0⟩, ⟨'b', 4⟩, ⟨'a', 6⟩] : List (LimiterCall Char)).map LimiterCall.now).Pairwise
        (· ≤ ·) ∧
      LimitsExactly 1 5 ([⟨'a', 0⟩, ⟨'b', 4⟩, ⟨'a', 6⟩] : List (LimiterCall Char)) :=
  ⟨by decide +kernel, limiter_exact 1 5 (by decide +kernel)⟩

end AgentHive.RateLimit
