import AgentHive.Store.OrderedDict
import Mathlib.Order.Basic

/-!
Instants collected under keys, of which only those after a cutoff are kept.
-/

namespace OrderedDict

variable {κ β : Type}

def filterValues (d : OrderedDict κ β) (kept : β → Bool) : OrderedDict κ β where
  entries := d.entries.filter fun e => kept e.2
  distinct := d.distinct.sublist (List.filter_sublist.map Prod.fst)

theorem get_filterValues [DecidableEq κ] (d : OrderedDict κ β) (kept : β → Bool) (k : κ) :
    (d.filterValues kept).get k = (d.get k).filter kept := by
  cases stored : d.get k with
  | none =>
    rw [Option.filter_none, Option.eq_none_iff_forall_ne_some]
    intro v found
    have mem := (List.mem_filter.mp (mem_entries_of_get found)).1
    rw [get_of_mem_entries mem] at stored
    cases stored
  | some v =>
    have mem := mem_entries_of_get stored
    cases keep : kept v with
    | true =>
      rw [Option.filter_some_pos keep]
      exact get_of_mem_entries (List.mem_filter.mpr ⟨mem, keep⟩)
    | false =>
      rw [Option.filter_some_neg (by simp [keep]), Option.eq_none_iff_forall_ne_some]
      intro w found
      obtain ⟨listed, kept_⟩ := List.mem_filter.mp (mem_entries_of_get found)
      have same : some v = some w := stored.symm.trans (get_of_mem_entries listed)
      cases same
      rw [keep] at kept_
      cases kept_

end OrderedDict

namespace Buckets

variable {κ τ : Type} [DecidableEq κ] (d : OrderedDict κ (List τ))

def bucket (k : κ) : List τ := (d.get k).getD []

def reset (keys : List κ) : OrderedDict κ (List τ) :=
  keys.foldl OrderedDict.erase d

theorem bucket_reset (keys : List κ) (k : κ) :
    bucket (reset d keys) k = if k ∈ keys then [] else bucket d k := by
  induction keys generalizing d with
  | nil => rfl
  | cons l rest ih =>
    rw [reset, List.foldl_cons, ← reset, ih, bucket, OrderedDict.get_erase]
    by_cases same : k = l
    · simp [same]
    · simp [same, bucket]

variable [LT τ] [DecidableLT τ]

def later (cutoff : τ) (items : List τ) : List τ := items.filter fun item => cutoff < item

def compact (cutoff : τ) : OrderedDict κ (List τ) :=
  (d.mapValues fun _ items => later cutoff items).filterValues fun items => !items.isEmpty

def record (keys : List κ) (cutoff now : τ) : OrderedDict κ (List τ) :=
  compact (keys.foldl (fun d k => d.set k (later cutoff (bucket d k) ++ [now])) d) cutoff

omit [DecidableEq κ] in
theorem later_later (cutoff : τ) (items : List τ) :
    later cutoff (later cutoff items) = later cutoff items := by
  simp [later, List.filter_filter]

theorem bucket_compact (cutoff : τ) (k : κ) :
    bucket (compact d cutoff) k = later cutoff (bucket d k) := by
  rw [bucket, compact, OrderedDict.get_filterValues, OrderedDict.get_mapValues, bucket]
  cases d.get k with
  | none => rfl
  | some items =>
    rw [Option.map_some, Option.getD_some]
    cases kept : later cutoff items with
    | nil => rfl
    | cons item rest => rfl

theorem bucket_record {keys : List κ} (distinct : keys.Nodup) {cutoff now : τ} (live : cutoff < now)
    (k : κ) :
    bucket (record d keys cutoff now) k =
      later cutoff (bucket d k) ++ if k ∈ keys then [now] else [] := by
  have added : ∀ (keys : List κ) (d : OrderedDict κ (List τ)), keys.Nodup →
      bucket (keys.foldl (fun d k => d.set k (later cutoff (bucket d k) ++ [now])) d) k =
        if k ∈ keys then later cutoff (bucket d k) ++ [now] else bucket d k := by
    intro keys
    induction keys with
    | nil => exact fun _ _ => rfl
    | cons l rest ih =>
      intro d distinct
      obtain ⟨new, distinct⟩ := List.nodup_cons.mp distinct
      rw [List.foldl_cons, ih _ distinct, bucket, OrderedDict.get_set]
      by_cases same : k = l
      · subst same
        simp [new]
      · simp [same, bucket]
  rw [record, bucket_compact, added keys d distinct]
  split
  · rw [later, List.filter_append, ← later, later_later]
    simp [live]
  · rw [List.append_nil]

end Buckets
