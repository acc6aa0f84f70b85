import Mathlib.Data.List.Nodup
import Mathlib.Logic.Function.Basic

/-!
Keys that are closed item by item.
-/

namespace Process

inductive Stand (κ β : Type)
  | idle
  | spare (key : κ) (items : List β)
  | closing (key : κ) (rest : List β)
deriving DecidableEq

namespace Stand

variable {κ β : Type}

def key? : Stand κ β → Option κ
  | idle => none
  | spare key _ | closing key _ => some key

def items : Stand κ β → List β
  | idle => []
  | spare _ items => items
  | closing _ rest => rest

def Held (issued : List κ) (stand : Stand κ β) : Prop := ∀ k, stand.key? = some k → k ∈ issued

def Ahead (closed : List (κ × β)) (stand : Stand κ β) : Prop :=
  ∀ k, stand.key? = some k → ∀ item ∈ stand.items, (k, item) ∉ closed

def isClosing : Stand κ β → Bool
  | closing _ (_ :: _) => true
  | _ => false

end Stand

structure Closing (ι κ β : Type) where
  issued : List κ
  key : κ
  items : List β
  isOpen : Bool
  stand : ι → Stand κ β
  closed : List (κ × β)

namespace Closing

variable {ι κ β : Type} [DecidableEq ι]

inductive Step : Closing ι κ β → Closing ι κ β → Prop
  | keep {s s' : Closing ι κ β} (same : s' = s) : Step s s'
  | issue {s s' : Closing ι κ β} (i : ι) (key : κ) (items : List β) (idle : s.stand i = .idle)
      (fresh : key ∉ s.issued) (distinct : items.Nodup)
      (next : s' = { s with
        issued := key :: s.issued
        stand := Function.update s.stand i (.spare key items) }) : Step s s'
  | closeEmpty {s s' : Closing ι κ β} (none : s.items = [])
    (next : s' = { s with isOpen := false }) :
      Step s s'
  | closeFirst {s s' : Closing ι κ β} (i : ι) (item : β) (rest : List β)
      (idle : s.stand i = .idle) (isOpen : s.isOpen = true) (first : s.items = item :: rest)
      (next : s' = { s with
        isOpen := false
        stand := Function.update s.stand i (.closing s.key rest)
        closed := s.closed ++ [(s.key, item)] }) : Step s s'
  | closeNext {s s' : Closing ι κ β} (i : ι) (key : κ) (item : β) (rest : List β)
      (begun : s.stand i = .closing key (item :: rest))
      (next : s' = { s with
        stand := Function.update s.stand i (.closing key rest)
        closed := s.closed ++ [(key, item)] }) : Step s s'
  | renew {s s' : Closing ι κ β} (i : ι) (key : κ) (items : List β)
      (spare : s.stand i = .spare key items) (isClosed : s.isOpen = false)
      (next : s' = { s with
        key := key
        items := items
        isOpen := true
        stand := Function.update s.stand i .idle }) : Step s s'

/-- What every step keeps. A key that somebody has is nobody else's, and the
items that go with it are not closed. -/
structure Sound (s : Closing ι κ β) : Prop where
  known : s.key ∈ s.issued
  distinct : s.items.Nodup
  recorded : ∀ row ∈ s.closed, row.1 ∈ s.issued
  once : s.closed.Nodup
  held : ∀ i, (s.stand i).Held s.issued
  alone : ∀ i j k, (s.stand i).key? = some k → (s.stand j).key? = some k → i = j
  apart : ∀ i, (s.stand i).items.Nodup
  ahead : ∀ i, (s.stand i).Ahead s.closed
  unforced : ∀ i items, s.stand i ≠ .spare s.key items
  untouched : s.isOpen = true →
    (∀ item ∈ s.items, (s.key, item) ∉ s.closed) ∧ ∀ i, (s.stand i).key? ≠ some s.key
  whole : s.isOpen = false → ∀ item ∈ s.items,
    (s.key, item) ∈ s.closed ∨ ∃ i, ∃ rest, s.stand i = .closing s.key rest ∧ item ∈ rest

namespace Sound

variable {s : Closing ι κ β} {i : ι}

theorem forall_stand {P : ι → Stand κ β → Prop} (stand : ι → Stand κ β) (i : ι) (new : Stand κ β)
    (own : P i new) (others : ∀ j ≠ i, P j (stand j)) :
    ∀ j, P j (Function.update stand i new j) := by
  intro j
  by_cases same : j = i
  · subst same
    rwa [Function.update_self]
  · rw [Function.update_of_ne same]
    exact others j same

theorem alone_update (h : Sound s) (new : Stand κ β)
    (mine : ∀ k, new.key? = some k → ∀ j ≠ i, (s.stand j).key? ≠ some k) :
    ∀ j l k, (Function.update s.stand i new j).key? = some k →
      (Function.update s.stand i new l).key? = some k → j = l := by
  intro j l k first second
  by_cases left : j = i
  · by_cases right : l = i
    · rw [left, right]
    · rw [left, Function.update_self] at first
      rw [Function.update_of_ne right] at second
      exact absurd second (mine k first l right)
  · rw [Function.update_of_ne left] at first
    by_cases right : l = i
    · rw [right, Function.update_self] at second
      exact absurd first (mine k second j left)
    · rw [Function.update_of_ne right] at second
      exact h.alone j l k first second

theorem issue (h : Sound s) {key : κ} {items : List β} (idle : s.stand i = .idle)
    (fresh : key ∉ s.issued) (distinct : items.Nodup) :
    Sound { s with
      issued := key :: s.issued
      stand := Function.update s.stand i (.spare key items) } := by
  have unheld : ∀ j, (s.stand j).key? ≠ some key := fun j has => fresh (h.held j key has)
  have apart : s.key ≠ key := fun same => fresh (same ▸ h.known)
  refine
    { known := List.mem_cons_of_mem _ h.known
      distinct := h.distinct
      recorded := fun row mem => List.mem_cons_of_mem _ (h.recorded row mem)
      once := h.once
      held := forall_stand (P := fun _ stand => stand.Held (key :: s.issued)) _ _ _ ?_
        fun j _ k has => List.mem_cons_of_mem _ (h.held j k has)
      alone := h.alone_update _ ?_
      apart := forall_stand
        (P := fun _ stand => stand.items.Nodup) _ _ _ distinct fun j _ => h.apart j
      ahead := forall_stand (P := fun _ stand => stand.Ahead s.closed) _ _ _ ?_
        fun j _ => h.ahead j
      unforced := forall_stand (P := fun _ stand => ∀ others, stand ≠ .spare s.key others) _ _ _
        ?_ fun j _ => h.unforced j
      untouched := fun isOpen => ⟨(h.untouched isOpen).1,
        forall_stand (P := fun _ stand => stand.key? ≠ some s.key) _ _ _ ?_
          fun j _ => (h.untouched isOpen).2 j⟩
      whole := ?_ }
  · intro k own
    cases own
    exact List.mem_cons_self
  · intro k own j _
    cases own
    exact unheld j
  · intro k own item _ closed
    cases own
    exact fresh (h.recorded _ closed)
  · intro others same
    cases same
    exact apart rfl
  · intro own
    cases own
    exact apart rfl
  · intro isClosed item mem
    obtain closed | ⟨j, rest, begun, left⟩ := h.whole isClosed item mem
    · exact .inl closed
    · have other : j ≠ i := by
        intro same
        rw [same, idle] at begun
        cases begun
      exact .inr ⟨j, rest, (Function.update_of_ne other _ _).trans begun, left⟩

theorem close (h : Sound s) {key : κ} {item : β} {rest : List β} {isOpen : Bool}
    (known : key ∈ s.issued) (others : ∀ j ≠ i, (s.stand j).key? ≠ some key)
    (distinct : (item :: rest).Nodup) (left : ∀ x ∈ item :: rest, (key, x) ∉ s.closed)
    (stays : isOpen = true → s.isOpen = true ∧ key ≠ s.key)
    (whole : isOpen = false → ∀ x ∈ s.items, (s.key, x) ∈ s.closed ∨
      (key = s.key ∧ x ∈ item :: rest) ∨
        ∃ j ≠ i, ∃ rest', s.stand j = .closing s.key rest' ∧ x ∈ rest') :
    Sound { s with
      isOpen := isOpen
      stand := Function.update s.stand i (.closing key rest)
      closed := s.closed ++ [(key, item)] } := by
  obtain ⟨unlisted, restDistinct⟩ := List.nodup_cons.mp distinct
  have unclosed : ∀ k x, (k, x) ∉ s.closed → (k ≠ key ∨ x ≠ item) →
      (k, x) ∉ s.closed ++ [(key, item)] := by
    intro k x before other mem
    obtain closed | last := List.mem_append.mp mem
    · exact before closed
    · cases List.mem_singleton.mp last
      exact other.elim (absurd rfl) (absurd rfl)
  refine
    { known := h.known
      distinct := h.distinct
      recorded := List.forall_mem_append.mpr ⟨h.recorded, List.forall_mem_singleton.mpr known⟩
      once := ?_
      held := forall_stand (P := fun _ stand => stand.Held s.issued) _ _ _ ?_
        fun j _ => h.held j
      alone := h.alone_update _ ?_
      apart := forall_stand
        (P := fun _ stand => stand.items.Nodup) _ _ _ restDistinct fun j _ => h.apart j
      ahead := forall_stand (P := fun _ stand => stand.Ahead (s.closed ++ [(key, item)])) _ _ _
        ?_ ?_
      unforced := forall_stand (P := fun _ stand => ∀ others, stand ≠ .spare s.key others) _ _ _
        (by intro _ same; cases same) fun j _ => h.unforced j
      untouched := ?_
      whole := ?_ }
  · refine List.nodup_append.mpr ⟨h.once, List.nodup_singleton _, ?_⟩
    intro row closed last mem same
    cases List.mem_singleton.mp mem
    exact left item List.mem_cons_self (same ▸ closed)
  · intro k own
    cases own
    exact known
  · intro k own j other
    cases own
    exact others j other
  · intro k own x mem
    cases own
    refine unclosed _ x (left x (List.mem_cons_of_mem _ mem)) (.inr ?_)
    intro same
    exact unlisted (same ▸ mem)
  · intro j other k has x mem
    refine unclosed k x (h.ahead j k has x mem) (.inl ?_)
    intro same
    exact others j other (same ▸ has)
  · intro opened
    obtain ⟨before, apart⟩ := stays opened
    obtain ⟨fresh, unheld⟩ := h.untouched before
    refine ⟨fun x mem => unclosed _ x (fresh x mem) (.inl (Ne.symm apart)),
      forall_stand (P := fun _ stand => stand.key? ≠ some s.key) _ _ _ ?_ fun j _ => unheld j⟩
    intro own
    cases own
    exact apart rfl
  · intro isClosed x mem
    obtain closed | ⟨same, now⟩ | ⟨j, other, rest', begun, later⟩ := whole isClosed x mem
    · exact .inl (List.mem_append_left _ closed)
    · subst same
      obtain first | later := List.mem_cons.mp now
      · rw [first]
        exact .inl (List.mem_append_right _ List.mem_cons_self)
      · exact .inr ⟨i, rest, Function.update_self .., later⟩
    · exact .inr ⟨j, rest', (Function.update_of_ne other _ _).trans begun, later⟩

theorem renew (h : Sound s) {key : κ} {items : List β} (spare : s.stand i = .spare key items) :
    Sound { s with
      key := key
      items := items
      isOpen := true
      stand := Function.update s.stand i .idle } := by
  have has : (s.stand i).key? = some key := by rw [spare]; rfl
  have distinct := h.apart i
  rw [spare] at distinct
  have unheld : ∀ j ≠ i, (s.stand j).key? ≠ some key :=
    fun j other held => other (h.alone j i key held has)
  have idle : ∀ k, (Stand.idle : Stand κ β).key? ≠ some k := by
    intro k own
    cases own
  refine
    { known := h.held i key has
      distinct := distinct
      recorded := h.recorded
      once := h.once
      held := forall_stand (P := fun _ stand => stand.Held s.issued) _ _ _ ?_
        fun j _ => h.held j
      alone := h.alone_update _ fun k own => absurd own (idle k)
      apart := forall_stand
        (P := fun _ stand => stand.items.Nodup) _ _ _ List.nodup_nil fun j _ => h.apart j
      ahead := forall_stand (P := fun _ stand => stand.Ahead s.closed) _ _ _ ?_
        fun j _ => h.ahead j
      unforced := forall_stand (P := fun _ stand => ∀ others, stand ≠ .spare key others) _ _ _
        ?_ ?_
      untouched := fun _ => ⟨?_, forall_stand (P := fun _ stand => stand.key? ≠ some key) _ _ _
        (idle key) unheld⟩
      whole := ?_ }
  · intro k own
    exact absurd own (idle k)
  · intro k own
    exact absurd own (idle k)
  · intro others same
    cases same
  · intro j other others same
    exact unheld j other (by rw [same]; rfl)
  · intro item mem
    exact h.ahead i key has item (by rwa [spare])
  · intro isClosed
    cases isClosed

end Sound

theorem Step.sound {s s' : Closing ι κ β} (step : Step s s') (h : Sound s) : Sound s' := by
  cases step with
  | keep same => exact same ▸ h
  | issue i key items idle fresh distinct next =>
    subst next
    exact h.issue idle fresh distinct
  | closeEmpty none next =>
    subst next
    exact
      { h with
        untouched := by intro isOpen; cases isOpen
        whole := by intro _ item mem; rw [none] at mem; cases mem }
  | closeFirst i item rest idle isOpen first next =>
    subst next
    obtain ⟨fresh, unheld⟩ := h.untouched isOpen
    have distinct := h.distinct
    rw [first] at fresh distinct
    refine h.close h.known (fun j _ => unheld j) distinct fresh (by intro opened; cases opened) ?_
    intro _ x mem
    rw [first] at mem
    exact .inr (.inl ⟨rfl, mem⟩)
  | closeNext i key item rest begun next =>
    subst next
    have has : (s.stand i).key? = some key := by rw [begun]; rfl
    have distinct := h.apart i
    have left := h.ahead i key has
    rw [begun] at distinct left
    refine h.close (h.held i key has) ?_ distinct left ?_ ?_
    · intro j other held
      exact other (h.alone j i key held has)
    · intro opened
      refine ⟨opened, ?_⟩
      intro same
      exact (h.untouched opened).2 i (same ▸ has)
    · intro isClosed x mem
      obtain closed | ⟨j, rest', closing, later⟩ := h.whole isClosed x mem
      · exact .inl closed
      · by_cases same : j = i
        · subst same
          rw [begun] at closing
          cases closing
          exact .inr (.inl ⟨rfl, later⟩)
        · exact .inr (.inr ⟨j, same, rest', closing, later⟩)
  | renew i key items spare isClosed next =>
    subst next
    exact h.renew spare

omit [DecidableEq ι] in
theorem Sound.closed_whole {s : Closing ι κ β} (h : Sound s) (isClosed : s.isOpen = false)
    (settled : ∀ i, (s.stand i).isClosing = false) {item : β} (mem : item ∈ s.items) :
    (s.key, item) ∈ s.closed := by
  obtain closed | ⟨i, rest, begun, left⟩ := h.whole isClosed item mem
  · exact closed
  · have isOver := settled i
    rw [begun] at isOver
    cases rest with
    | nil => cases left
    | cons first later => cases isOver

end Closing
end Process
