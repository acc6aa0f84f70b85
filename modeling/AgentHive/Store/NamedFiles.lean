import Mathlib.Data.List.Basic
import Mathlib.Logic.Function.Basic

/-!
Files under names: what a name stands for changes at once, and what a file holds is written
character by character.

A file that has lost its name can still be written by whoever has it open.
-/

structure NamedFiles (ν : Type) where
  names : ν → Option Nat
  contents : Nat → List Nat
  unused : Nat
  names_lt : ∀ {name file}, names name = some file → file < unused

namespace NamedFiles

open Function (update_of_ne update_self)

variable {ν : Type} [DecidableEq ν]

def writtenAt (text : List Nat) (place c : Nat) : List Nat :=
  text.take place ++ List.replicate (place - text.length) 0 ++ c :: text.drop (place + 1)

def read (s : NamedFiles ν) (name : ν) : Option (List Nat) := (s.names name).map s.contents

theorem names_lt_create (s : NamedFiles ν) {name other : ν} {file : Nat}
    (named : Function.update s.names name (some s.unused) other = some file) :
    file < s.unused + 1 := by
  by_cases same : other = name
  · rw [same, update_self] at named
    rw [← Option.some.inj named]
    exact Nat.lt_succ_self _
  · rw [update_of_ne same] at named
    exact Nat.lt_succ_of_lt (s.names_lt named)

def openEmpty (s : NamedFiles ν) (name : ν) : Nat × NamedFiles ν :=
  match s.names name with
  | some file => (file, { s with contents := Function.update s.contents file [] })
  | none =>
    (s.unused,
      { names := Function.update s.names name (some s.unused)
        contents := Function.update s.contents s.unused []
        unused := s.unused + 1
        names_lt := s.names_lt_create })

def write (s : NamedFiles ν) (file place c : Nat) : NamedFiles ν :=
  { s with contents := Function.update s.contents file (writtenAt (s.contents file) place c) }

theorem names_lt_rename (s : NamedFiles ν) {source target other : ν} {file moved : Nat}
    (there : s.names source = some moved)
    (named : Function.update (Function.update s.names source none) target (some moved) other =
      some file) : file < s.unused := by
  by_cases ofTarget : other = target
  · rw [ofTarget, update_self] at named
    rw [← Option.some.inj named]
    exact s.names_lt there
  · rw [update_of_ne ofTarget] at named
    by_cases ofSource : other = source
    · rw [ofSource, update_self] at named
      cases named
    · rw [update_of_ne ofSource] at named
      exact s.names_lt named

def rename (s : NamedFiles ν) (source target : ν) : Bool × NamedFiles ν :=
  match there : s.names source with
  | none => (false, s)
  | some moved =>
    (true,
      { s with
        names := Function.update (Function.update s.names source none) target (some moved)
        names_lt := s.names_lt_rename there })

variable {s : NamedFiles ν} {name : ν} {file : Nat}

theorem writtenAt_end (text : List Nat) (c : Nat) : writtenAt text text.length c = text ++ [c] := by
  rw [writtenAt, List.take_length, Nat.sub_self, List.drop_of_length_le (Nat.le_succ _)]
  simp

theorem openEmpty_named (s : NamedFiles ν) (name : ν) :
    (s.openEmpty name).2.names name = some (s.openEmpty name).1 := by
  unfold openEmpty
  split
  · rename_i file there
    exact there
  · exact update_self _ _ _

theorem openEmpty_contents (s : NamedFiles ν) (name : ν) :
    (s.openEmpty name).2.contents (s.openEmpty name).1 = [] := by
  unfold openEmpty
  split
  · exact update_self _ _ _
  · exact update_self _ _ _

theorem openEmpty_other (s : NamedFiles ν) {name other : ν} (apart : other ≠ name) :
    (s.openEmpty name).2.names other = s.names other := by
  unfold openEmpty
  split
  · rfl
  · exact update_of_ne apart _ _

theorem write_end {text : List Nat} (holds : s.contents file = text) (c : Nat) :
    (s.write file text.length c).contents file = text ++ [c] := by
  unfold write
  dsimp only
  rw [update_self, holds, writtenAt_end]

theorem rename_named {source target : ν} (there : s.names source = some file) :
    (s.rename source target).1 = true ∧ (s.rename source target).2.names target = some file ∧
      (s.rename source target).2.contents = s.contents := by
  unfold rename
  split
  · rename_i missing
    rw [there] at missing
    cases missing
  · rename_i moved found
    rw [there] at found
    cases found
    exact ⟨rfl, update_self _ _ _, rfl⟩

end NamedFiles
