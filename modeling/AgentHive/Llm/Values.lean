import Mathlib.Data.List.Basic

/-!
Python values as the model-call modules use them: optional keys that may be
empty, free-form dictionaries, and the exceptions that cross the gateway.
-/

namespace AgentHive

abbrev UUID := Nat

/-- Python's test `if key` on an optional string. -/
def truthy : Option String → Bool
  | some s => s != ""
  | none => false

def pyOr (a b : Option String) : Option String := if truthy a then a else b

def isIn (key : Option String) (keys : List String) : Bool :=
  match key with
  | some k => keys.contains k
  | none => false

structure RouteAttempt where
  attempt : Nat
  providerKey : String
  modelKey : String
  deploymentId : UUID
  routingKey : String
  status : String
  errorCode : Option String := none
  errorMessage : Option String := none
  message : Option String := none
  latencyMs : Option Int := none
deriving DecidableEq

inductive PyValue
  | none
  | bool (b : Bool)
  | int (n : Int)
  | str (s : String)
  | uuid (u : UUID)
  | strs (xs : List String)
  | uuids (xs : List UUID)
  | attempts (xs : List RouteAttempt)
deriving DecidableEq

def PyValue.truthy : PyValue → Bool
  | .none => false
  | .bool b => b
  | .int n => n != 0
  | .str s => s != ""
  | .uuid _ => true
  | .strs xs => !xs.isEmpty
  | .uuids xs => !xs.isEmpty
  | .attempts xs => !xs.isEmpty

def PyValue.ofOption : Option String → PyValue
  | some s => .str s
  | Option.none => .none

abbrev Dict := List (String × PyValue)

/-- `d.get(key)`, with `None` for a missing key. -/
def Dict.get (d : Dict) (key : String) : PyValue := (d.lookup key).getD .none

def Dict.set : Dict → String → PyValue → Dict
  | [], key, value => [(key, value)]
  | (k, v) :: rest, key, value =>
    if k == key then (k, value) :: rest else (k, v) :: Dict.set rest key value

def Dict.merge (d other : Dict) : Dict :=
  other.foldl (fun d entry => d.set entry.1 entry.2) d

inductive HttpDetail
  | text (s : String)
  | fields (d : Dict)
deriving DecidableEq

/-- Exceptions by the classes the handlers tell apart. `cancelled` and
`generatorExit` are the ones outside `Exception`. -/
inductive Exc
  | http (statusCode : Nat) (detail : HttpDetail)
  | os (className message : String)
  | sqlAlchemy (className message : String)
  | attribute (message : String)
  | other (className message : String)
  | cancelled
  | generatorExit
deriving DecidableEq

def Exc.className : Exc → String
  | .http _ _ => "HTTPException"
  | .os c _ => c
  | .sqlAlchemy c _ => c
  | .attribute _ => "AttributeError"
  | .other c _ => c
  | .cancelled => "CancelledError"
  | .generatorExit => "GeneratorExit"

def Exc.isException : Exc → Bool
  | .cancelled | .generatorExit => false
  | _ => true

def Exc.isHttp : Exc → Bool
  | .http _ _ => true
  | _ => false

inductive Fault
  | os (className message : String)
  | sqlAlchemy (className message : String)
  | attribute (message : String)
  | other (className message : String)
  | cancelled
deriving DecidableEq

def Fault.toExc : Fault → Exc
  | .os c m => .os c m
  | .sqlAlchemy c m => .sqlAlchemy c m
  | .attribute m => .attribute m
  | .other c m => .other c m
  | .cancelled => .cancelled

def Fault.isStorageError : Fault → Bool
  | .os _ _ | .sqlAlchemy _ _ | .attribute _ => true
  | .other _ _ | .cancelled => false

theorem truthy_iff {key : Option String} : truthy key = true ↔ ∃ k, key = some k ∧ k ≠ "" := by
  cases key <;> simp [truthy]

theorem pyOr_of_truthy {a : Option String} (h : truthy a = true) (b : Option String) :
    pyOr a b = a := by
  simp [pyOr, h]

theorem pyOr_of_not_truthy {a : Option String} (h : truthy a = false) (b : Option String) :
    pyOr a b = b := by
  simp [pyOr, h]

theorem pyOr_pyOr (a b : Option String) : pyOr a (pyOr a b) = pyOr a b := by
  cases h : truthy a <;> simp [pyOr, h]

theorem isIn_iff {key : Option String} {keys : List String} :
    isIn key keys = true ↔ ∃ k, key = some k ∧ k ∈ keys := by
  cases key <;> simp [isIn]

theorem Fault.toExc_isHttp (f : Fault) : f.toExc.isHttp = false := by
  cases f <;> rfl

end AgentHive
