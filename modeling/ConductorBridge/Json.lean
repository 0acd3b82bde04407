import Mathlib.Data.List.Basic

/-!
# Decoded JSON values

`json.loads` hands the bridge Python values: `None`, `bool`, `int`, `float`, `str`, `list`
and `dict`. The bridge reads them with a few Python operations (`.get`, `[...]`, `==`,
`+=` and `for` loops), each of which raises on the values it does not apply to. Objects
keep their keys in insertion order, as a Python `dict` does.
-/

namespace ConductorBridge

/-- The exceptions the bridge's code can raise or meet. -/
inductive PyException where
  /-- `json.loads` on text that is not JSON. -/
  | jsonDecodeError
  /-- `json.loads` on an integer literal past CPython's digit limit. -/
  | valueError
  /-- `json.loads` on nesting deeper than the interpreter's stack. -/
  | recursionError
  /-- `.get` on a value that is not a `dict`. -/
  | attributeError
  | keyError (key : String)
  /-- `+`, `[...]`, hashing or iteration on a value that does not support it. -/
  | typeError
  /-- An `int` too large to become a `float`. -/
  | overflowError
  /-- `profiles[0]` on an empty profile list. -/
  | indexError
  /-- A chat message the transport did not deliver. -/
  | telegramError
  /-- `subprocess.run(..., text=True)` on output that is not valid text. -/
  | unicodeDecodeError
  deriving DecidableEq, Repr

/-- A value decoded by `json.loads`. -/
inductive Json where
  | null
  | bool (value : Bool)
  | int (value : Int)
  | float (value : Float)
  | str (value : String)
  | arr (items : List Json)
  | obj (fields : List (String × Json))
  deriving Inhabited, Repr

@[simp] theorem ok_bind {ε α β : Type} (value : α) (next : α → Except ε β) :
    (Except.ok value : Except ε α) >>= next = next value := rfl

namespace Json

/-- `value.get(key, default)`. -/
def get (value : Json) (key : String) (default : Json) : Except PyException Json :=
  match value with
  | .obj fields => .ok ((fields.lookup key).getD default)
  | _ => .error .attributeError

/-- `value[key]` with a string key. -/
def getItem (value : Json) (key : String) : Except PyException Json :=
  match value with
  | .obj fields =>
    match fields.lookup key with
    | some item => .ok item
    | none => .error (.keyError key)
  | _ => .error .typeError

/-- `value == s` for a string `s`: only an equal `str` compares equal. -/
def eqStr (value : Json) (s : String) : Bool :=
  match value with
  | .str t => t == s
  | _ => false

/-- `value == 0`: `0`, `False`, `0.0` and `-0.0` compare equal to `0`. -/
def eqZero : Json → Bool
  | .int n => n == 0
  | .bool b => !b
  | .float x => x == 0
  | _ => false

/-- The items a `for` loop over `value` visits: a list's items, a dict's keys, a string's
code points; other values are not iterable. -/
def iter : Json → Except PyException (List Json)
  | .arr items => .ok items
  | .obj fields => .ok (fields.map fun field => .str field.1)
  | .str s => .ok (s.data.map fun c => .str (String.singleton c))
  | _ => .error .typeError

/-- The value of an `int` or a `bool` as a Python integer. -/
def asInt? : Json → Option Int
  | .int n => some n
  | .bool b => some (if b then 1 else 0)
  | _ => none

/-- Python's `float(n)` for an integer: `OverflowError` from the first integer that rounds
past the largest finite double. -/
def intToFloat (n : Int) : Except PyException Float :=
  if n.natAbs < Nat.pow 2 1024 - Nat.pow 2 970 then .ok (Float.ofInt n) else .error .overflowError

/-- The value of a number as a Python `float`, `none` for a value that is not a number. -/
def asFloat? : Json → Option (Except PyException Float)
  | .float x => some (.ok x)
  | value => value.asInt?.map intToFloat

/-- `a + b` on decoded values. -/
def add : Json → Json → Except PyException Json
  | .str a, .str b => .ok (.str (a ++ b))
  | .arr a, .arr b => .ok (.arr (a ++ b))
  | a, b =>
    match a.asInt?, b.asInt? with
    | some m, some n => .ok (.int (m + n))
    | _, _ =>
      match a.asFloat?, b.asFloat? with
      | some x, some y => do pure (.float ((← x) + (← y)))
      | _, _ => .error .typeError

@[simp] theorem get_obj (fields : List (String × Json)) (key : String) (default : Json) :
    (obj fields).get key default = .ok ((fields.lookup key).getD default) := rfl

@[simp] theorem add_int (m n : Int) : (int m).add (int n) = .ok (int (m + n)) := rfl

theorem get_eq_ok {value : Json} {key : String} {default item : Json}
    (found : value.get key default = .ok item) :
    ∃ fields, value = obj fields ∧ item = (fields.lookup key).getD default := by
  cases value <;> simp_all [get]

end Json

end ConductorBridge
