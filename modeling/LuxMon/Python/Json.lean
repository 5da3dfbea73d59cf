import LuxMon.Python.Nearest

/-!
# JSON values as Python sees them

What `json.loads` returns and `json.dumps` takes: `None`, booleans, integers,
floats, strings, lists and dicts with string keys.  The operations are those
Python applies to a value of unknown shape, with the exceptions it raises.
-/

namespace Python

inductive Json
  | null
  | bool (b : Bool)
  | int (n : ℤ)
  | float (x : PyFloat)
  | str (s : String)
  | arr (xs : List Json)
  | obj (fields : List (String × Json))

/-- `s.encode("utf-8")` does not raise.  A Python string may hold characters that UTF-8 does not have, the
lone surrogates; `encodes` tells them from the others. -/
def encodesText (encodes : Char → Bool) (s : String) : Bool := s.toList.all encodes

namespace Json

/-- `value == "s"` for a string constant. -/
def isStr (s : String) : Json → Bool
  | .str t => t == s
  | _ => false

/-- `value is None`. -/
def isNone : Json → Bool
  | .null => true
  | _ => false

/-- `bool(value)`. -/
def truthy : Json → Bool
  | .null => false
  | .bool b => b
  | .int n => n != 0
  | .float x => x.truthy
  | .str s => s != ""
  | .arr xs => !xs.isEmpty
  | .obj fs => !fs.isEmpty

/-- `value or default`. -/
def orElse (value default : Json) : Json := if value.truthy then value else default

/-- `value.get(key, default)`; only a dict has `get`. -/
def get (j : Json) (key : String) (default : Json) : Except PyErr Json :=
  match j with
  | .obj fs => .ok ((fs.lookup key).getD default)
  | _ => .error .attributeError

/-- The items of `for x in value`: a dict yields its keys, a string its characters. -/
def items : Json → Except PyErr (List Json)
  | .arr xs => .ok xs
  | .obj fs => .ok (fs.map fun f => .str f.1)
  | .str s => .ok (s.toList.map fun c => .str (String.singleton c))
  | _ => .error .typeError

/-- `float(n)`. -/
def floatOfInt (n : ℤ) : Except PyErr PyFloat := (toDouble n).map .fin

theorem floatOfInt_small {n : ℤ} (h : |n| ≤ 2 ^ 53) : floatOfInt n = .ok (.fin n) :=
  congrArg (Except.map PyFloat.fin) (isDouble_intCast h)

/-- `float(value)`. -/
def toFloat : Json → Except PyErr PyFloat
  | .bool b => .ok (.fin (if b then 1 else 0))
  | .int n => floatOfInt n
  | .float x => .ok x
  | .str s => floatOfString s
  | _ => .error .typeError

/-- `int(value)`. -/
def toInt : Json → Except PyErr ℤ
  | .bool b => .ok (if b then 1 else 0)
  | .int n => .ok n
  | .float x => x.toInt
  | .str s => intOfString s
  | _ => .error .typeError

/-! ## `str` and `repr` -/

/-- One character inside a quoted string. -/
def escapeChar (quote c : Char) : List Char :=
  if c = '\\' then ['\\', '\\']
  else if c = '\n' then ['\\', 'n']
  else if c = '\t' then ['\\', 't']
  else if c = '\r' then ['\\', 'r']
  else if c = quote then ['\\', c]
  else [c]

/-- `repr(s)`: single quotes, unless only double quotes avoid an escape. -/
def reprStr (s : String) : String :=
  let quote := if s.toList.contains '\'' && !s.toList.contains '"' then '"' else '\''
  String.ofList (quote :: s.toList.flatMap (escapeChar quote) ++ [quote])

mutual

/-- `repr(value)`. -/
def repr : Json → String
  | .null => "None"
  | .bool b => if b then "True" else "False"
  | .int n => toString n
  | .float x => x.repr
  | .str s => reprStr s
  | .arr xs => "[" ++ String.intercalate ", " (reprItems xs) ++ "]"
  | .obj fs => "\x7b" ++ String.intercalate ", " (reprFields fs) ++ "\x7d"

def reprItems : List Json → List String
  | [] => []
  | x :: xs => repr x :: reprItems xs

def reprFields : List (String × Json) → List String
  | [] => []
  | (k, v) :: fs => (reprStr k ++ ": " ++ repr v) :: reprFields fs

end

/-- `str(value)`: a string as it is, anything else as its `repr`. -/
def toStr : Json → String
  | .str s => s
  | j => j.repr

/-! ## What can be rendered -/

mutual

/-- All the numbers and all the strings, the keys included, pass. -/
def passes (number : PyFloat → Bool) (text : String → Bool) : Json → Bool
  | .float x => number x
  | .str s => text s
  | .arr xs => passesItems number text xs
  | .obj fs => passesFields number text fs
  | _ => true

def passesItems (number : PyFloat → Bool) (text : String → Bool) : List Json → Bool
  | [] => true
  | x :: xs => passes number text x && passesItems number text xs

def passesFields (number : PyFloat → Bool) (text : String → Bool) : List (String × Json) → Bool
  | [] => true
  | (k, v) :: fs => text k && passes number text v && passesFields number text fs

end

end Json

end Python
