import Mathlib.Data.Int.Notation
import Mathlib.Tactic.Common

/-!
# JSON documents

The values `json.loads` returns, as a tree.  A float is carried by its `repr`, which determines
it.  `Json.format` is the text an f-string shows for such a value.
-/

namespace TicketGenius

/-- A value of `json.loads`. -/
inductive Json
  | null
  | bool (b : Bool)
  | int (n : ℤ)
  | float (repr : String)
  | str (s : String)
  | arr (xs : List Json)
  | obj (kvs : List (String × Json))

namespace Json

/-- `repr(s)`: single quotes, unless the text has one and no double quote. -/
def quote (s : String) : String :=
  let q := if s.toList.contains '\'' && !s.toList.contains '"' then '"' else '\''
  let escaped := s.toList.flatMap fun c =>
    if c = '\\' then ['\\', '\\']
    else if c = q then ['\\', c]
    else if c = '\n' then ['\\', 'n']
    else if c = '\r' then ['\\', 'r']
    else if c = '\t' then ['\\', 't']
    else [c]
  String.ofList (q :: escaped ++ [q])

mutual

/-- `repr(j)`. -/
def repr : Json → String
  | .null => "None"
  | .bool b => if b then "True" else "False"
  | .int n => toString n
  | .float r => r
  | .str s => quote s
  | .arr xs => "[" ++ reprItems xs ++ "]"
  | .obj kvs => "\x7b" ++ reprFields kvs ++ "\x7d"

/-- The items of a list, separated by commas. -/
def reprItems : List Json → String
  | [] => ""
  | [x] => repr x
  | x :: xs => repr x ++ ", " ++ reprItems xs

/-- The entries of a dict, separated by commas. -/
def reprFields : List (String × Json) → String
  | [] => ""
  | [(k, v)] => quote k ++ ": " ++ repr v
  | (k, v) :: kvs => quote k ++ ": " ++ repr v ++ ", " ++ reprFields kvs

end

/-- `f"{j}"`: a string as it is, any other value by its `repr`. -/
def format : Json → String
  | .str s => s
  | j => repr j

/-- The name of a document's Python type. -/
def typeName : Json → String
  | .null => "NoneType"
  | .bool _ => "bool"
  | .int _ => "int"
  | .float _ => "float"
  | .str _ => "str"
  | .arr _ => "list"
  | .obj _ => "dict"

/-- `bool(j)`. -/
def truthy : Json → Bool
  | .null => false
  | .bool b => b
  | .int n => n != 0
  | .float r => r != "0.0" && r != "-0.0"
  | .str s => s != ""
  | .arr xs => !xs.isEmpty
  | .obj kvs => !kvs.isEmpty

end Json

end TicketGenius
