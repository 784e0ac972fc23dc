import TicketGenius.Domain.Exceptions

/-!
# Reading documents

Subscripts and `get` on what `json.loads` returned, which may be any document, so that each of them
can raise.
-/

namespace TicketGenius

/-- `document[key]`. -/
def Json.item (document : Json) (key : String) : Except PyError Json :=
  match document with
  | .obj fields =>
    match fields.lookup key with
    | some value => .ok value
    | none => .error (.keyError key)
  | .arr _ => .error (.typeError "list indices must be integers or slices, not str")
  | .str _ => .error (.typeError "string indices must be integers, not 'str'")
  | document => .error (.typeError s!"'{document.typeName}' object is not subscriptable")

/-- `document[0]`. -/
def Json.first (document : Json) : Except PyError Json :=
  match document with
  | .arr (x :: _) => .ok x
  | .arr [] => .error (.indexError "list index out of range")
  | .str s =>
    match s.toList with
    | c :: _ => .ok (.str (String.ofList [c]))
    | [] => .error (.indexError "string index out of range")
  | .obj _ => .error (.keyError "0")
  | document => .error (.typeError s!"'{document.typeName}' object is not subscriptable")

/-- `document.get(key, default)`. -/
def Json.getD (document : Json) (key : String) (default : Json) : Except PyError Json :=
  match document with
  | .obj fields => .ok ((fields.lookup key).getD default)
  | document => .error (.noAttribute document.typeName "get")

end TicketGenius
