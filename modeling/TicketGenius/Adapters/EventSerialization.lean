import TicketGenius.Adapters.UnitOfWork
import TicketGenius.Domain.EventClasses
import TicketGenius.Language.Text

/-!
# Serializing events

`_serialize_event` of `adapters/unit_of_work.py`, and `_write_outbox_events`, which calls it for
each event that was collected.  The attributes are those of `event.__dict__`, and the value of each
is rendered by what it has: `isoformat()` if it is a `datetime`, `str()` if it has a `__dict__`, and
else itself.
-/

namespace TicketGenius

/-! ## Values -/

/-- `f"{amount:.2f}"`, of an amount with at most two decimal places. -/
def Decimal.fixedPoint (self : Decimal) : String :=
  let cents := self.coeff * 10 ^ (self.exp + 2).toNat
  (if self.negative then "-" else "") ++ toString (cents / 100) ++ "." ++ padded 2 (cents % 100 : ℕ)

/-- `str(money)`, which is its `repr`. -/
def Money.str (self : Money) : String :=
  "Money(" ++ self.amount.fixedPoint ++ " " ++ self.currency.value ++ ")"

namespace EventValue

variable {τ : Type} (isoformat : τ → String)

/-- The rendering of a value.  Of the classes that occur only `datetime` has an `isoformat`, and
only `Money` gives its instances a `__dict__`: `UUID` has slots. -/
def serialize : EventValue τ → EventValue τ
  | .datetime t => .str (isoformat t)
  | .money amount => .str amount.str
  | value => value

/-- The value is one that `json.dumps` takes. -/
def isJson : EventValue τ → Bool
  | .none => true
  | .uuid _ => false
  | .datetime _ => false
  | .money _ => false
  | .int _ => true
  | .str _ => true
  | .tickets _ => true

end EventValue

/-! ## Events -/

namespace EventSerialization

variable {τ : Type} (isoformat : τ → String)

/-- The body of the loop of `_serialize_event`. -/
def serializeItem (data : Dict (EventValue τ)) (item : String × EventValue τ) :
    Dict (EventValue τ) :=
  if item.1.toList.head? = some '_' then data else data.set item.1 (item.2.serialize isoformat)

/-- The loop, over the attributes. -/
def serializeItems (items : Dict (EventValue τ)) : Dict (EventValue τ) :=
  items.foldl (serializeItem isoformat) []

/-- `_serialize_event` -/
def serializeEvent (event : Event τ) : Except PyError (Dict (EventValue τ)) := do
  return serializeItems isoformat (← event.dict)

/-- `_write_outbox_events`, as the rows it adds.  No event has an `aggregate_id`. -/
def writeOutboxEvents (domainEvents : List (Event τ)) :
    Except PyError (List (OutboxEvent UUID (Dict (EventValue τ)))) :=
  domainEvents.mapM fun event => do
    let payload ← serializeEvent isoformat event
    return ⟨none, event.cls.name, event.cls.name, payload⟩

end EventSerialization

end TicketGenius
