import TicketGenius.Adapters.EventSerialization
import TicketGenius.Framework.Raises
import TicketGenius.ServiceLayer.Steps

/-!
# The payloads of events

`_serialize_event` should return a dict with one entry for each declared field, made of JSON values
only, from which the fields can be told apart.  It returns nothing at all: it asks an event for its
`__dict__`, and the event classes have slots (`serializeEvent_eq`).  So no event is written to the
outbox (`writeOutboxEvents_eq_ok`), which is why a flush of the outbox reaches its commit only
without events (`flushOutbox_eq`).

Slots are not all that is in the way.  Given the fields of an event, the loop of `_serialize_event`
makes one entry of each (`serializeItems_fields`), but it leaves a `UUID` as it is, which is no JSON
value, and every event has one (`not_json_serializeItems`).
-/

namespace TicketGenius.EventPayloads

open EventSerialization

variable {τ : Type} (isoformat : τ → String)

/-- The event is serialized to a dict with one entry for each of its fields, with JSON values only,
that no other event of its class is serialized to. -/
def Serialized (event : Event τ) : Prop :=
  ∃ data, serializeEvent isoformat event = .ok data ∧
    (data.map Prod.fst).Perm event.cls.fieldNames ∧
    (∀ entry ∈ data, entry.2.isJson = true) ∧
    ∀ other : Event τ, other.cls = event.cls → other ≠ event →
      serializeEvent isoformat other ≠ .ok data

/-- No event has a `__dict__`. -/
lemma serializeEvent_eq (event : Event τ) :
    serializeEvent isoformat event = .error (.noAttribute event.cls.name "__dict__") := rfl

/-- **No event is serialized.** -/
theorem never_serialized (event : Event τ) : ¬ Serialized isoformat event := by
  rintro ⟨data, hdata, -⟩
  rw [serializeEvent_eq] at hdata
  cases hdata

/-- An order has been cancelled. -/
def cancellation : Event DateTime :=
  .orderCancelled ⟨.nil, ⟨0⟩, none, none⟩ .nil "Customer request"

theorem cancellation_not_serialized :
    ¬ ∀ event : Event DateTime, Serialized DateTime.isoformat event := by
  intro h
  obtain ⟨data, hdata, -⟩ := h cancellation
  rw [serializeEvent_eq] at hdata
  cases hdata

/-! ## The loop over the fields -/

/-- A new key goes to the end. -/
lemma set_of_notMem {α : Type} {d : Dict α} {key : String} (h : key ∉ d.map Prod.fst) (value : α) :
    d.set key value = d ++ [(key, value)] := by
  have hany : (d.any (·.1 == key)) = false := by
    rw [List.any_eq_false]
    intro kv hkv heq
    exact h (List.mem_map.mpr ⟨kv, hkv, beq_iff_eq.mp heq⟩)
  rw [Dict.set, hany]
  rfl

/-- With different names, none of which begins with an underscore, each item becomes an entry. -/
lemma foldl_serializeItem {items d : Dict (EventValue τ)}
    (hpublic : ∀ name ∈ items.map Prod.fst, name.toList.head? ≠ some '_')
    (hnodup : ((d ++ items).map Prod.fst).Nodup) :
    items.foldl (serializeItem isoformat) d =
      d ++ items.map fun item => (item.1, item.2.serialize isoformat) := by
  induction items generalizing d with
  | nil => exact (List.append_nil d).symm
  | cons item items ih =>
    have hnew : item.1 ∉ d.map Prod.fst := by
      rw [List.map_append, List.nodup_append] at hnodup
      exact fun hmem => hnodup.2.2 item.1 hmem item.1 List.mem_cons_self rfl
    have hrest : (((d ++ [(item.1, item.2.serialize isoformat)]) ++ items).map Prod.fst).Nodup := by
      simpa using hnodup
    rw [List.map_cons, List.forall_mem_cons] at hpublic
    rw [List.foldl_cons, serializeItem, if_neg hpublic.1, set_of_notMem hnew,
      ih hpublic.2 hrest, List.append_assoc, List.map_cons, List.singleton_append]

/-- No name of a field begins with an underscore. -/
lemma fieldNames_public (cls : EventClass) :
    ∀ name ∈ cls.fieldNames, name.toList.head? ≠ some '_' := by
  cases cls <;> decide

lemma fieldNames_nodup (cls : EventClass) : cls.fieldNames.Nodup := by
  cases cls <;> decide

/-- **The loop is complete**: one entry for each field of an event. -/
theorem serializeItems_fields (event : Event τ) :
    serializeItems isoformat event.fields =
      event.fields.map fun item => (item.1, item.2.serialize isoformat) := by
  refine foldl_serializeItem isoformat (d := []) ?_ ?_
  · rw [event.names_fields]
    exact fieldNames_public event.cls
  · rw [List.nil_append, event.names_fields]
    exact fieldNames_nodup event.cls

/-- **It is not JSON-safe**: the id of the event stays a `UUID`. -/
theorem not_json_serializeItems (event : Event τ) :
    ∃ entry ∈ serializeItems isoformat event.fields, entry.2.isJson = false := by
  obtain ⟨id, hid⟩ : ∃ id, ("event_id", EventValue.uuid id) ∈ event.fields := by
    cases event <;> exact ⟨_, List.mem_cons_self⟩
  rw [serializeItems_fields]
  exact ⟨("event_id", .uuid id), List.mem_map.mpr ⟨_, hid, rfl⟩, rfl⟩

/-! ## The outbox -/

/-- `_write_outbox_events` returns only if there is nothing to write. -/
theorem writeOutboxEvents_eq_ok {domainEvents : List (Event τ)}
    {rows : List (OutboxEvent UUID (Dict (EventValue τ)))} :
    writeOutboxEvents isoformat domainEvents = .ok rows ↔ domainEvents = [] ∧ rows = [] :=
  Framework.mapM_eq_ok_of_raises fun _ => ⟨_, rfl⟩

/-- A flush of the outbox commits what `_write_outbox_events` lets it commit. -/
theorem flushOutbox_eq (domainEvents : List DomainEvent) (s : InFlight) (w : World) :
    s.flushOutbox domainEvents w =
      match writeOutboxEvents DateTime.isoformat
        ((domainEvents ++ s.pendingEvents).map DomainEvent.toEvent) with
      | .ok _ => s.changes.foldl World.apply w
      | .error _ => w := by
  unfold InFlight.flushOutbox
  cases domainEvents ++ s.pendingEvents with
  | nil => rfl
  | cons event events => rfl

end TicketGenius.EventPayloads
