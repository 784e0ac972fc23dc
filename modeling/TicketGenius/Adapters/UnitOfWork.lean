import Mathlib.Data.List.Nodup
import Mathlib.Logic.Function.Basic

/-!
# The unit of work and its outbox

`SqlAlchemyUnitOfWork` of `adapters/unit_of_work.py`, with the session underneath it.  An event is
first in the list of the aggregate it was raised on, then in the unit of work's own list, and last
in a row of `outbox`; the model keeps these three places and, of the session, what decides which
aggregates are looked at: the added objects that are not flushed (`session.new`), the persistent
ones, and which of these have changed since the last flush (`session.dirty`).

Objects are given by their identity.  An object built by its constructor has an event list, and one
the session has loaded has none.  An object that has its row stored goes on being one when its
session is closed, and comes back as a persistent object when it is added again.  What else
aggregates and events are does not matter here, so their types are parameters, and so is how an
event is described in a row (`_serialize_event` with the attributes read beside it).

`commit` also stands for `flush_outbox`, which has the same body.
-/

namespace TicketGenius

/-- What `OutboxEvent` sets of a row of `outbox`.  The primary key `id` is not among it. -/
structure OutboxEvent (κ π : Type) where
  aggregateId : Option κ
  aggregateType : String
  eventType : String
  payload : π
deriving DecidableEq

/-- What is read off an event: its `aggregate_id` if it has one, the name of its class, and its
serialization. -/
structure EventDescription (ε κ π : Type) where
  aggregateId : ε → Option κ
  typeName : ε → String
  serializeEvent : ε → π

/-- The row `_write_outbox_events` makes of an event. -/
def EventDescription.row {ε κ π : Type} (d : EventDescription ε κ π) (event : ε) :
    OutboxEvent κ π :=
  ⟨d.aggregateId event, d.typeName event, d.typeName event, d.serializeEvent event⟩

/-- A unit of work, its session, the aggregates' event lists and the committed outbox.  Of the
objects, `stored` are those with a row of their own, and `modified` those that were assigned to
since they were loaded or flushed; `inserted` are the rows of the present transaction. -/
structure UnitOfWork (ι ε ρ : Type) where
  aggregateEvents : ι → Option (List ε)
  stored : ι → Bool
  modified : ι → Bool
  new : List ι
  persistent : List ι
  inserted : List ι
  domainEvents : List ε
  outbox : List ρ

namespace UnitOfWork

variable {ι ε κ π ρ : Type} [DecidableEq ι]

/-- `SqlAlchemyUnitOfWork(database_url)`, over objects and an outbox that are there already. -/
def create (aggregateEvents : ι → Option (List ε)) (stored : ι → Bool) (outbox : List ρ) :
    UnitOfWork ι ε ρ where
  aggregateEvents := aggregateEvents
  stored := stored
  modified := fun _ => false
  new := []
  persistent := []
  inserted := []
  domainEvents := []
  outbox := outbox

/-- The objects of the session. -/
def objects (uow : UnitOfWork ι ε ρ) : List ι := uow.new ++ uow.persistent

/-- `session.dirty` -/
def dirty (uow : UnitOfWork ι ε ρ) : List ι := uow.persistent.filter (uow.modified ·)

/-- The events in the list of an object. -/
def pending (uow : UnitOfWork ι ε ρ) (o : ι) : List ε := (uow.aggregateEvents o).getD []

/-! ## The session -/

/-- `session.add(o)` -/
def add (uow : UnitOfWork ι ε ρ) (o : ι) : UnitOfWork ι ε ρ :=
  if o ∈ uow.objects then uow
  else if uow.stored o then { uow with persistent := uow.persistent ++ [o] }
  else { uow with new := uow.new ++ [o] }

/-- A query returns `o`, an object the session has built without calling its constructor. -/
def load (uow : UnitOfWork ι ε ρ) (o : ι) : UnitOfWork ι ε ρ :=
  if o ∈ uow.objects ∨ uow.aggregateEvents o ≠ none then uow
  else
    { uow with
      stored := Function.update uow.stored o true
      modified := Function.update uow.modified o false
      persistent := uow.persistent ++ [o] }

/-- An assignment to a mapped attribute of `o`. -/
def change (uow : UnitOfWork ι ε ρ) (o : ι) : UnitOfWork ι ε ρ :=
  { uow with modified := Function.update uow.modified o true }

/-- `o.add_domain_event(event)`, which raises `AttributeError` on an object without a list. -/
def raise (uow : UnitOfWork ι ε ρ) (o : ι) (event : ε) : UnitOfWork ι ε ρ :=
  match uow.aggregateEvents o with
  | none => uow
  | some events =>
    { uow with
      aggregateEvents := Function.update uow.aggregateEvents o (some (events ++ [event])) }

/-- `session.flush()`, which a query may cause. -/
def flush (uow : UnitOfWork ι ε ρ) : UnitOfWork ι ε ρ :=
  { uow with
    stored := fun o => uow.stored o || o ∈ uow.new
    modified := fun o => uow.modified o && o ∉ uow.objects
    new := []
    persistent := uow.persistent ++ uow.new
    inserted := uow.inserted ++ uow.new }

/-- `session.rollback()`: what the transaction added leaves the session, and what stays there is
expired. -/
def rollback (uow : UnitOfWork ι ε ρ) : UnitOfWork ι ε ρ :=
  { uow with
    stored := fun o => uow.stored o && o ∉ uow.inserted
    modified := fun o => uow.modified o && o ∉ uow.persistent
    new := []
    persistent := uow.persistent.filter (· ∉ uow.inserted)
    inserted := [] }

/-- `session.close()` -/
def close (uow : UnitOfWork ι ε ρ) : UnitOfWork ι ε ρ :=
  { uow with new := [], persistent := [], inserted := [] }

/-! ## Events -/

/-- One of the loops of `_collect_domain_events`. -/
def collectFrom (uow : UnitOfWork ι ε ρ) : List ι → UnitOfWork ι ε ρ
  | [] => uow
  | o :: os =>
    match uow.aggregateEvents o with
    | none => uow.collectFrom os
    | some events =>
      collectFrom { uow with
        domainEvents := uow.domainEvents ++ events
        aggregateEvents := Function.update uow.aggregateEvents o (some []) } os

/-- `_collect_domain_events` -/
def collectDomainEvents (uow : UnitOfWork ι ε ρ) : UnitOfWork ι ε ρ :=
  let collected := uow.collectFrom uow.new
  collected.collectFrom collected.dirty

variable (d : EventDescription ε κ π)

/-- `commit`, and whether it succeeds: the column `aggregate_id` is not nullable, and a failing
flush rolls the session back.  The program has another reason to fail, which no event escapes: the
`id` of a row has no value either (`OutboxEvent`).  Here that column counts as filled, so a row with
an `aggregate_id` is written where the program cannot write any. -/
def commit (uow : UnitOfWork ι ε (OutboxEvent κ π)) : UnitOfWork ι ε (OutboxEvent κ π) × Bool :=
  let collected := uow.collectDomainEvents
  let rows := collected.domainEvents.map d.row
  if rows.all (·.aggregateId.isSome) then
    ({ collected.flush with inserted := [], outbox := collected.outbox ++ rows }, true)
  else (collected.rollback, false)

/-- `__exit__` without an exception.  A commit that raises leaves the session open. -/
def exit (uow : UnitOfWork ι ε (OutboxEvent κ π)) : UnitOfWork ι ε (OutboxEvent κ π) × Bool :=
  match uow.commit d with
  | (committed, true) => (committed.close, true)
  | (failed, false) => (failed, false)

/-- `__exit__` with an exception. -/
def fail (uow : UnitOfWork ι ε ρ) : UnitOfWork ι ε ρ := uow.rollback.close

end UnitOfWork

end TicketGenius
