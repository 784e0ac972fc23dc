import TicketGenius.Adapters.UnitOfWork

/-!
# The unit of work, its session and the database

`SqlAlchemyUnitOfWork` once more, at the level where a transaction can go wrong.  The model in
`Adapters/UnitOfWork.lean` follows events to the outbox and lets a commit fail in one way only.
Here the session holds instances with their values, the database is what has been committed, and
`__exit__` can stop at any of its points (`Fault`).

The database is given by the statements committed so far, in order; a row is what the last statement
about its key says.  Between its begin and its end a transaction has statements of its own, those
its flushes have sent.  A flush or a `COMMIT` that fails deactivates the transaction: until
`rollback` or `close`, everything that needs the database raises `PendingRollbackError`.
-/

namespace TicketGenius

/-! ## The database -/

/-- What a session sends to the database, with keys in `κ`, values in `ν` and outbox rows in `ρ`. -/
inductive Statement (κ ν ρ : Type)
  | insert (key : κ) (value : ν)
  | update (key : κ) (value : ν)
  | insertOutbox (row : ρ)

section Rows

variable {κ ν ρ : Type} [DecidableEq κ]

/-- The row under a key after a statement. -/
def Statement.rowAfter (key : κ) (row : Option ν) : Statement κ ν ρ → Option ν
  | .insert k value => if k = key then some value else row
  | .update k value => if k = key then row.map fun _ => value else row
  | .insertOutbox _ => row

/-- The row under a key, after some statements. -/
def rowOf (key : κ) (statements : List (Statement κ ν ρ)) : Option ν :=
  statements.foldl (Statement.rowAfter key) none

end Rows

/-! ## The session -/

/-- An instance in a session; one the session has loaded has no list of events. -/
structure Instance (κ ν ε : Type) where
  key : κ
  value : ν
  events : Option (List ε)

namespace Instance

variable {κ ν ε : Type}

/-- The events in the list of an instance. -/
def pending (o : Instance κ ν ε) : List ε := o.events.getD []

/-- `clear_domain_events`, where `hasattr(obj, "domain_events")`. -/
def clear (o : Instance κ ν ε) : Instance κ ν ε := { o with events := o.events.map fun _ => [] }

end Instance

/-- A session: the instances in `session.new` and `session.dirty` and the unchanged ones, the added
rows of the outbox, the statements flushed in the present transaction, and whether that transaction
has failed. -/
structure OrmSession (κ ν ε ρ : Type) where
  new : List (Instance κ ν ε)
  dirty : List (Instance κ ν ε)
  clean : List (Instance κ ν ε)
  newOutbox : List ρ
  flushed : List (Statement κ ν ρ)
  deactivated : Bool

namespace OrmSession

variable {κ ν ε ρ : Type}

/-- A session nothing has been done with. -/
def empty : OrmSession κ ν ε ρ := ⟨[], [], [], [], [], false⟩

/-- `session.close()` -/
def close (_ : OrmSession κ ν ε ρ) : OrmSession κ ν ε ρ := empty

/-- The statements of the next flush. -/
def unflushed (s : OrmSession κ ν ε ρ) : List (Statement κ ν ρ) :=
  s.new.map (fun o => .insert o.key o.value) ++
    (s.dirty.map (fun o => .update o.key o.value) ++ s.newOutbox.map .insertOutbox)

/-- `session.flush()` -/
def flush (s : OrmSession κ ν ε ρ) : OrmSession κ ν ε ρ where
  new := []
  dirty := []
  clean := s.clean ++ (s.new ++ s.dirty)
  newOutbox := []
  flushed := s.flushed ++ s.unflushed
  deactivated := s.deactivated

/-- The instances of the session. -/
def instances (s : OrmSession κ ν ε ρ) : List (Instance κ ν ε) := s.new ++ (s.dirty ++ s.clean)

variable [DecidableEq κ]

/-- `session.rollback()`: the instances that have a committed row stay, with its value. -/
def rollback (database : List (Statement κ ν ρ)) (s : OrmSession κ ν ε ρ) : OrmSession κ ν ε ρ :=
  { empty with
    clean := (s.dirty ++ s.clean).filterMap fun o =>
      (rowOf o.key database).map fun value => { o with value := value } }

/-- `session.get`, over the database as the transaction sees it; `none` if it raises. -/
def get (database : List (Statement κ ν ρ)) (key : κ) (s : OrmSession κ ν ε ρ) :
    Option (OrmSession κ ν ε ρ) :=
  if s.instances.any (·.key = key) then some s
  else if s.deactivated then none
  else match rowOf key (database ++ s.flushed) with
    | none => some s
    | some value => some { s with clean := s.clean ++ [⟨key, value, none⟩] }

/-- `session.query(…)`, which flushes first. -/
def query (database : List (Statement κ ν ρ)) (key : κ) (s : OrmSession κ ν ε ρ) :
    Option (OrmSession κ ν ε ρ) :=
  if s.deactivated then none else s.flush.get database key

/-- `session.add(…)`, of an instance built by its constructor. -/
def add (key : κ) (value : ν) (s : OrmSession κ ν ε ρ) : OrmSession κ ν ε ρ :=
  { s with new := s.new ++ [⟨key, value, some []⟩] }

/-- An assignment to the instance with a key. -/
def assign (key : κ) (value : ν) (s : OrmSession κ ν ε ρ) : OrmSession κ ν ε ρ :=
  let set (o : Instance κ ν ε) := if o.key = key then { o with value := value } else o
  { s with
    new := s.new.map set
    dirty := (s.dirty ++ s.clean.filter (·.key = key)).map set
    clean := s.clean.filter (·.key ≠ key) }

/-- `add_domain_event(event)` on the instance with a key, which raises `AttributeError` if the
instance has no list. -/
def emit (key : κ) (event : ε) (s : OrmSession κ ν ε ρ) : Option (OrmSession κ ν ε ρ) :=
  if s.instances.any (fun o => o.key = key ∧ o.events.isNone) then none
  else
    let append (o : Instance κ ν ε) :=
      if o.key = key then { o with events := o.events.map (· ++ [event]) } else o
    some { s with
      new := s.new.map append, dirty := s.dirty.map append, clean := s.clean.map append }

end OrmSession

/-! ## Transactions -/

/-- What the body of a `with` block does with the session. -/
inductive SessionAct (κ ν ε : Type)
  | add (key : κ) (value : ν)
  | get (key : κ)
  | query (key : κ)
  | assign (key : κ) (value : ν)
  | emit (key : κ) (event : ε)

/-- Where the normal branch of `__exit__` raises: at the object or the event with some index (if
there are so many), in the flush of `session.commit()`, or at its `COMMIT`. -/
inductive Fault
  | collecting (n : ℕ)
  | serializing (n : ℕ)
  | flushing
  | committing

/-- A `with` block: what its body does, whether the body then raises an exception of its own, and
where else the exit raises. -/
structure Transaction (κ ν ε : Type) where
  body : List (SessionAct κ ν ε)
  raises : Bool
  fault : Option Fault

/-- How a `with` block ends. -/
inductive Ending
  | committed
  | bodyRaised
  | exitRaised
deriving DecidableEq

/-- `SqlAlchemyUnitOfWork`, with the database it is connected to. -/
structure SqlAlchemyUnitOfWork (κ ν ε ρ : Type) where
  database : List (Statement κ ν ρ)
  session : OrmSession κ ν ε ρ
  domainEvents : List ε

namespace SqlAlchemyUnitOfWork

variable {κ ν ε ρ : Type} [DecidableEq κ]

/-- `SqlAlchemyUnitOfWork(database_url)` -/
def create (database : List (Statement κ ν ρ)) : SqlAlchemyUnitOfWork κ ν ε ρ :=
  ⟨database, .empty, []⟩

/-- The body of a `with` block; `none` if one of its acts raises. -/
def during (uow : SqlAlchemyUnitOfWork κ ν ε ρ) :
    List (SessionAct κ ν ε) → Option (OrmSession κ ν ε ρ)
  | [] => some uow.session
  | .add key value :: acts => during { uow with session := uow.session.add key value } acts
  | .get key :: acts => (uow.session.get uow.database key).bind fun session =>
      during { uow with session := session } acts
  | .query key :: acts => (uow.session.query uow.database key).bind fun session =>
      during { uow with session := session } acts
  | .assign key value :: acts => during { uow with session := uow.session.assign key value } acts
  | .emit key event :: acts => (uow.session.emit key event).bind fun session =>
      during { uow with session := session } acts

/-- One of the loops of `_collect_domain_events`, over the first `n` objects. -/
def collectFrom : ℕ → List (Instance κ ν ε) → List ε × List (Instance κ ν ε)
  | _, [] => ([], [])
  | 0, os => ([], os)
  | n + 1, o :: os => (o.pending ++ (collectFrom n os).1, o.clear :: (collectFrom n os).2)

/-- `_collect_domain_events`, over the first `n` objects. -/
def collectDomainEvents (n : ℕ) (uow : SqlAlchemyUnitOfWork κ ν ε ρ) :
    SqlAlchemyUnitOfWork κ ν ε ρ :=
  let fromNew := collectFrom n uow.session.new
  let fromDirty := collectFrom (n - uow.session.new.length) uow.session.dirty
  { uow with
    session := { uow.session with new := fromNew.2, dirty := fromDirty.2 }
    domainEvents := uow.domainEvents ++ (fromNew.1 ++ fromDirty.1) }

/-- `_write_outbox_events`, for the first `n` events. -/
def writeOutboxEvents (row : ε → ρ) (n : ℕ) (uow : SqlAlchemyUnitOfWork κ ν ε ρ) :
    SqlAlchemyUnitOfWork κ ν ε ρ :=
  { uow with
    session :=
      { uow.session with
        newOutbox := uow.session.newOutbox ++ (uow.domainEvents.take n).map row } }

/-- `session.commit()`, and whether it returns.  A flush with nothing to send cannot fail. -/
def sessionCommit (uow : SqlAlchemyUnitOfWork κ ν ε ρ) (fault : Option Fault) :
    SqlAlchemyUnitOfWork κ ν ε ρ × Bool :=
  let flushed := uow.session.flush
  let committed : SqlAlchemyUnitOfWork κ ν ε ρ × Bool :=
    ({ uow with
      database := uow.database ++ flushed.flushed
      session := { flushed with flushed := [] } }, true)
  if uow.session.deactivated then (uow, false)
  else match fault with
    | some .flushing =>
      if uow.session.unflushed.isEmpty then committed
      else
        ({ uow with session := { uow.session.rollback uow.database with deactivated := true } },
          false)
    | some .committing => ({ uow with session := { flushed with deactivated := true } }, false)
    | _ => committed

/-- The first two calls of `__exit__`, where nothing raises. -/
def collectAndWrite (row : ε → ρ) (uow : SqlAlchemyUnitOfWork κ ν ε ρ) :
    SqlAlchemyUnitOfWork κ ν ε ρ :=
  let collected := uow.collectDomainEvents (uow.session.new.length + uow.session.dirty.length)
  collected.writeOutboxEvents row collected.domainEvents.length

/-- The last two calls of `__exit__`, and whether they return. -/
def commitAndClose (uow : SqlAlchemyUnitOfWork κ ν ε ρ) (fault : Option Fault) :
    SqlAlchemyUnitOfWork κ ν ε ρ × Bool :=
  match uow.sessionCommit fault with
  | (committed, true) => ({ committed with session := committed.session.close }, true)
  | (failed, false) => (failed, false)

/-- `__exit__` without an exception, and whether it returns. -/
def exit (row : ε → ρ) (uow : SqlAlchemyUnitOfWork κ ν ε ρ) (fault : Option Fault) :
    SqlAlchemyUnitOfWork κ ν ε ρ × Bool :=
  let objects := uow.session.new.length + uow.session.dirty.length
  let collected := uow.collectDomainEvents objects
  match fault with
  | some (.collecting n) =>
    if n < objects then (uow.collectDomainEvents n, false)
    else (uow.collectAndWrite row).commitAndClose none
  | some (.serializing n) =>
    if n < collected.domainEvents.length then (collected.writeOutboxEvents row n, false)
    else (uow.collectAndWrite row).commitAndClose none
  | fault => (uow.collectAndWrite row).commitAndClose fault

/-- `__exit__` with an exception: `rollback` and `close`. -/
def fail (uow : SqlAlchemyUnitOfWork κ ν ε ρ) : SqlAlchemyUnitOfWork κ ν ε ρ :=
  { uow with session := (uow.session.rollback uow.database).close }

/-- One `with` block. -/
def transact (row : ε → ρ) (uow : SqlAlchemyUnitOfWork κ ν ε ρ) (t : Transaction κ ν ε) :
    SqlAlchemyUnitOfWork κ ν ε ρ × Ending :=
  match uow.during t.body with
  | none => (uow.fail, .bodyRaised)
  | some session =>
    if t.raises then ({ uow with session := session }.fail, .bodyRaised)
    else match { uow with session := session }.exit row t.fault with
      | (uow', true) => (uow', .committed)
      | (uow', false) => (uow', .exitRaised)

end SqlAlchemyUnitOfWork

end TicketGenius
