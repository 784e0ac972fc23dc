import TicketGenius.Adapters.Flush
import TicketGenius.Framework.Versioned

/-!
# The `update` of the repositories

`SqlAlchemyOrderRepository.update` and `SqlAlchemyPaymentRepository.update` of
`adapters/repositories_write.py`.  Each sends one `UPDATE … WHERE id = … AND version = …` and reads
off its rowcount whether the row was at the version expected.  The state is the table as the
statement finds it, and the instance, whose version the method counts up.

The statement goes through `session.execute`, which flushes before.  `update` is the method where
that has nothing to write: the session does not hold the instance, or the instance has not changed.
`updateInSession` is the method in general.
-/

namespace TicketGenius

open Framework

/-! ## One statement and its rowcount -/

/-- What the repositories of rows `ρ` and instances `α` differ in. -/
structure VersionedMapping (ρ α : Type) (key : ρ → UUID) where
  /-- The first argument of `OptimisticLockError`. -/
  entityType : String
  id : α → UUID
  version : α → ℤ
  rowVersion : ρ → ℤ
  /-- A row after the `values` of the statement. -/
  values : α → ρ → ρ
  key_values : ∀ instance_ row, key (values instance_ row) = key row
  /-- The instance after `version += 1`. -/
  counted : α → α
  /-- The row an instance stands for. -/
  columns : α → ρ
  /-- A row after a flush: `patch old new row`, if the session knows `old` and the instance is
  `new`. -/
  patch : ρ → ρ → ρ → ρ
  key_patch : ∀ old new row, key (patch old new row) = key row

namespace VersionedMapping

variable {ρ α : Type} {key : ρ → UUID} (m : VersionedMapping ρ α key)

/-- The body of `update`, where there is nothing to flush. -/
def update : EStateM PyError (Table UUID ρ key × α) Unit := do
  let (table, instance_) ← get
  let (table', rowcount) := table.updateWhere (m.id instance_)
    (fun row => m.rowVersion row = m.version instance_) (m.values instance_)
    (m.key_values instance_)
  set (table', instance_)
  if rowcount = 0 then
    throw (.domain (optimisticLockError m.entityType (m.id instance_).str))
  set (table', m.counted instance_)

variable [DecidableEq ρ]

/-- The flush of an instance: the columns that are not as the session knows them are written, and
the session knows them then.  If the row has gone, the statement matches none. -/
def flush : EStateM PyError (Table UUID ρ key × Held ρ α) Unit := do
  let (table, held) ← get
  match held.known with
  | none => return
  | some old =>
    if m.columns held.current ≠ old then
      if (table.find (m.id held.current)).isNone then throw .staleDataError
      set (table.modify (m.id held.current) (m.patch old (m.columns held.current))
          (m.key_patch old (m.columns held.current)),
        ({ held with known := some (m.columns held.current) } : Held ρ α))

/-- The body of `update`: `session.execute` flushes before it sends the statement. -/
def updateInSession : EStateM PyError (Table UUID ρ key × Held ρ α) Unit := do
  m.flush
  let (table, held) ← get
  match m.update.run (table, held.current) with
  | .ok _ (table', instance_) => set (table', ({ held with current := instance_ } : Held ρ α))
  | .error e _ => throw e

omit [DecidableEq ρ]

/-- There is a row under `id`, and it is at the version. -/
def IsAt (table : Table UUID ρ key) (id : UUID) (version : ℤ) : Prop :=
  ∃ row, table.find id = some row ∧ m.rowVersion row = version

variable {m} {table : Table UUID ρ key} {instance_ : α}

lemma run_update_of_find {row : ρ} (hfind : table.find (m.id instance_) = some row)
    (hversion : m.rowVersion row = m.version instance_) :
    m.update.run (table, instance_) =
      .ok () (table.put (m.values instance_ row), m.counted instance_) := by
  have hcurrent : decide (m.rowVersion row = m.version instance_) = true := by
    rw [decide_eq_true_eq, hversion]
  have hwrite := table.updateWhere_of_pos
    (p := fun row => m.rowVersion row = m.version instance_) (m.key_values instance_) hfind hcurrent
  simp [update, hwrite]

/-- A statement that finds no row at the instance's version leaves the table and the instance as
they were. -/
lemma run_update_of_not (hstale : ¬ m.IsAt table (m.id instance_) (m.version instance_)) :
    m.update.run (table, instance_) =
      .error (.domain (optimisticLockError m.entityType (m.id instance_).str))
        (table, instance_) := by
  have hstale' : ∀ row, table.find (m.id instance_) = some row →
      decide (m.rowVersion row = m.version instance_) = false := by
    intro row hfind
    rw [decide_eq_false_iff_not]
    exact fun hversion => hstale ⟨row, hfind, hversion⟩
  have hwrite := table.updateWhere_of_neg
    (p := fun row => m.rowVersion row = m.version instance_) (m.key_values instance_) hstale'
  simp [update, hwrite]

end VersionedMapping

/-! ## The repositories -/

/-- The orders of the database. -/
abbrev OrderTable := Table UUID OrderRow OrderRow.orderId

/-- The payments of the database. -/
abbrev PaymentTable := Table UUID PaymentRow PaymentRow.paymentId

/-- The statement of `SqlAlchemyOrderRepository.update`. -/
def orderMapping : VersionedMapping OrderRow Order OrderRow.orderId where
  entityType := "Order"
  id order := order.orderId
  version order := order.version
  rowVersion row := row.version
  values order row := { row with
    status := order.status, paymentId := order.paymentId, version := order.version + 1 }
  key_values _ _ := rfl
  counted order := { order with version := order.version + 1 }
  columns order := order.toOrderRow
  patch := OrderRow.patch
  key_patch := OrderRow.orderId_patch

/-- The statement of `SqlAlchemyPaymentRepository.update`. -/
def paymentMapping : VersionedMapping PaymentRow Payment PaymentRow.paymentId where
  entityType := "Payment"
  id payment := payment.paymentId
  version payment := payment.version
  rowVersion row := row.version
  values payment row := { row with
    status := payment.status, providerRef := payment.providerRef, version := payment.version + 1 }
  key_values _ _ := rfl
  counted payment := { payment with version := payment.version + 1 }
  columns payment := payment.toPaymentRow
  patch := PaymentRow.patch
  key_patch := PaymentRow.paymentId_patch

/-- `SqlAlchemyOrderRepository.update`, for an instance of which there is nothing to flush. -/
def SqlAlchemyOrderRepository.update : EStateM PyError (OrderTable × Order) Unit :=
  orderMapping.update

/-- `SqlAlchemyPaymentRepository.update`, for an instance of which there is nothing to flush. -/
def SqlAlchemyPaymentRepository.update : EStateM PyError (PaymentTable × Payment) Unit :=
  paymentMapping.update

/-- `SqlAlchemyOrderRepository.update` -/
def SqlAlchemyOrderRepository.updateInSession :
    EStateM PyError (OrderTable × Held OrderRow Order) Unit :=
  orderMapping.updateInSession

/-- `SqlAlchemyPaymentRepository.update` -/
def SqlAlchemyPaymentRepository.updateInSession :
    EStateM PyError (PaymentTable × Held PaymentRow Payment) Unit :=
  paymentMapping.updateInSession

end TicketGenius
