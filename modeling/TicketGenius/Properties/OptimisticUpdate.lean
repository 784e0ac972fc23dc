import TicketGenius.Adapters.Repositories
import TicketGenius.Properties.Confirmation
import TicketGenius.Properties.StoredOrder

/-!
# The optimistic update of an order

`SqlAlchemyOrderRepository.update` looks for the row at the version the instance has when it is
called.  Every transition of `Order` has by then counted that version up, so the row the instance
was loaded from is not found while it is unchanged, and a row another writer has brought to the
instance's version is overwritten.

`updates_iff` says when `update` does what optimistic locking is for: exactly when another writer
has moved the row to a version that is neither, or there is no row, and `OptimisticLockError` is
the right answer.
-/

namespace TicketGenius.OptimisticUpdate

open Framework OrderLifecycle SqlAlchemyOrderRepository

/-! ## Transitions -/

/-- The instance after a sequence of calls, if all of them succeed. -/
def transitions (order : Order) : List Call → Option Order
  | [] => some order
  | c :: calls => match c.method.run order with
    | .ok _ order' => transitions order' calls
    | .error .. => none

/-- A call succeeds with its whole effect, whether the instance has an event list or not. -/
lemma effect_of_ok {c : Call} {order order' : Order} (h : c.method.run order = .ok () order') :
    order' = c.effect order := by
  by_cases hc : c.Accepted order
  · by_cases hquiet : c.Emits ∧ order.domainEvents = none
    · have houtcome := StoredOrder.outcome_emitting hquiet.2 hc hquiet.1
      rw [StoredOrder.observe, h] at houtcome
      cases houtcome
    · have hrun : c.method.run order = .ok () (c.effect order) := by
        by_cases hemits : c.Emits
        · have hevents : order.domainEvents ≠ none := fun hnone => hquiet ⟨hemits, hnone⟩
          exact ((c.run_cases hevents).resolve_right fun hrefused => hrefused.1 hc).2
        · exact Call.run_quiet hc hemits
      rw [hrun] at h
      exact (EStateM.Result.ok.inj h).2.symm
  · obtain ⟨message, hrun⟩ := c.run_refused hc
    rw [hrun] at h
    cases h

/-- Every transition counts the version up by one and keeps the key. -/
lemma effect_version (c : Call) (order : Order) :
    (c.effect order).version = order.version + 1 ∧ (c.effect order).orderId = order.orderId := by
  cases c <;> exact ⟨rfl, rfl⟩

/-- **Run lemma.**  A sequence of successful transitions counts itself. -/
theorem transitions_version {calls : List Call} {order order' : Order}
    (h : transitions order calls = some order') :
    order'.version = order.version + calls.length ∧ order'.orderId = order.orderId := by
  induction calls generalizing order with
  | nil =>
    obtain rfl : order = order' := Option.some.inj h
    simp
  | cons c calls ih =>
    rw [transitions] at h
    rcases hrun : c.method.run order with ⟨⟨⟩, next⟩ | ⟨e, next⟩
    · rw [hrun] at h
      obtain ⟨hversion, hid⟩ := ih h
      obtain ⟨hversion₁, hid₁⟩ := effect_version c order
      rw [effect_of_ok hrun, hversion₁] at hversion
      rw [effect_of_ok hrun, hid₁] at hid
      refine ⟨?_, hid⟩
      rw [hversion, List.length_cons]
      omega
    · rw [hrun] at h
      cases h

/-! ## The property -/

/-- `update`, for an instance that has been loaded from `row` and moved on since, does what
optimistic locking is for. -/
structure Updates (row : OrderRow) (order : Order) (orders : OrderTable) : Prop where
  succeeds_iff : (∃ s, update.run (orders, order) = .ok () s) ↔
    orderMapping.IsAt orders row.orderId row.version
  refused : ∀ e s, update.run (orders, order) = .error e s →
    e = .domain (optimisticLockError "Order" row.orderId.str) ∧ s = (orders, order)
  stored : ∀ s, update.run (orders, order) = .ok () s →
    ∃ stored, s.1.find row.orderId = some stored ∧ stored.status = s.2.status ∧
      stored.seats = s.2.seats ∧ stored.paymentId = s.2.paymentId ∧ stored.version = s.2.version

section Update

variable {row : OrderRow} {order : Order} {orders : OrderTable}

/-- What `update` comes to depends on whether the row is at the version of the instance. -/
lemma run_update_cases (order : Order) (orders : OrderTable) :
    (∃ current, orders.find order.orderId = some current ∧ current.version = order.version ∧
      update.run (orders, order) =
        .ok () (orders.put (orderMapping.values order current), orderMapping.counted order)) ∨
    (¬ orderMapping.IsAt orders order.orderId order.version ∧
      update.run (orders, order) =
        .error (.domain (optimisticLockError "Order" order.orderId.str)) (orders, order)) := by
  by_cases hat : orderMapping.IsAt orders order.orderId order.version
  · obtain ⟨current, hfind, hversion⟩ := hat
    exact .inl ⟨current, hfind, hversion,
      VersionedMapping.run_update_of_find (m := orderMapping) hfind hversion⟩
  · exact .inr ⟨hat, VersionedMapping.run_update_of_not (m := orderMapping) hat⟩

/-- The statement never writes the seats. -/
theorem update_keeps_seats {current : OrderRow} {s : OrderTable × Order}
    (hfind : orders.find order.orderId = some current)
    (hrun : update.run (orders, order) = .ok () s) :
    ∃ stored, s.1.find order.orderId = some stored ∧ stored.seats = current.seats := by
  rcases run_update_cases order orders with
    ⟨current', hfind', -, hok⟩ | ⟨-, herror⟩
  · rw [hfind] at hfind'
    obtain rfl : current = current' := Option.some.inj hfind'
    rw [hok] at hrun
    obtain ⟨-, rfl⟩ := EStateM.Result.ok.inj hrun
    have hkey : (orderMapping.values order current).orderId = order.orderId :=
      orders.keyed order.orderId current hfind
    exact ⟨_, orders.find_put_of_key hkey, rfl⟩
  · rw [herror] at hrun
    cases hrun

/-- A row at the version the instance was loaded at, or at the one it has reached, is answered
wrongly. -/
lemma Updates.moved (h : Updates row order orders) (hid : order.orderId = row.orderId)
    (hversion : order.version ≠ row.version) :
    ¬ orderMapping.IsAt orders row.orderId row.version ∧
      ¬ orderMapping.IsAt orders row.orderId order.version := by
  rcases run_update_cases order orders with
    ⟨current, hfind, hcurrent, hok⟩ | ⟨hnot, herror⟩
  · -- The statement has found a row at the instance's version, which is not the one loaded.
    obtain ⟨current', hfind', hcurrent'⟩ := h.succeeds_iff.mp ⟨_, hok⟩
    rw [← hid, hfind] at hfind'
    obtain rfl : current = current' := Option.some.inj hfind'
    exact absurd (hcurrent.symm.trans hcurrent') hversion
  · refine ⟨fun hat => ?_, hid ▸ hnot⟩
    obtain ⟨s, hok⟩ := h.succeeds_iff.mpr hat
    rw [herror] at hok
    cases hok

/-- A row that has moved elsewhere is refused, and rightly. -/
lemma updates_of_moved (hid : order.orderId = row.orderId)
    (hloaded : ¬ orderMapping.IsAt orders row.orderId row.version)
    (hreached : ¬ orderMapping.IsAt orders row.orderId order.version) :
    Updates row order orders := by
  have herror : update.run (orders, order) =
      .error (.domain (optimisticLockError "Order" row.orderId.str)) (orders, order) := by
    rw [← hid] at hreached ⊢
    exact VersionedMapping.run_update_of_not (m := orderMapping) hreached
  have hnot : ∀ s, update.run (orders, order) ≠ .ok () s := by
    intro s hok
    rw [herror] at hok
    cases hok
  constructor
  · exact ⟨fun ⟨s, hok⟩ => absurd hok (hnot s), fun hat => absurd hat hloaded⟩
  · intro e s hrun
    rw [herror] at hrun
    obtain ⟨rfl, rfl⟩ := EStateM.Result.error.inj hrun
    exact ⟨rfl, rfl⟩
  · exact fun s hok => absurd hok (hnot s)

end Update

/-- **The optimistic update is correct** exactly for a row that another writer has deleted, or
moved to a version that is neither the one loaded nor the one the instance has reached. -/
theorem updates_iff (session : Session) {row : OrderRow} {calls : List Call} {order : Order}
    (hcalls : calls ≠ []) (h : transitions (session.instanceOfOrder row) calls = some order)
    (orders : OrderTable) :
    Updates row order orders ↔
      ¬ orderMapping.IsAt orders row.orderId row.version ∧
        ¬ orderMapping.IsAt orders row.orderId order.version := by
  obtain ⟨hversion, hid⟩ := transitions_version h
  have hid' : order.orderId = row.orderId := hid
  have hmoved : order.version ≠ row.version := by
    have hlength : 0 < calls.length := List.length_pos_of_ne_nil hcalls
    have hversion' : order.version = row.version + calls.length := hversion
    omega
  exact ⟨fun hupdates => hupdates.moved hid' hmoved, fun ⟨hloaded, hreached⟩ =>
    updates_of_moved hid' hloaded hreached⟩

/-! ### A confirmed payment -/

/-- An order that waits for its payment, once the payment is confirmed. -/
def confirmedOrder : Order :=
  Call.confirmPayment.effect (Session.new.instanceOfOrder Confirmation.waitingOrder)

lemma transitions_confirmed :
    transitions (Session.new.instanceOfOrder Confirmation.waitingOrder) [.confirmPayment] =
      some confirmedOrder := by
  have hrun : Call.confirmPayment.method.run
      (Session.new.instanceOfOrder Confirmation.waitingOrder) = .ok () confirmedOrder :=
    Call.run_quiet rfl id
  rw [transitions, hrun]
  rfl

/-- Nobody else has touched the row, and the update is refused. -/
theorem unchanged_row_refused :
    ¬ ∀ (session : Session) row calls order orders, calls ≠ [] →
      transitions (session.instanceOfOrder row) calls = some order → Updates row order orders := by
  intro h
  have hupdates := h .new Confirmation.waitingOrder [.confirmPayment] confirmedOrder
    (Table.empty.put Confirmation.waitingOrder) (List.cons_ne_nil _ _) transitions_confirmed
  have hversion : confirmedOrder.version ≠ Confirmation.waitingOrder.version := by decide
  have hmoved := hupdates.moved rfl hversion
  exact hmoved.1 ⟨Confirmation.waitingOrder, rfl, rfl⟩

/-- The row after another writer has cancelled the order in several steps. -/
def movedOrder : OrderRow :=
  { Confirmation.waitingOrder with status := .cancelled, version := 7 }

/-- To it the update does what it should: it is refused. -/
theorem updates_confirmed :
    Updates Confirmation.waitingOrder confirmedOrder (Table.empty.put movedOrder) := by
  have hstored : ∀ version, orderMapping.IsAt (Table.empty.put movedOrder) movedOrder.orderId
      version → version = 7 := by
    rintro version ⟨row, hfind, hversion⟩
    obtain rfl : movedOrder = row := Option.some.inj hfind
    exact hversion.symm
  refine (updates_iff .new (List.cons_ne_nil _ _) transitions_confirmed _).mpr ⟨?_, ?_⟩
  · intro hloaded
    exact absurd (hstored _ hloaded) (by decide)
  · intro hreached
    exact absurd (hstored _ hreached) (by decide)

end TicketGenius.OptimisticUpdate
