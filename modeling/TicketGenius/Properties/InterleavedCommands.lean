import TicketGenius.Properties.Support.Commands

/-!
# What no interleaving of commands can do

Two commands on one order can overwrite each other's transition, and a row's version can even go
back.  This file is about what survives all the same, for any number of workers, commands and
handlers and every interleaving of their operations.

A `RowInvariant` is a property of single rows that the transitions keep, and that is kept when an
`UPDATE` writes some columns of a transition over a row that has changed meanwhile.  Both results
are instances of it: the columns no transition is about never change (`records_fixed`), and the
statuses a row can get are those its own order's statuses at the start lead to
(`statuses_attainable`).  The column `updated_at` is an exception to the first: no transition is
about it, but every `UPDATE` sets it.

## Main results

* `RowInvariant.worldAfter`: the rule.
* `records_fixed`, `statuses_attainable`: every interleaving.
-/

namespace TicketGenius.Workers

open Framework Service OrderCommandHandler

/-! ## Row invariants -/

/-- `P` of an order's row and `Q` of a payment's are kept by the transitions, each of which has read
an order and perhaps its payment, and by an `UPDATE` from rows in them over a row in them. -/
structure RowInvariant (P : OrderRow → Prop) (Q : PaymentRow → Prop) : Prop where
  cancel : ∀ order, P order → Cancellable order → P (cancelledRow order)
  confirm : ∀ order payment intent, P order → Q payment → payment.orderId = order.orderId →
    order.status = .paymentInitiated → payment.status = .authorized →
    P (paidRow order) ∧ Q (capturedRow payment intent)
  refund : ∀ order payment amount, P order → Q payment → payment.orderId = order.orderId →
    Refundable order → payment.status = .captured →
    P (refundedRow order) ∧ Q (repaidRow payment amount)
  patchOrder : ∀ old new stored : OrderRow, new.orderId = stored.orderId → P new → P stored →
    P (old.patch new stored)
  patchPayment : ∀ old new stored : PaymentRow, new.orderId = stored.orderId → Q new → Q stored →
    Q (old.patch new stored)

/-- All rows of a world. -/
structure Rows (P : OrderRow → Prop) (Q : PaymentRow → Prop) (w : World) : Prop where
  orders : ∀ orderId row, w.orders.find orderId = some row → P row
  payments : ∀ orderId row, w.payments.find orderId = some row → Q row

/-- The same orders and payments, by their keys, and the same plans. -/
structure SameKeys (w w' : World) : Prop where
  orders : ∀ orderId, w'.orders.find orderId = none ↔ w.orders.find orderId = none
  payments : ∀ orderId, w'.payments.find orderId = none ↔ w.payments.find orderId = none
  plans : w'.plans = w.plans

/-- A change may be committed: it updates a row in the invariant to a row in the invariant. -/
def Admits (P : OrderRow → Prop) (Q : PaymentRow → Prop) : Change → Prop
  | .insertOrder _ | .insertPayment _ => False
  | .updateOrder old new => new.orderId = old.orderId ∧ P new
  | .updatePayment old new => new.orderId = old.orderId ∧ Q new

/-- A handler reads rows in the invariant, and commits such changes. -/
def rowContract (P : OrderRow → Prop) (Q : PaymentRow → Prop) : Contract service Unit where
  pre _ o := ∀ changes, o = .commit changes → ∀ change ∈ changes, Admits P Q change
  allows _ o reply :=
    match o, reply with
    | .ordersGet orderId, found => ∀ row, found = some row → row.orderId = orderId ∧ P row
    | .paymentsGetByOrderId orderId, found =>
      ∀ row, found = some row → row.orderId = orderId ∧ Q row
    | _, _ => True
  next _ _ _ := ()

section Invariant

variable {P : OrderRow → Prop} {Q : PaymentRow → Prop}

/-- One statement of a flush. -/
lemma RowInvariant.apply (hinv : RowInvariant P Q) {w w₀ : World} (hrows : Rows P Q w)
    (hkeys : SameKeys w₀ w) {change : Change} (hchange : Admits P Q change) :
    Rows P Q (w.apply change) ∧ SameKeys w₀ (w.apply change) := by
  cases change with
  | insertOrder row => exact hchange.elim
  | insertPayment row => exact hchange.elim
  | updateOrder old new =>
    refine ⟨⟨fun orderId row hrow => ?_, hrows.payments⟩, ⟨fun orderId => ?_, hkeys.payments,
      hkeys.plans⟩⟩
    · rw [World.find_updateOrder] at hrow
      split at hrow
      · obtain ⟨stored, hstored, rfl⟩ := Option.map_eq_some_iff.mp hrow
        exact hinv.patchOrder old new stored
          (hchange.1.trans (w.orders.keyed _ _ hstored).symm) hchange.2
          (hrows.orders _ stored hstored)
      · exact hrows.orders orderId row hrow
    · rw [World.find_updateOrder, ← hkeys.orders orderId]
      split
      · next heq => rw [heq, Option.map_eq_none_iff]
      · exact Iff.rfl
  | updatePayment old new =>
    refine ⟨⟨hrows.orders, fun orderId row hrow => ?_⟩, ⟨hkeys.orders, fun orderId => ?_,
      hkeys.plans⟩⟩
    · rw [World.find_updatePayment] at hrow
      split at hrow
      · obtain ⟨stored, hstored, rfl⟩ := Option.map_eq_some_iff.mp hrow
        exact hinv.patchPayment old new stored
          (hchange.1.trans (w.payments.keyed _ _ hstored).symm) hchange.2
          (hrows.payments _ stored hstored)
      · exact hrows.payments orderId row hrow
    · rw [World.find_updatePayment, ← hkeys.payments orderId]
      split
      · next heq => rw [heq, Option.map_eq_none_iff]
      · exact Iff.rfl

/-- A whole flush. -/
lemma RowInvariant.foldl_apply (hinv : RowInvariant P Q) {w w₀ : World} (hrows : Rows P Q w)
    (hkeys : SameKeys w₀ w) {changes : List Change}
    (hchanges : ∀ change ∈ changes, Admits P Q change) :
    Rows P Q (changes.foldl World.apply w) ∧ SameKeys w₀ (changes.foldl World.apply w) := by
  induction changes generalizing w with
  | nil => exact ⟨hrows, hkeys⟩
  | cons change changes ih =>
    obtain ⟨hfirst, hrest⟩ := List.forall_mem_cons.mp hchanges
    obtain ⟨hrows', hkeys'⟩ := hinv.apply hrows hkeys hfirst
    exact ih hrows' hkeys' hrest

/-- Only a commit changes records. -/
lemma records_handle {o : Op} (ho : ∀ changes, o ≠ .commit changes) (w : World) :
    (World.handle o w).2.orders = w.orders ∧ (World.handle o w).2.payments = w.payments ∧
      (World.handle o w).2.plans = w.plans := by
  cases o with
  | commit changes => exact absurd rfl (ho changes)
  | _ => exact ⟨rfl, rfl, rfl⟩

lemma Rows.of_eq {w w' : World} (h : Rows P Q w) (horders : w'.orders = w.orders)
    (hpayments : w'.payments = w.payments) : Rows P Q w' :=
  ⟨horders ▸ h.orders, hpayments ▸ h.payments⟩

lemma SameKeys.of_eq {w₀ w w' : World} (h : SameKeys w₀ w) (horders : w'.orders = w.orders)
    (hpayments : w'.payments = w.payments) (hplans : w'.plans = w.plans) : SameKeys w₀ w' :=
  ⟨horders ▸ h.orders, hpayments ▸ h.payments, hplans.trans h.plans⟩

lemma RowInvariant.sound (hinv : RowInvariant P Q) (w₀ : World) :
    Prog.SoundOn World.handle (rowContract P Q) (fun _ => ())
      fun w => Rows P Q w ∧ SameKeys w₀ w := by
  rintro o w ⟨hrows, hkeys⟩ hpre
  refine ⟨?_, rfl, ?_⟩
  · cases o with
    | ordersGet orderId =>
      exact fun row hrow => ⟨w.orders.keyed _ _ hrow, hrows.orders orderId row hrow⟩
    | paymentsGetByOrderId orderId =>
      exact fun row hrow => ⟨w.payments.keyed _ _ hrow, hrows.payments orderId row hrow⟩
    | _ => trivial
  · by_cases ho : ∀ changes, o ≠ .commit changes
    · obtain ⟨horders, hpayments, hplans⟩ := records_handle ho w
      exact ⟨hrows.of_eq horders hpayments, hkeys.of_eq horders hpayments hplans⟩
    · push Not at ho
      obtain ⟨changes, rfl⟩ := ho
      exact hinv.foldl_apply hrows hkeys (hpre changes rfl)

lemma rowContract_grants : Grants (rowContract P Q) where
  pre := fun _ _ ho changes heq => absurd heq (ho changes)
  plain := fun _ _ _ _ => rfl

/-- What a handler commits is what the invariant is closed under. -/
lemma RowInvariant.serves (hinv : RowInvariant P Q) (orderId : UUID) :
    Serves (rowContract P Q) () orderId where
  cancel := by
    rintro order hallows hcancellable changes ⟨⟩ change hchange
    obtain ⟨-, hP⟩ := hallows order rfl
    obtain rfl := List.mem_singleton.mp hchange
    exact ⟨rfl, hinv.cancel order hP hcancellable⟩
  confirm := by
    intro γ₁ γ₂ γ₃ order payment paymentIntentId intent _ _ _ hallowsOrder hallowsPayment _
      hinitiated hauthorized _
    rintro changes ⟨⟩
    obtain ⟨hid, hP⟩ := hallowsOrder order rfl
    obtain ⟨hof, hQ⟩ := hallowsPayment payment rfl
    obtain ⟨hpaid, hcaptured⟩ := hinv.confirm order payment intent hP hQ (hof.trans hid.symm)
      hinitiated hauthorized
    simp only [List.forall_mem_cons, List.not_mem_nil, false_imp_iff, implies_true, and_true]
    exact ⟨⟨rfl, hpaid⟩, rfl, hcaptured⟩
  refund := by
    intro γ₁ γ₂ order payment amount _ _ hallowsOrder hallowsPayment hrefundable hcaptured
    rintro changes ⟨⟩
    obtain ⟨hid, hP⟩ := hallowsOrder order rfl
    obtain ⟨hof, hQ⟩ := hallowsPayment payment rfl
    obtain ⟨hrefunded, hrepaid⟩ := hinv.refund order payment amount hP hQ (hof.trans hid.symm)
      hrefundable hcaptured
    simp only [List.forall_mem_cons, List.not_mem_nil, false_imp_iff, implies_true, and_true]
    exact ⟨⟨rfl, hrefunded⟩, rfl, hrepaid⟩

/-- **Row invariants hold in every interleaving**, and no row comes or goes. -/
theorem RowInvariant.worldAfter {ι : Type} [DecidableEq ι] (hinv : RowInvariant P Q) {w : World}
    (hw : Rows P Q w) (turns : List (Turn ι Job)) :
    Rows P Q (worldAfter w turns) ∧ SameKeys w (worldAfter w turns) :=
  Threads.invariant_of_contract (hinv.sound w)
    (fun _ => wp_program rowContract_grants fun orderId _ => hinv.serves orderId)
    ⟨hw, fun _ => Iff.rfl, fun _ => Iff.rfl, rfl⟩ () turns

end Invariant

/-! ## Columns that never change -/

/-- The columns of an order that no `UPDATE` changes: all but `status`, `version` and
`updated_at`. -/
def fixedOrder (row : OrderRow) : OrderRow := { row with status := .pending, version := 0 }

/-- Those of a payment: all but `status`, `provider_ref`, `version` and `updated_at`. -/
def fixedPayment (row : PaymentRow) : PaymentRow :=
  { row with status := .created, providerRef := none, version := 0 }

/-- No order, payment or plan has come or gone, and none has changed in such a column. -/
structure SameRecords (w w' : World) : Prop where
  orders : ∀ orderId,
    (w'.orders.find orderId).map fixedOrder = (w.orders.find orderId).map fixedOrder
  payments : ∀ orderId,
    (w'.payments.find orderId).map fixedPayment = (w.payments.find orderId).map fixedPayment
  plans : w'.plans = w.plans

lemma fixedOrder_patch (old : OrderRow) {new stored : OrderRow}
    (h : fixedOrder new = fixedOrder stored) :
    fixedOrder (old.patch new stored) = fixedOrder stored := by
  simp only [fixedOrder, OrderRow.mk.injEq, true_and, and_true] at h ⊢
  obtain ⟨-, hplan, hquantity, htotal, hattendee, hpayment, hseats⟩ := h
  simp only [OrderRow.patch, hplan, hquantity, htotal, hattendee, hpayment, hseats, ite_self,
    true_and]

lemma fixedPayment_patch (old : PaymentRow) {new stored : PaymentRow}
    (h : fixedPayment new = fixedPayment stored) :
    fixedPayment (old.patch new stored) = fixedPayment stored := by
  simp only [fixedPayment, PaymentRow.mk.injEq, true_and, and_true] at h ⊢
  obtain ⟨-, -, hamount, hprovider, hintent⟩ := h
  simp only [PaymentRow.patch, hamount, hprovider, hintent, ite_self, true_and]

/-- The row agrees, in such columns, with the one the world has under its key. -/
lemma rowInvariant_fixed (w : World) :
    RowInvariant
      (fun row => (w.orders.find row.orderId).map fixedOrder = some (fixedOrder row))
      (fun row => (w.payments.find row.orderId).map fixedPayment = some (fixedPayment row)) where
  cancel := fun _ hP _ => hP
  confirm := fun _ _ _ hP hQ _ _ _ => ⟨hP, hQ⟩
  refund := fun _ _ _ hP hQ _ _ _ => ⟨hP, hQ⟩
  patchOrder := by
    intro old new stored hid hnew hstored
    rw [hid, hstored] at hnew
    rw [fixedOrder_patch old (Option.some.inj hnew).symm]
    exact hstored
  patchPayment := by
    intro old new stored hid hnew hstored
    rw [hid, hstored] at hnew
    rw [fixedPayment_patch old (Option.some.inj hnew).symm]
    exact hstored

/-- Of two tables with the same keys, rows that agree with the first. -/
lemma map_find_eq {κ ρ τ : Type} {key : ρ → κ} {t t' : Table κ ρ key} {f : ρ → τ}
    (hkeys : ∀ k, t'.find k = none ↔ t.find k = none)
    (hrows : ∀ k r, t'.find k = some r → (t.find (key r)).map f = some (f r)) (k : κ) :
    (t'.find k).map f = (t.find k).map f := by
  cases hfind : t'.find k with
  | none => rw [(hkeys k).mp hfind]
  | some r =>
    have hrow := hrows k r hfind
    rw [t'.keyed k r hfind] at hrow
    rw [hrow, Option.map_some]

variable {ι : Type} [DecidableEq ι]

/-- **No interleaving of commands** creates or deletes an order or a payment, or changes what an
order is for or what a payment is of.  Of an order's row it leaves all as it was but the status, the
version and `updated_at`, of a payment's also the reference of the provider. -/
theorem records_fixed (w : World) (turns : List (Turn ι Job)) :
    SameRecords w (worldAfter w turns) := by
  have hw : Rows
      (fun row => (w.orders.find row.orderId).map fixedOrder = some (fixedOrder row))
      (fun row => (w.payments.find row.orderId).map fixedPayment = some (fixedPayment row)) w := by
    refine ⟨fun orderId row hrow => ?_, fun orderId row hrow => ?_⟩
    · rw [w.orders.keyed _ _ hrow, hrow, Option.map_some]
    · rw [w.payments.keyed _ _ hrow, hrow, Option.map_some]
  obtain ⟨hrows, hkeys⟩ := (rowInvariant_fixed w).worldAfter hw turns
  exact ⟨map_find_eq hkeys.orders hrows.orders, map_find_eq hkeys.payments hrows.payments,
    hkeys.plans⟩

/-! ## Statuses that can be attained -/

/-- An order in `o₀` whose payment, if there is one, is in `p₀` can come to be in `o`. -/
def OrderAttains (p₀ : Option PaymentStatus) (o₀ o : OrderStatus) : Prop :=
  o = o₀ ∨
  (o = .cancelled ∧ (o₀ = .pending ∨ o₀ = .seatsReserved ∨ o₀ = .paymentInitiated)) ∨
  (o = .paid ∧ o₀ = .paymentInitiated ∧ p₀ = some .authorized) ∨
  (o = .refunded ∧ ((o₀ = .paymentInitiated ∧ p₀ = some .authorized) ∨
    ((o₀ = .paid ∨ o₀ = .fulfilled) ∧ p₀ = some .captured)))

/-- A payment in `p₀` whose order, if there is one, is in `o₀` can come to be in `p`. -/
def PaymentAttains (o₀ : Option OrderStatus) (p₀ p : PaymentStatus) : Prop :=
  p = p₀ ∨
  (p = .captured ∧ p₀ = .authorized ∧ o₀ = some .paymentInitiated) ∨
  ((p = .refunded ∨ p = .partiallyRefunded) ∧
    ((p₀ = .authorized ∧ o₀ = some .paymentInitiated) ∨
      (p₀ = .captured ∧ (o₀ = some .paid ∨ o₀ = some .fulfilled))))

instance (p₀ : Option PaymentStatus) (o₀ o : OrderStatus) : Decidable (OrderAttains p₀ o₀ o) :=
  inferInstanceAs (Decidable (_ ∨ _))

instance (o₀ : Option OrderStatus) (p₀ p : PaymentStatus) : Decidable (PaymentAttains o₀ p₀ p) :=
  inferInstanceAs (Decidable (_ ∨ _))

/-- The statuses of the rows of an order in a world. -/
def orderStatus (w : World) (orderId : UUID) : Option OrderStatus :=
  (w.orders.find orderId).map OrderRow.status

def paymentStatus (w : World) (orderId : UUID) : Option PaymentStatus :=
  (w.payments.find orderId).map PaymentRow.status

/-- The row of an order is in a status that the world's statuses lead to. -/
def AttainedOrder (w : World) (row : OrderRow) : Prop :=
  ∃ o₀, orderStatus w row.orderId = some o₀ ∧
    OrderAttains (paymentStatus w row.orderId) o₀ row.status

def AttainedPayment (w : World) (row : PaymentRow) : Prop :=
  ∃ p₀, paymentStatus w row.orderId = some p₀ ∧
    PaymentAttains (orderStatus w row.orderId) p₀ row.status

/-- Only an order that was in one of the statuses a cancellation asks for can come to be in it. -/
lemma OrderAttains.cancel {p₀ : Option PaymentStatus} {o₀ o : OrderStatus}
    (h : OrderAttains p₀ o₀ o) (ho : o = .pending ∨ o = .seatsReserved ∨ o = .paymentInitiated) :
    OrderAttains p₀ o₀ .cancelled := by
  rcases h with rfl | ⟨rfl, -⟩ | ⟨rfl, -⟩ | ⟨rfl, -⟩
  · exact .inr (.inl ⟨rfl, ho⟩)
  · simp at ho
  · simp at ho
  · simp at ho

/-- What a confirmation asks for is what was there at the start. -/
lemma attains_confirmable {o₀ : OrderStatus} {p₀ : PaymentStatus}
    (ho : OrderAttains (some p₀) o₀ .paymentInitiated)
    (hp : PaymentAttains (some o₀) p₀ .authorized) :
    o₀ = .paymentInitiated ∧ p₀ = .authorized := by
  simp only [OrderAttains, PaymentAttains, reduceCtorEq, false_and, or_false] at ho hp
  exact ⟨ho.symm, hp.symm⟩

/-- What a refund asks for was there at the start, or a confirmation has led to it. -/
lemma attains_refundable {o₀ o : OrderStatus} {p₀ : PaymentStatus}
    (ho : OrderAttains (some p₀) o₀ o) (hpaid : o = .paid ∨ o = .fulfilled)
    (hp : PaymentAttains (some o₀) p₀ .captured) :
    (o₀ = .paymentInitiated ∧ p₀ = .authorized) ∨
      ((o₀ = .paid ∨ o₀ = .fulfilled) ∧ p₀ = .captured) := by
  simp only [PaymentAttains, reduceCtorEq, or_false, false_and, Option.some.injEq, true_and] at hp
  rcases hp with rfl | ⟨rfl, rfl⟩
  · rcases ho with rfl | ⟨rfl, -⟩ | ⟨-, -, hp⟩ | ⟨rfl, -⟩
    · exact .inr ⟨hpaid, rfl⟩
    · simp at hpaid
    · simp at hp
    · simp at hpaid
  · exact .inl ⟨rfl, rfl⟩

/-- An update writes the status of the new row or leaves the one that is stored. -/
lemma status_patchOrder (old new stored : OrderRow) :
    (old.patch new stored).status = new.status ∨ (old.patch new stored).status = stored.status := by
  simp only [OrderRow.patch]
  split
  · exact .inr rfl
  · exact .inl rfl

lemma status_patchPayment (old new stored : PaymentRow) :
    (old.patch new stored).status = new.status ∨ (old.patch new stored).status = stored.status := by
  simp only [PaymentRow.patch]
  split
  · exact .inr rfl
  · exact .inl rfl

/-- Rows of one order, both attained, with the statuses they come from. -/
lemma AttainedOrder.start {w : World} {order : OrderRow} {payment : PaymentRow}
    (ho : AttainedOrder w order) (hp : AttainedPayment w payment)
    (hof : payment.orderId = order.orderId) :
    ∃ o₀ p₀, orderStatus w order.orderId = some o₀ ∧ paymentStatus w order.orderId = some p₀ ∧
      OrderAttains (some p₀) o₀ order.status ∧ PaymentAttains (some o₀) p₀ payment.status := by
  obtain ⟨o₀, horder, ho⟩ := ho
  obtain ⟨p₀, hpayment, hp⟩ := hp
  rw [hof] at hpayment hp
  rw [hpayment] at ho
  rw [horder] at hp
  exact ⟨o₀, p₀, horder, hpayment, ho, hp⟩

lemma rowInvariant_attained (w : World) : RowInvariant (AttainedOrder w) (AttainedPayment w) where
  cancel := by
    rintro order ⟨o₀, horder, ho⟩ hcancellable
    exact ⟨o₀, horder, ho.cancel hcancellable⟩
  confirm := by
    intro order payment intent hP hQ hof hinitiated hauthorized
    obtain ⟨o₀, p₀, horder, hpayment, ho, hp⟩ := hP.start hQ hof
    rw [hinitiated] at ho
    rw [hauthorized] at hp
    obtain ⟨rfl, rfl⟩ := attains_confirmable ho hp
    refine ⟨⟨_, horder, .inr (.inr (.inl ⟨rfl, rfl, hpayment⟩))⟩, ?_⟩
    refine ⟨_, (congrArg _ hof).trans hpayment, .inr (.inl ⟨rfl, rfl, ?_⟩)⟩
    exact (congrArg _ hof).trans horder
  refund := by
    intro order payment amount hP hQ hof hrefundable hcaptured
    obtain ⟨o₀, p₀, horder, hpayment, ho, hp⟩ := hP.start hQ hof
    rw [hcaptured] at hp
    have hstart := attains_refundable ho hrefundable hp
    have hstatus : (repaidRow payment amount).status = .refunded ∨
        (repaidRow payment amount).status = .partiallyRefunded := by
      unfold repaidRow
      split
      · exact .inl rfl
      · exact .inr rfl
    have horder' : orderStatus w payment.orderId = some o₀ := (congrArg _ hof).trans horder
    refine ⟨⟨o₀, horder, .inr (.inr (.inr ⟨rfl, ?_⟩))⟩,
      p₀, (congrArg _ hof).trans hpayment, .inr (.inr ⟨hstatus, ?_⟩)⟩
    · simpa [refundedRow, hpayment] using hstart
    · have : orderStatus w (repaidRow payment amount).orderId = some o₀ := horder'
      rw [this]
      grind
  patchOrder := by
    rintro old new stored hid ⟨o₀, hnew, hon⟩ ⟨o₁, hstored, hos⟩
    rw [hid] at hnew hon
    obtain rfl : o₀ = o₁ := Option.some.inj (hnew.symm.trans hstored)
    refine ⟨o₀, hstored, ?_⟩
    rcases status_patchOrder old new stored with h | h
    · rw [h]
      exact hon
    · rw [h]
      exact hos
  patchPayment := by
    rintro old new stored hid ⟨p₀, hnew, hpn⟩ ⟨p₁, hstored, hps⟩
    rw [hid] at hnew hpn
    obtain rfl : p₀ = p₁ := Option.some.inj (hnew.symm.trans hstored)
    refine ⟨p₀, hstored, ?_⟩
    rcases status_patchPayment old new stored with h | h
    · rw [h]
      exact hpn
    · rw [h]
      exact hps

/-- **The statuses of an order and its payment**, in every interleaving of commands, are among those
that their statuses at the start lead to.  So a payment that is still `CREATED` stays so, whatever
is done, its order is not paid, and no order becomes `FULFILLED`. -/
theorem statuses_attainable (w : World) (turns : List (Turn ι Job)) :
    Rows (AttainedOrder w) (AttainedPayment w) (worldAfter w turns) := by
  have hw : Rows (AttainedOrder w) (AttainedPayment w) w := by
    refine ⟨fun orderId row hrow => ⟨row.status, ?_, .inl rfl⟩,
      fun orderId row hrow => ⟨row.status, ?_, .inl rfl⟩⟩
    · rw [orderStatus, w.orders.keyed _ _ hrow, hrow, Option.map_some]
    · rw [paymentStatus, w.payments.keyed _ _ hrow, hrow, Option.map_some]
  exact ((rowInvariant_attained w).worldAfter hw turns).1

end TicketGenius.Workers
