import TicketGenius.Properties.OrderLifecycle
import TicketGenius.ServiceLayer.Handlers

/-!
# A stored order and the one in memory

The instance a repository hands out has the mapped attributes of the stored order and no event list,
because `__init__` has not run on it.  Both instances receive the same calls.  They agree as long as
no call comes to `add_domain_event`: that is where the loaded one raises `AttributeError`, after it
has assigned its new status and version.

`behavesAlike_iff` puts this as a simulation.  Two instances with one row stay related by a call
that the original refuses or that emits nothing, and an accepted `fulfill` or `cancel` tells them
apart.
-/

namespace TicketGenius.StoredOrder

open Framework OrderLifecycle

/-! ## What a call shows -/

/-- How a call ends. -/
inductive Outcome
  | success
  | valueError
  | otherError
deriving DecidableEq

/-- How a call ended. -/
def outcomeOf : EStateM.Result PyError Order Unit → Outcome
  | .ok .. => .success
  | .error (.valueError _) _ => .valueError
  | .error .. => .otherError

/-- The instance a call has left. -/
def leftBy : EStateM.Result PyError Order Unit → Order
  | .ok _ o => o
  | .error _ o => o

/-- The instance after a call. -/
def after (o : Order) (c : Call) : Order := leftBy (c.method.run o)

/-- What a caller sees of a call. -/
structure Observation where
  outcome : Outcome
  status : OrderStatus
  version : ℤ
  seats : List Seat
  emitted : List DomainEvent

/-- What is seen of a call on an instance; the events are those its list has gained. -/
def observe (o : Order) (c : Call) : Observation where
  outcome := outcomeOf (c.method.run o)
  status := (after o c).status
  version := (after o c).version
  seats := (after o c).seats
  emitted := ((after o c).domainEvents.getD []).drop (o.domainEvents.getD []).length

/-- A call on the original and on the loaded instance shows the same, and if it raises it leaves the
loaded instance unchanged. -/
structure SameCall (original loaded : Order) (c : Call) : Prop where
  same : observe loaded c = observe original c
  atomic : (observe loaded c).outcome ≠ .success → after loaded c = loaded

/-- Every call of a sequence shows the same on both instances. -/
def BehavesAlike (original loaded : Order) : List Call → Prop :=
  Guarded (fun (p : Order × Order) c => (after p.1 c, after p.2 c))
    (fun p c => SameCall p.1 p.2 c) (original, loaded)

/-- The repository's instance of an order that has been stored. -/
def loadBack (o : Order) : Order := Session.new.instanceOfOrder o.toOrderRow

/-- No `fulfill` and no `cancel` of the sequence meets its guard. -/
def Quiet : Order → List Call → Prop :=
  Guarded after fun o c => ¬ (c.Emits ∧ c.Accepted o)

/-! ## One call -/

/-- The guard of a method reads mapped attributes only. -/
lemma accepted_congr {o l : Order} (hrow : l.toOrderRow = o.toOrderRow) (c : Call) :
    c.Accepted l ↔ c.Accepted o := by
  have hstatus : l.status = o.status := congrArg OrderRow.status hrow
  have hquantity : l.quantity = o.quantity := congrArg OrderRow.quantity hrow
  cases c <;> simp only [Call.Accepted, hstatus, hquantity]

/-- An accepted call that emits an event raises `AttributeError` on a loaded instance. -/
lemma outcome_emitting {l : Order} {c : Call} (hevents : l.domainEvents = none)
    (hc : c.Accepted l) (hemits : c.Emits) : (observe l c).outcome = .otherError := by
  cases c with
  | fulfill tickets stamp =>
    have hstatus : l.status = .paid := hc
    simp [observe, Call.method, Order.fulfill, Order.run_requireStatus,
      Order.run_addDomainEvent_none, hstatus, hevents, outcomeOf, PyError.noAttribute]
  | cancel reason stamp =>
    have hstatus : l.status = .pending ∨ l.status = .seatsReserved ∨
      l.status = .paymentInitiated := hc
    simp [observe, Call.method, Order.cancel, Order.run_requireStatus,
      Order.run_addDomainEvent_none, hstatus, hevents, outcomeOf, PyError.noAttribute]
  | _ => exact hemits.elim

lemma domainEvents_effect (o : Order) {c : Call} (hquiet : ¬ c.Emits) :
    (c.effect o).domainEvents = o.domainEvents := by
  cases c with
  | fulfill tickets stamp => exact absurd trivial hquiet
  | cancel reason stamp => exact absurd trivial hquiet
  | _ => rfl

/-! ## The simulation -/

/-- The loaded instance has the row of the original; the original has an event list, and the loaded
instance has none. -/
structure Related (original loaded : Order) : Prop where
  row : loaded.toOrderRow = original.toOrderRow
  original_events : original.domainEvents ≠ none
  loaded_events : loaded.domainEvents = none

namespace Related

variable {original loaded : Order} {c : Call}

/-- A refused call raises `ValueError` on both and changes neither. -/
lemma refused (h : Related original loaded) (hc : ¬ c.Accepted original) :
    SameCall original loaded c ∧ Related (after original c) (after loaded c) := by
  have hloaded : ¬ c.Accepted loaded := fun hl => hc ((accepted_congr h.row c).mp hl)
  obtain ⟨message, hrun⟩ := c.run_refused hc
  obtain ⟨message', hrun'⟩ := c.run_refused hloaded
  have hkept : after original c = original := by rw [after, hrun, leftBy]
  have hkept' : after loaded c = loaded := by rw [after, hrun', leftBy]
  constructor
  · refine ⟨?_, fun _ => hkept'⟩
    simp [observe, hkept, hkept', hrun, hrun', outcomeOf, h.row]
  · rwa [hkept, hkept']

lemma effect (h : Related original loaded) (hquiet : ¬ c.Emits) :
    Related (c.effect original) (c.effect loaded) := by
  obtain ⟨hrow, horiginal, hloaded⟩ := h
  cases c with
  | fulfill tickets stamp => exact absurd trivial hquiet
  | cancel reason stamp => exact absurd trivial hquiet
  | _ => exact ⟨by simp [Call.effect, hrow], horiginal, hloaded⟩

/-- An accepted call that emits nothing has the same effect on both. -/
lemma quiet (h : Related original loaded) (hc : c.Accepted original) (hquiet : ¬ c.Emits) :
    SameCall original loaded c ∧ Related (after original c) (after loaded c) := by
  have hrun := Call.run_quiet hc hquiet
  have hrun' := Call.run_quiet ((accepted_congr h.row c).mpr hc) hquiet
  have hleft : after original c = c.effect original := by rw [after, hrun, leftBy]
  have hleft' : after loaded c = c.effect loaded := by rw [after, hrun', leftBy]
  have heffect := h.effect hquiet
  constructor
  · constructor
    · have hevents := domainEvents_effect original hquiet
      have hevents' := domainEvents_effect loaded hquiet
      simp [observe, hleft, hleft', hrun, hrun', outcomeOf, heffect.row, hevents, hevents']
    · intro hraised
      exact absurd (by simp [observe, hrun', outcomeOf]) hraised
  · rwa [hleft, hleft']

/-- **Step lemma.**  A call shows the same on both exactly if it is not an accepted one that
emits, and then the two stay related. -/
theorem step (h : Related original loaded) :
    SameCall original loaded c ↔ ¬ (c.Emits ∧ c.Accepted original) := by
  constructor
  · rintro hsame ⟨hemits, hc⟩
    have hloaded := outcome_emitting h.loaded_events ((accepted_congr h.row c).mpr hc) hemits
    have horiginal : (observe original c).outcome = .success := by
      rcases c.run_cases h.original_events with ⟨-, hrun⟩ | ⟨hrefused, -⟩
      · rw [observe, hrun, outcomeOf]
      · exact absurd hc hrefused
    rw [hsame.same, horiginal] at hloaded
    cases hloaded
  · intro hnot
    by_cases hc : c.Accepted original
    · exact (h.quiet hc fun hemits => hnot ⟨hemits, hc⟩).1
    · exact (h.refused hc).1

theorem after_of_not (h : Related original loaded) (hnot : ¬ (c.Emits ∧ c.Accepted original)) :
    Related (after original c) (after loaded c) := by
  by_cases hc : c.Accepted original
  · exact (h.quiet hc fun hemits => hnot ⟨hemits, hc⟩).2
  · exact (h.refused hc).2

end Related

/-! ## Sequences of calls -/

/-- **A stored order behaves like the one in memory** exactly as long as no `fulfill` and no
`cancel` is accepted. -/
theorem behavesAlike_iff (orderId : UUID) (stamp : EventStamp) (planId : UUID)
    (quantity : TicketQuantity) (totalAmount : Money) (attendeeInfo : AttendeeInfo)
    (calls further : List Call) :
    let o := (history (Order.create orderId stamp planId quantity totalAmount attendeeInfo)
      calls).order
    BehavesAlike o (loadBack o) further ↔ Quiet o further := by
  intro o
  have hinv := run_invariant (fun h c (hinv : Invariant _ _ h) => hinv.step c)
    (invariant_create orderId stamp planId quantity totalAmount attendeeInfo) calls
  have hrelated : Related o (loadBack o) := ⟨rfl, hinv.events_ne_none, rfl⟩
  refine Guarded.iff_of_related (R := fun p o => p.1 = o ∧ Related p.1 p.2) ?_ ?_ ⟨rfl, hrelated⟩
  · rintro p o c ⟨rfl, h⟩
    exact h.step
  · rintro p o c ⟨rfl, h⟩ hnot
    exact ⟨rfl, h.after_of_not hnot⟩

/-- Loaded back, a new order cannot be cancelled. -/
theorem loaded_order_not_cancellable :
    ¬ ∀ orderId stamp planId quantity totalAmount attendeeInfo calls further,
      let o := (history (Order.create orderId stamp planId quantity totalAmount attendeeInfo)
        calls).order
      BehavesAlike o (loadBack o) further := by
  intro h
  have hcancel := h .nil ⟨.max, ⟨0⟩⟩ .nil ⟨1, by decide⟩ (Money.euros 10)
    ⟨"Ann", "ann@example.org", none, by decide, by decide⟩ [] [.cancel "" ⟨.max, ⟨0⟩⟩]
  have houtcome := congrArg Observation.outcome hcancel.1.same
  cases houtcome

end TicketGenius.StoredOrder
