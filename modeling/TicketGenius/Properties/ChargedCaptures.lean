import TicketGenius.Properties.InterleavedCommands

/-!
# Every capture has been charged

A confirmation captures the payment of its order when the provider answers that it took the money.
The ledger of a worker (`Ledger`) is the list of these answers, each under the order the worker was
confirming.  In every interleaving, a payment that has come to be captured, or refunded after that,
is in the ledger of some worker, with an intent within the provider's limit
(`captures_charged`).

Whose intent it was is another matter: a confirmation takes the intent its request names.

The step that is not local is the refund.  It finds the payment captured and commits later, when
the row may be another one; what carries it over is that no transition leads out of the statuses
that follow a capture, so the row is in one of them still (`Accurate.known`).
-/

namespace TicketGenius.Workers

open Framework Service OrderCommandHandler

/-! ## Ledgers -/

/-- The payment has been captured, and may have been refunded since. -/
def Taken (status : PaymentStatus) : Prop :=
  status = .captured ∨ status = .refunded ∨ status = .partiallyRefunded

instance (status : PaymentStatus) : Decidable (Taken status) :=
  inferInstanceAs (Decidable (_ ∨ _))

/-- What a worker has come to know. -/
structure Ledger where
  /-- The order its job is about. -/
  serving : Option UUID
  /-- The provider's answers that it took the money, with the order it was for. -/
  charged : List (UUID × PaymentIntent)
  /-- The orders whose payment it has found taken. -/
  found : List UUID

namespace Ledger

/-- Before any job. -/
def empty : Ledger := ⟨none, [], []⟩

/-- A worker begins a job. -/
def enter (job : Job) (γ : Ledger) : Ledger := { γ with serving := job.about }

/-- The worker has read the payment of an order. -/
def read (γ : Ledger) : Option PaymentRow → Ledger
  | none => γ
  | some payment =>
    if Taken payment.status then { γ with found := payment.orderId :: γ.found } else γ

/-- The provider has answered. -/
def hear (γ : Ledger) : Except PyError PaymentIntent → Ledger
  | .error _ => γ
  | .ok intent =>
    if intent.status = .succeeded then
      { γ with charged := γ.serving.toList.map (·, intent) ++ γ.charged }
    else γ

/-- What an operation adds. -/
def next (γ : Ledger) : (o : Op) → o.Reply → Ledger
  | .paymentsGetByOrderId _, found => γ.read found
  | .confirmPayment _, answer => γ.hear answer
  | _, _ => γ

/-- The worker knows that the payment of the order is taken, or may take it. -/
def Knows (γ : Ledger) (orderId : UUID) : Prop :=
  (∃ intent, (orderId, intent) ∈ γ.charged) ∨ orderId ∈ γ.found

/-- A change may be committed: it takes a payment only if the ledger says so. -/
def Admits (γ : Ledger) : Change → Prop
  | .insertOrder _ | .insertPayment _ => False
  | .updateOrder _ _ => True
  | .updatePayment old new => new.orderId = old.orderId ∧ Taken new.status ∧ γ.Knows new.orderId

/-- The contract of a worker. -/
def contract : Contract service Ledger where
  pre γ o := ∀ changes, o = .commit changes → ∀ change ∈ changes, γ.Admits change
  allows _ o reply :=
    match o, reply with
    | .paymentsGetByOrderId orderId, found => ∀ row, found = some row → row.orderId = orderId
    | .confirmPayment _, answer => ∀ intent, answer = .ok intent → intent.status = .succeeded →
        ¬ PaymentSimulatorAdapter.limit < intent.amount.amount
    | _, _ => True
  next := next

end Ledger

/-- The ledgers of the workers after some turns. -/
def ledgers {ι : Type} [DecidableEq ι] (w : World) (turns : List (Turn ι Job)) : ι → Ledger :=
  (run (Pool.turn World.handle (fun _ => Ledger.contract) Job.program Ledger.enter)
    ⟨Threads.idle w (), fun _ => .empty⟩ turns).view

/-! ## Ledgers are accurate -/

/-- The payment of the order is taken. -/
def TakenIn (w : World) (orderId : UUID) : Prop :=
  ∃ payment, w.payments.find orderId = some payment ∧ Taken payment.status

/-- The ledgers are accurate in a world that has come from `w₀`. -/
structure Accurate {ι : Type} (w₀ : World) (γ : ι → Ledger) (w : World) : Prop where
  covered : ∀ orderId, TakenIn w orderId →
    TakenIn w₀ orderId ∨ ∃ i intent, (orderId, intent) ∈ (γ i).charged
  known : ∀ i, ∀ orderId ∈ (γ i).found, TakenIn w orderId
  within : ∀ i, ∀ charge ∈ (γ i).charged,
    ¬ PaymentSimulatorAdapter.limit < charge.2.amount.amount

namespace Accurate

variable {ι : Type} {w₀ w w' : World} {γ : ι → Ledger} {i : ι}

lemma of_payments (h : Accurate w₀ γ w) (hpayments : w'.payments = w.payments) :
    Accurate w₀ γ w' := by
  have hsame (orderId : UUID) : TakenIn w' orderId ↔ TakenIn w orderId := by
    rw [TakenIn, TakenIn, hpayments]
  exact ⟨fun orderId htaken => h.covered orderId ((hsame orderId).mp htaken),
    fun i orderId hfound => (hsame orderId).mpr (h.known i orderId hfound), h.within⟩

/-- One statement of a flush: a payment that is written stays taken, or the ledger knew of it. -/
lemma apply (h : Accurate w₀ γ w) {change : Change} (hchange : (γ i).Admits change) :
    Accurate w₀ γ (w.apply change) := by
  cases change with
  | insertOrder row => exact hchange.elim
  | insertPayment row => exact hchange.elim
  | updateOrder old new => exact h.of_payments rfl
  | updatePayment old new =>
    obtain ⟨hid, htaken, hknows⟩ := hchange
    refine ⟨fun orderId htaken' => ?_, fun j orderId hfound => ?_, h.within⟩
    · obtain ⟨payment, hfind, hstatus⟩ := htaken'
      rw [World.find_updatePayment] at hfind
      split at hfind
      · next heq =>
        rw [heq, ← hid]
        rcases hknows with ⟨intent, hcharged⟩ | hfound
        · exact .inr ⟨i, intent, hcharged⟩
        · exact h.covered _ (h.known i _ hfound)
      · exact h.covered orderId ⟨payment, hfind, hstatus⟩
    · obtain ⟨payment, hfind, hstatus⟩ := h.known j orderId hfound
      rw [TakenIn, World.find_updatePayment]
      split
      · next heq =>
        refine ⟨old.patch new payment, by rw [← heq, hfind, Option.map_some], ?_⟩
        rcases status_patchPayment old new payment with hpatch | hpatch
        · rw [hpatch]
          exact htaken
        · rw [hpatch]
          exact hstatus
      · exact ⟨payment, hfind, hstatus⟩

lemma foldl_apply (h : Accurate w₀ γ w) {changes : List Change}
    (hchanges : ∀ change ∈ changes, (γ i).Admits change) :
    Accurate w₀ γ (changes.foldl World.apply w) := by
  induction changes generalizing w with
  | nil => exact h
  | cons change changes ih =>
    obtain ⟨hfirst, hrest⟩ := List.forall_mem_cons.mp hchanges
    exact ih (h.apply hfirst) hrest

variable [DecidableEq ι]

/-- A ledger has grown. -/
lemma grow (h : Accurate w₀ γ w) {ledger : Ledger}
    (hcharged : ∀ charge ∈ (γ i).charged, charge ∈ ledger.charged)
    (hwithin : ∀ charge ∈ ledger.charged,
      ¬ PaymentSimulatorAdapter.limit < charge.2.amount.amount)
    (hfound : ∀ orderId ∈ ledger.found, TakenIn w orderId) :
    Accurate w₀ (Function.update γ i ledger) w := by
  refine ⟨fun orderId htaken => ?_, fun j orderId hmem => ?_, fun j charge hmem => ?_⟩
  · refine (h.covered orderId htaken).imp_right ?_
    rintro ⟨j, intent, hmem⟩
    rcases eq_or_ne j i with rfl | hji
    · exact ⟨j, intent, by simpa using hcharged _ hmem⟩
    · exact ⟨j, intent, by simpa [hji] using hmem⟩
  · rcases eq_or_ne j i with rfl | hji
    · exact hfound orderId (by simpa using hmem)
    · exact h.known j orderId (by simpa [hji] using hmem)
  · rcases eq_or_ne j i with rfl | hji
    · exact hwithin charge (by simpa using hmem)
    · exact h.within j charge (by simpa [hji] using hmem)

lemma enter (h : Accurate w₀ γ w) (i : ι) (job : Job) :
    Accurate w₀ (Function.update γ i ((γ i).enter job)) w :=
  h.grow (fun _ => id) (h.within i) (h.known i)

lemma read (h : Accurate w₀ γ w) (i : ι) (orderId : UUID) :
    Accurate w₀ (Function.update γ i ((γ i).read (w.payments.find orderId))) w := by
  rcases hfind : w.payments.find orderId with _ | payment
  · exact h.grow (fun _ => id) (h.within i) (h.known i)
  · rw [Ledger.read]
    split
    · next htaken =>
      refine h.grow (fun _ => id) (h.within i) fun orderId' hmem => ?_
      rcases List.mem_cons.mp hmem with rfl | hmem
      · exact ⟨payment, by rw [w.payments.keyed _ _ hfind, hfind], htaken⟩
      · exact h.known i orderId' hmem
    · exact h.grow (fun _ => id) (h.within i) (h.known i)

lemma hear (h : Accurate w₀ γ w) (i : ι) {answer : Except PyError PaymentIntent}
    (hanswer : ∀ intent, answer = .ok intent → intent.status = .succeeded →
      ¬ PaymentSimulatorAdapter.limit < intent.amount.amount) :
    Accurate w₀ (Function.update γ i ((γ i).hear answer)) w := by
  rcases answer with e | intent
  · exact h.grow (fun _ => id) (h.within i) (h.known i)
  · rw [Ledger.hear]
    split
    · next hsucceeded =>
      refine h.grow (fun charge hmem => List.mem_append_right _ hmem) (fun charge hmem => ?_)
        (h.known i)
      rcases List.mem_append.mp hmem with hmem | hmem
      · obtain ⟨orderId, -, rfl⟩ := List.mem_map.mp hmem
        exact hanswer intent rfl hsucceeded
      · exact h.within i charge hmem
    · exact h.grow (fun _ => id) (h.within i) (h.known i)

end Accurate

/-- What the provider answers. -/
lemma handle_confirmPayment_ok {w : World} {paymentIntentId : String} {intent : PaymentIntent}
    (h : (World.handle (.confirmPayment paymentIntentId) w).1 = .ok intent)
    (hsucceeded : intent.status = .succeeded) :
    ¬ PaymentSimulatorAdapter.limit < intent.amount.amount := by
  simp only [World.handle, PaymentSimulatorAdapter.confirmPayment] at h
  split at h
  · cases h
  · next found hfound =>
    obtain rfl := Except.ok.inj h
    rw [PaymentSimulatorAdapter.attempt_status] at hsucceeded
    rw [PaymentSimulatorAdapter.attempt_amount]
    intro hlimit
    rw [if_pos hlimit] at hsucceeded
    cases hsucceeded

/-- **Every operation keeps the ledgers accurate.** -/
theorem views_accurate {ι : Type} [DecidableEq ι] (w₀ : World) :
    Views World.handle (fun _ : ι => Ledger.contract) (Accurate w₀) fun _ _ _ => True := by
  intro γ w i o hacc hpre _
  have hself : Accurate w₀ (Function.update γ i (γ i)) w := by
    rwa [Function.update_eq_self]
  cases o with
  | paymentsGetByOrderId orderId =>
    exact ⟨fun row hrow => w.payments.keyed _ _ hrow, hacc.read i orderId⟩
  | confirmPayment paymentIntentId =>
    have hanswer : ∀ intent, (World.handle (.confirmPayment paymentIntentId) w).1 = .ok intent →
        intent.status = .succeeded → ¬ PaymentSimulatorAdapter.limit < intent.amount.amount :=
      fun intent hok => handle_confirmPayment_ok hok
    exact ⟨hanswer, (hacc.hear i hanswer).of_payments rfl⟩
  | commit changes =>
    refine ⟨trivial, hself.foldl_apply (i := i) fun change hchange => ?_⟩
    rw [Function.update_self]
    exact hpre changes rfl change hchange
  | _ => exact ⟨trivial, hself.of_payments rfl⟩

/-! ## Workers keep to their ledgers -/

lemma ledger_grants : Grants Ledger.contract where
  pre := fun _ _ ho changes heq => absurd heq (ho changes)
  plain := by
    intro γ o r ho
    cases o with
    | paymentsGetByOrderId orderId => exact ho.elim
    | confirmPayment paymentIntentId => exact ho.elim
    | _ => rfl

/-- A worker takes no payment but that of the order it serves. -/
lemma ledger_serves {γ : Ledger} {orderId : UUID} (hserving : γ.serving = some orderId) :
    Serves Ledger.contract γ orderId where
  cancel := by
    rintro order - - changes ⟨⟩ change hchange
    obtain rfl := List.mem_singleton.mp hchange
    trivial
  confirm := by
    intro γ₁ γ₂ γ₃ order payment paymentIntentId intent h₁ h₂ h₃ _ hpayment _ _ hauthorized
      hsucceeded
    rintro changes ⟨⟩ change hchange
    have hid : payment.orderId = orderId := hpayment payment rfl
    have hknows : γ₃.Knows payment.orderId := by
      refine .inl ⟨intent, ?_⟩
      rw [← h₃, ← h₂, ← h₁, hid]
      simp [Ledger.contract, Ledger.next, Ledger.read, Ledger.hear, hauthorized, Taken, hsucceeded,
        hserving]
    rcases List.mem_pair.mp hchange with rfl | rfl
    · trivial
    · exact ⟨rfl, .inl rfl, hknows⟩
  refund := by
    intro γ₁ γ₂ order payment amount h₁ h₂ _ hpayment _ hcaptured
    rintro changes ⟨⟩ change hchange
    have hknows : γ₂.Knows payment.orderId := by
      refine .inr ?_
      rw [← h₂, ← h₁]
      simp [Ledger.contract, Ledger.next, Ledger.read, hcaptured, Taken]
    have hstatus : Taken (repaidRow payment amount).status := by
      unfold repaidRow
      split
      · exact .inr (.inl rfl)
      · exact .inr (.inr rfl)
    rcases List.mem_pair.mp hchange with rfl | rfl
    · trivial
    · exact ⟨rfl, hstatus, hknows⟩

variable {ι : Type} [DecidableEq ι]

/-- **In every interleaving of commands** a payment that has come to be taken is in the ledger of a
worker: while serving its order, the worker was told by the provider that it took the money of an
intent, of at most the provider's limit. -/
theorem captures_charged (w : World) (turns : List (Turn ι Job)) :
    Accurate w (ledgers w turns) (worldAfter w turns) := by
  let c : Pool service ι PyError Unit World Ledger := ⟨Threads.idle w (), fun _ => .empty⟩
  have hstart : c.Sound (fun _ => Ledger.contract) (Accurate w) fun _ _ _ => True :=
    { accurate := ⟨fun _ => .inl, fun _ _ h => (List.not_mem_nil h).elim,
        fun _ _ h => (List.not_mem_nil h).elim⟩
      meets := fun _ => trivial }
  have hsound := hstart.run Ledger.enter (views_accurate w) (fun _ _ i job hacc => hacc.enter i job)
    (fun _ _ _ => wp_program ledger_grants fun _ habout => ledger_serves habout) turns
  have hworld : (run (Pool.turn World.handle (fun _ => Ledger.contract) Job.program Ledger.enter)
      c turns).shared = worldAfter w turns := by
    rw [Pool.toThreads_run]
    rfl
  rw [← hworld]
  exact hsound.accurate

end TicketGenius.Workers
