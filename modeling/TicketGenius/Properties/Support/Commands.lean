import TicketGenius.Framework.Interleaving
import TicketGenius.Properties.Purchase
import TicketGenius.ServiceLayer.TransitionSpec

/-!
# Commands under a contract

The commands of `OrderCommandHandler`, begun at any time by any number of workers, each with a
handler of its own, and interleaved operation by operation.  `Serves` collects what a contract has
to grant so that every command about an order respects it: a handler only commits what a transition
makes of the rows it has read, and captures a payment only after the provider has answered that it
took the money.  The bodies of the handlers are walked through once, for `wp_program`; an invariant
then has to look at the three kinds of commits and no more.  `Covers` is for results that only look
at the operations a command performs.
-/

namespace TicketGenius.Workers

open Framework Service OrderCommandHandler

/-- A command, and the handler that serves it. -/
structure Job where
  handler : OrderCommandHandler
  command : OrderCommand

/-- The call of the handler; what it returns is the caller's. -/
def Job.program (job : Job) : Service Unit := do
  let _ ← job.command.program job.handler
  return ()

/-- The order a job is about; a new one has no id yet. -/
def Job.about (job : Job) : Option UUID :=
  match job.command with
  | .create _ => none
  | .confirm cmd => some cmd.orderId
  | .cancel cmd => some cmd.orderId
  | .refund cmd => some cmd.orderId

/-- The world after some turns of workers of whom none had begun a job. -/
def worldAfter {ι : Type} [DecidableEq ι] (w : World) (turns : List (Turn ι Job)) : World :=
  (run (Threads.turn World.handle Job.program) (Threads.idle w ()) turns).shared

/-! ## What a contract has to grant -/

/-- Operations that tell a handler nothing about the order's rows or the provider's verdict. -/
def Plain : Op → Prop
  | .ordersGet _ | .paymentsGetByOrderId _ | .confirmPayment _ | .commit _ => False
  | _ => True

/-- A contract that asks nothing of any operation but a commit. -/
structure Grants {Γ : Type} (C : Contract service Γ) : Prop where
  pre : ∀ γ o, (∀ changes, o ≠ .commit changes) → C.pre γ o
  plain : ∀ γ o r, Plain o → C.next γ o r = γ

/-- From the view `γ`, it grants the commits of commands about an order. -/
structure Serves {Γ : Type} (C : Contract service Γ) (γ : Γ) (orderId : UUID) : Prop where
  cancel : ∀ order, C.allows γ (.ordersGet orderId) (some order) → Cancellable order →
    C.pre (C.next γ (.ordersGet orderId) (some order))
      (.commit [.updateOrder order (cancelledRow order)])
  confirm : ∀ γ₁ γ₂ γ₃ order payment paymentIntentId intent,
    C.next γ (.ordersGet orderId) (some order) = γ₁ →
    C.next γ₁ (.paymentsGetByOrderId orderId) (some payment) = γ₂ →
    C.next γ₂ (.confirmPayment paymentIntentId) (.ok intent) = γ₃ →
    C.allows γ (.ordersGet orderId) (some order) →
    C.allows γ₁ (.paymentsGetByOrderId orderId) (some payment) →
    C.allows γ₂ (.confirmPayment paymentIntentId) (.ok intent) →
    order.status = .paymentInitiated → payment.status = .authorized →
    intent.status = .succeeded →
    C.pre γ₃ (.commit [.updateOrder order (paidRow order),
      .updatePayment payment (capturedRow payment intent)])
  refund : ∀ γ₁ γ₂ order payment amount,
    C.next γ (.ordersGet orderId) (some order) = γ₁ →
    C.next γ₁ (.paymentsGetByOrderId orderId) (some payment) = γ₂ →
    C.allows γ (.ordersGet orderId) (some order) →
    C.allows γ₁ (.paymentsGetByOrderId orderId) (some payment) →
    Refundable order → payment.status = .captured →
    C.pre γ₂ (.commit [.updateOrder order (refundedRow order),
      .updatePayment payment (repaidRow payment amount)])

/-! ## The operations of commands -/

/-- Operations among which are those of every command, up to what a confirmation does beyond reading
its rows. -/
structure Covers (P : Op → Prop) : Prop where
  commit : ∀ changes, P (.commit changes)
  rollback : P .rollback
  ordersGet : ∀ orderId, P (.ordersGet orderId)
  paymentsGetByOrderId : ∀ orderId, P (.paymentsGetByOrderId orderId)
  builds : ∀ o, Purchase.Builds o → P o
  releases : ∀ o, o.Releases → P o

namespace Covers

variable {P : Op → Prop} {α : Type} {self : OrderCommandHandler}

lemma withUnitOfWork (hP : Covers P) {body : Service (α × List Change)} (hbody : body.Uses P) :
    (withUnitOfWork body).Uses P := by
  refine Prog.Uses.onRaise (hbody.bind ?_) ⟨hP.rollback, fun _ => trivial⟩
  rintro ⟨result, changes⟩
  exact ⟨hP.commit changes, fun _ => trivial⟩

lemma getOrder (hP : Covers P) (orderId : UUID) : (self.getOrder orderId).Uses P := by
  refine ⟨hP.ordersGet orderId, fun found => ?_⟩
  rcases found with _ | row
  · trivial
  · exact Prog.uses_ofExcept _

lemma getPayment (hP : Covers P) (orderId : UUID) : (getPayment orderId).Uses P := by
  refine ⟨hP.paymentsGetByOrderId orderId, fun found => ?_⟩
  cases found <;> trivial

lemma releaseSeatHolds (hP : Covers P) (redis : Bool) (planId : UUID) (seatIds : List String)
    (orderId : UUID) : (releaseSeatHolds redis planId seatIds orderId).Uses P :=
  (uses_releaseSeatHolds ..).mono hP.releases

lemma create (hP : Covers P) (cmd : CreateOrderCommand) : (self.handleCreateOrder cmd).Uses P := by
  rw [self.handleCreateOrder_eq cmd, createSteps, Prog.erase_bind, Prog.erase_lift]
  have hnever := Purchase.buildPurchase_neverReturns self cmd
  have huses := (Purchase.uses_buildPurchase self cmd).mono hP.builds
  exact hP.withUnitOfWork (hnever.uses_bind huses _)

lemma cancel (hP : Covers P) (cmd : CancelOrderCommand) : (self.handleCancelOrder cmd).Uses P := by
  refine hP.withUnitOfWork ((hP.getOrder _).bind fun order => ?_)
  refine (hP.releaseSeatHolds ..).bind fun _ => ?_
  have hstamp : eventStamp.Uses P :=
    ⟨hP.builds _ trivial, fun _ => ⟨hP.builds _ trivial, fun _ => trivial⟩⟩
  exact hstamp.bind fun stamp => (uses_callOrder ..).bind fun _ => trivial

lemma refund (hP : Covers P) (cmd : RefundOrderCommand) : (self.handleRefundOrder cmd).Uses P := by
  refine hP.withUnitOfWork ((hP.getOrder _).bind fun order => ?_)
  refine (hP.getPayment _).bind fun payment => ?_
  exact (uses_callPayment ..).bind fun _ => (uses_callOrder ..).bind fun _ => trivial

end Covers

/-! ## Programs under such a contract -/

/-- What the body of a unit of work returns may be committed. -/
def Commits {α Γ : Type} (C : Contract service Γ) : Except PyError (α × List Change) → Γ → Prop
  | .ok (_, changes), γ => C.pre γ (.commit changes)
  | .error _, _ => True

lemma plain_of_settles {o : Op} (ho : o.Settles) : Plain o := by
  cases o with
  | redis c => trivial
  | plansGet planId => trivial
  | uuid4 => trivial
  | now => trivial
  | _ => exact ho.elim

lemma plain_of_builds {o : Op} (ho : Purchase.Builds o) : Plain o := by
  cases o with
  | plansGet planId => trivial
  | uuid4 => trivial
  | now => trivial
  | createPaymentIntent amount metadata => trivial
  | _ => exact ho.elim

lemma ne_commit_of_plain {o : Op} (ho : Plain o) (changes : List Change) : o ≠ .commit changes := by
  rintro rfl
  exact ho

/-- What the handler has to have found, if it comes to commit a cancellation. -/
lemma cancel_yields {reason : String} {order : Order} (stamp : EventStamp) :
    (callOrder (Order.cancel reason stamp) order >>= fun cancelled =>
      return ((), [Change.updateOrder order.toOrderRow cancelled.toOrderRow]) :
      Service (Unit × List Change)).Yields fun result =>
        Cancellable order.toOrderRow ∧
          result.2 = [.updateOrder order.toOrderRow (cancelledRow order.toOrderRow)] := by
  refine (yields_callOrder fun cancelled h => run_cancel_eq_ok h).bind fun cancelled h => ?_
  obtain ⟨hcancellable, -, hrow⟩ := h
  refine ⟨hcancellable, ?_⟩
  show [Change.updateOrder order.toOrderRow cancelled.toOrderRow] = _
  rw [hrow]

/-- The same of a confirmation. -/
lemma complete_yields (self : OrderCommandHandler) (order : Order) (payment : Payment)
    (intent : PaymentIntent) :
    (self.completePayment order payment intent).Yields fun result =>
      (order.status = .paymentInitiated ∧ payment.status = .authorized) ∧
        result.2 = [.updateOrder order.toOrderRow (paidRow order.toOrderRow),
          .updatePayment payment.toPaymentRow (capturedRow payment.toPaymentRow intent)] := by
  refine (yields_callPayment fun paid h => run_capture_eq_ok h).bind fun paid hpaid => ?_
  refine (yields_callOrder fun confirmed h => run_confirm_eq_ok h).bind fun confirmed hrow => ?_
  refine Prog.Yields.bind_right (fun plan => ?_) _
  refine (fulfill_yields _ _ _).bind fun result hresult => ?_
  refine ⟨⟨hrow.1, hpaid.1⟩, ?_⟩
  show [Change.updateOrder order.toOrderRow result.2.toOrderRow,
    .updatePayment payment.toPaymentRow paid.toPaymentRow] = _
  rw [hresult, hrow.2.1, hpaid.2]

/-- The same of a refund. -/
lemma refund_yields {amount : Option Money} {order : Order} {payment : Payment} :
    (callPayment (Payment.refund amount) payment >>= fun repaid =>
      callOrder Order.refund order >>= fun refunded =>
        return ((), [Change.updateOrder order.toOrderRow refunded.toOrderRow,
          .updatePayment payment.toPaymentRow repaid.toPaymentRow]) :
      Service (Unit × List Change)).Yields fun result =>
        (Refundable order.toOrderRow ∧ payment.status = .captured) ∧
          result.2 = [.updateOrder order.toOrderRow (refundedRow order.toOrderRow),
            .updatePayment payment.toPaymentRow (repaidRow payment.toPaymentRow amount)] := by
  refine (yields_callPayment fun repaid h => run_repay_eq_ok h).bind fun repaid hrepaid => ?_
  refine (yields_callOrder fun refunded h => run_refund_eq_ok h).bind fun refunded hrefunded => ?_
  refine ⟨⟨hrefunded.1, hrepaid.1⟩, ?_⟩
  show [Change.updateOrder order.toOrderRow refunded.toOrderRow,
    .updatePayment payment.toPaymentRow repaid.toPaymentRow] = _
  rw [hrefunded.2, hrepaid.2]

section Wp

variable {self : OrderCommandHandler} {Γ α β : Type} {C : Contract service Γ} {γ : Γ}

/-- A program that only performs plain operations, by what it can return. -/
lemma Grants.wp_plain (hC : Grants C) {p : Service α} {R : α → Prop}
    {Q : Except PyError α → Γ → Prop} (hp : p.Uses Plain) (hyields : p.Yields R)
    (hok : ∀ a, R a → Q (.ok a) γ) (herror : ∀ e, Q (.error e) γ) : p.wp C Q γ :=
  hp.wp_yields hyields (fun o ho => hC.pre γ o (ne_commit_of_plain ho))
    (fun o r ho => hC.plain γ o r ho) hok herror

/-- A unit of work asks for its body, for the commit of what that returns, and for a rollback. -/
lemma wp_unitOfWork (hrollback : ∀ γ, C.pre γ .rollback) {body : Service (α × List Change)}
    (hbody : body.wp C (Commits C) γ) : (withUnitOfWork body).wp C (fun _ _ => True) γ := by
  rw [withUnitOfWork, Prog.wp_onRaise, Prog.wp_bind]
  refine Prog.wp_mono (fun r γ' hr => ?_) hbody
  rcases r with e | ⟨result, changes⟩
  · exact ⟨hrollback γ', fun _ _ => trivial⟩
  · exact ⟨hr, fun _ _ => trivial⟩

lemma wp_getOrder {orderId : UUID} (hpre : C.pre γ (.ordersGet orderId))
    {f : OrderRow → Service (β × List Change)}
    (hf : ∀ order, C.allows γ (.ordersGet orderId) (some order) →
      (f order).wp C (Commits C) (C.next γ (.ordersGet orderId) (some order))) :
    (self.getOrder orderId >>= f).wp C (Commits C) γ := by
  refine ⟨hpre, fun found hfound => ?_⟩
  cases found with
  | none => trivial
  | some order =>
    refine Prog.wp_ofExcept_bind (fun loaded hload => ?_) fun _ => trivial
    obtain ⟨-, rfl⟩ := Session.load_eq_ok hload
    exact hf loaded hfound

lemma wp_getPayment {orderId : UUID} (hpre : C.pre γ (.paymentsGetByOrderId orderId))
    {f : PaymentRow → Service (β × List Change)}
    (hf : ∀ payment, C.allows γ (.paymentsGetByOrderId orderId) (some payment) →
      (f payment).wp C (Commits C) (C.next γ (.paymentsGetByOrderId orderId) (some payment))) :
    (getPayment orderId >>= f).wp C (Commits C) γ := by
  refine ⟨hpre, fun found hfound => ?_⟩
  cases found with
  | none => trivial
  | some payment => exact hf payment hfound

lemma Grants.wp_withUnitOfWork (hC : Grants C) {body : Service (α × List Change)}
    (hbody : body.wp C (Commits C) γ) : (withUnitOfWork body).wp C (fun _ _ => True) γ :=
  wp_unitOfWork (fun γ' => hC.pre γ' .rollback (by simp)) hbody

lemma Grants.wp_getOrder (hC : Grants C) {orderId : UUID}
    {f : OrderRow → Service (β × List Change)}
    (hf : ∀ order, C.allows γ (.ordersGet orderId) (some order) →
      (f order).wp C (Commits C) (C.next γ (.ordersGet orderId) (some order))) :
    (self.getOrder orderId >>= f).wp C (Commits C) γ :=
  Workers.wp_getOrder (hC.pre γ _ (by simp)) hf

lemma Grants.wp_getPayment (hC : Grants C) {orderId : UUID}
    {f : PaymentRow → Service (β × List Change)}
    (hf : ∀ payment, C.allows γ (.paymentsGetByOrderId orderId) (some payment) →
      (f payment).wp C (Commits C) (C.next γ (.paymentsGetByOrderId orderId) (some payment))) :
    (getPayment orderId >>= f).wp C (Commits C) γ :=
  Workers.wp_getPayment (hC.pre γ _ (by simp)) hf

lemma Grants.wp_create (hC : Grants C) (self : OrderCommandHandler) (cmd : CreateOrderCommand) :
    (self.handleCreateOrder cmd).wp C (fun _ _ => True) γ := by
  rw [self.handleCreateOrder_eq cmd, createSteps, Prog.erase_bind, Prog.erase_lift]
  have hnever := Purchase.buildPurchase_neverReturns self cmd
  have huses := (Purchase.uses_buildPurchase self cmd).mono fun _ => plain_of_builds
  refine hC.wp_withUnitOfWork (hC.wp_plain (hnever.uses_bind huses _) (hnever.bind_left _) ?_ ?_)
  · exact fun _ h => h.elim
  · exact fun _ => trivial

variable {self : OrderCommandHandler}

lemma Serves.wp_cancel {cmd : CancelOrderCommand} (hC : Grants C) (h : Serves C γ cmd.orderId) :
    (self.handleCancelOrder cmd).wp C (fun _ _ => True) γ := by
  refine hC.wp_withUnitOfWork (hC.wp_getOrder fun order hallows => ?_)
  have hrelease := (uses_releaseSeatHolds self.tm.redis order.planId
    (self.session.instanceOfOrder order).seatTexts order.orderId).mono
      fun _ ho => plain_of_settles ho.settles
  have hstamp : eventStamp.Uses Plain := ⟨trivial, fun _ => ⟨trivial, fun _ => trivial⟩⟩
  refine hC.wp_plain (hrelease.bind fun _ => hstamp.bind fun stamp => ?_)
    (.bind_right (fun _ => .bind_right (fun stamp => cancel_yields stamp) _) _) ?_ fun _ => trivial
  · exact (uses_callOrder ..).bind fun _ => trivial
  · rintro ⟨u, changes⟩ ⟨hcancellable, rfl⟩
    exact h.cancel order hallows hcancellable

lemma uses_checkPaymentIdempotency (redis : Bool) (paymentId : UUID) (key : String) :
    (checkPaymentIdempotency redis paymentId key).Uses Plain := by
  unfold checkPaymentIdempotency
  split
  · exact ⟨trivial, fun _ => trivial⟩
  · trivial

lemma Serves.wp_confirm {cmd : ConfirmPaymentCommand} (hC : Grants C)
    (h : Serves C γ cmd.orderId) :
    (self.handleConfirmPayment cmd).wp C (fun _ _ => True) γ := by
  refine hC.wp_withUnitOfWork (hC.wp_getOrder fun order hallowsOrder => ?_)
  refine hC.wp_getPayment fun payment hallowsPayment => ?_
  rw [Prog.wp_bind]
  refine hC.wp_plain (uses_checkPaymentIdempotency ..) (Prog.yields_true _) (fun first _ => ?_)
    fun _ => trivial
  cases first with
  | false => trivial
  | true =>
    show ((confirmPayment cmd.paymentIntentId >>= Prog.ofExcept) >>= _).wp C _ _
    rw [bind_assoc]
    refine ⟨hC.pre _ _ (by simp), fun answer hanswer => ?_⟩
    refine Prog.wp_ofExcept_bind (fun intent hintent => ?_) fun _ => trivial
    subst hintent
    unfold settlePayment
    split
    · refine hC.wp_plain (uses_declinePayment.mono fun _ => plain_of_settles)
        (declinePayment_neverReturns ..) (fun _ h => h.elim) fun _ => trivial
    · next hstatus =>
      refine hC.wp_plain (uses_completePayment.mono fun _ => plain_of_settles)
        (complete_yields ..) ?_ fun _ => trivial
      rintro ⟨result, changes⟩ ⟨⟨hinitiated, hauthorized⟩, rfl⟩
      exact h.confirm _ _ _ order payment cmd.paymentIntentId intent rfl rfl rfl
        hallowsOrder hallowsPayment hanswer hinitiated hauthorized (not_not.mp hstatus)

lemma Serves.wp_refund {cmd : RefundOrderCommand} (hC : Grants C) (h : Serves C γ cmd.orderId) :
    (self.handleRefundOrder cmd).wp C (fun _ _ => True) γ := by
  refine hC.wp_withUnitOfWork (hC.wp_getOrder fun order hallowsOrder => ?_)
  refine hC.wp_getPayment fun payment hallowsPayment => ?_
  refine hC.wp_plain ((uses_callPayment ..).bind fun _ => (uses_callOrder ..).bind fun _ => trivial)
    refund_yields ?_ fun _ => trivial
  rintro ⟨u, changes⟩ ⟨⟨hrefundable, hcaptured⟩, rfl⟩
  exact h.refund _ _ order payment cmd.amount rfl rfl hallowsOrder hallowsPayment hrefundable
    hcaptured

/-- **Every job respects a contract that serves it.** -/
theorem wp_program (hC : Grants C) {job : Job}
    (hserves : ∀ orderId, job.about = some orderId → Serves C γ orderId) :
    job.program.wp C (fun _ _ => True) γ := by
  have hcommand : (job.command.program job.handler).wp C (fun _ _ => True) γ := by
    obtain ⟨handler, command⟩ := job
    cases command with
    | create cmd => exact hC.wp_create handler cmd
    | confirm cmd => exact (hserves cmd.orderId rfl).wp_confirm hC
    | cancel cmd => exact (hserves cmd.orderId rfl).wp_cancel hC
    | refund cmd => exact (hserves cmd.orderId rfl).wp_refund hC
  rw [Job.program, Prog.wp_bind]
  refine Prog.wp_mono (fun r γ' _ => ?_) hcommand
  cases r with
  | ok result => trivial
  | error e => trivial

end Wp

end TicketGenius.Workers
