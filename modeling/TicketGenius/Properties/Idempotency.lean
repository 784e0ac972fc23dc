import TicketGenius.Framework.Run
import TicketGenius.Properties.Confirmation
import TicketGenius.Properties.Support.Exceptions
import TicketGenius.ServiceLayer.TransitionSpec
import Mathlib.Data.List.Induction

/-!
# Confirming again

An order with a stored payment receives one `ConfirmPaymentCommand` after the other.  The handler
stores the idempotency key before it looks at anything else, so a key is used up by the first
command that carries it, whatever becomes of the command; and a command with another key goes to
the provider again, whatever became of the commands before it.

Before that the handler has only loaded the order.  Where the session cannot load it the command
has no effect at all (`call_unloadable`); where it can, whether the provider takes the money in a
call is decided by the commands alone: their key is new, and the intent they name is within the
limit (`succeeds_iff`).  From this `idempotent_and_retryable_iff` reads off the sequences in which
it takes the money at most once and no command is left that failed and cannot be sent again.
-/

namespace TicketGenius.Idempotency

open Framework Service OrderCommandHandler
open PaymentSimulatorAdapter (attempt)

/-! ## Sequences of commands -/

/-- A `ConfirmPaymentCommand` for the order, and the session it is handled in. -/
structure Attempt where
  session : Session
  paymentIntentId : String
  idempotencyKey : String

/-- The command. -/
def Attempt.cmd (orderId : UUID) (a : Attempt) : ConfirmPaymentCommand :=
  ⟨orderId, a.paymentIntentId, a.idempotencyKey⟩

/-- The handler, with Redis configured. -/
def Attempt.handler (a : Attempt) : OrderCommandHandler := ⟨⟨true⟩, a.session⟩

/-- The call of `handle_confirm_payment`. -/
def Attempt.call (orderId : UUID) (a : Attempt) : Service PaymentConfirmedResult :=
  a.handler.handleConfirmPayment (a.cmd orderId)

/-- One call. -/
def step (orderId : UUID) (w : World) (a : Attempt) : World :=
  (a.call orderId).after World.handle w

/-- The operation is a `confirm_payment` that ends in `succeeded`. -/
def isSuccess : (o : Op) → o.Reply → Bool
  | .confirmPayment _, .ok intent => intent.status == .succeeded
  | _, _ => false

/-- Among the operations of a run is a `confirm_payment` that ends in `succeeded`. -/
def charged {α : Type} (p : Service α) (w : World) : Bool :=
  (p.trace World.handle w).any fun e => isSuccess e.1 e.2

/-- The number of calls in which the provider's `confirm_payment` ends in `succeeded`. -/
def successes (orderId : UUID) (w : World) : List Attempt → ℕ
  | [] => 0
  | a :: as =>
    (if charged (a.call orderId) w then 1 else 0) + successes orderId (step orderId w a) as

/-- A command that raised while no intent has succeeded can be sent again: it is not rejected with
`IdempotencyKeyUsedError`. -/
def Retryable (orderId : UUID) (w : World) (as : List Attempt) : Prop :=
  ∀ before a later, as = before ++ a :: later → successes orderId w (before ++ [a]) = 0 →
    (∃ e w', (a.call orderId).run World.handle (run (step orderId) w before) = .error e w') →
    ∀ session key w', ({ a with session := session }.call orderId).run World.handle
      (run (step orderId) w (before ++ [a])) ≠ .error (.domain (idempotencyKeyUsedError key)) w'

/-! ## What decides -/

/-- The key `handle_confirm_payment` uses for a command. -/
def Attempt.key (orderId paymentId : UUID) (a : Attempt) : String :=
  confirmationKey (a.cmd orderId) paymentId

/-- The key of a command is not in Redis. -/
def KeyUnused (orderId paymentId : UUID) (w : World) (a : Attempt) : Prop :=
  w.redis (paymentConfirmKey paymentId (a.key orderId paymentId)) = none

/-- Nor is it the key of an earlier command whose session can load the order. -/
def NewKey (orderId paymentId : UUID) (order : OrderRow) (w : World) (before : List Attempt)
    (a : Attempt) : Prop :=
  KeyUnused orderId paymentId w a ∧
    ∀ b ∈ before, b.session.Loads order → b.key orderId paymentId ≠ a.key orderId paymentId

/-- The command names an intent of the provider's within its limit. -/
def Affordable (w : World) (a : Attempt) : Prop :=
  ∃ intent, w.intents.find a.paymentIntentId = some intent ∧
    ¬ PaymentSimulatorAdapter.limit < intent.amount.amount

/-- Of the commands whose session can load the order, the first has a new key and names an
affordable intent, and no other does; up to there, no command's key is in Redis. -/
def OnlyFirstPays (orderId paymentId : UUID) (order : OrderRow) (w : World) (as : List Attempt) :
    Prop :=
  ∀ before a later, as = before ++ a :: later →
    ((∀ b ∈ before, ¬ b.session.Loads order) → KeyUnused orderId paymentId w a) ∧
    (a.session.Loads order → (NewKey orderId paymentId order w before a ∧ Affordable w a ↔
      ∀ b ∈ before, ¬ b.session.Loads order))

/-! ## Charging in a run -/

section Charged

variable {α β : Type} {w w' : World}

/-- Programs aside do not reach the provider. -/
lemma not_charged_of_aside {p : Service α} (hp : p.Aside) (w : World) : charged p w = false := by
  rw [charged, List.any_eq_false]
  rintro ⟨o, reply⟩ he
  have ho : o.Aside := hp.of_mem_trace _ _ he
  cases o with
  | confirmPayment paymentIntentId => exact ho.elim
  | _ => simp [isSuccess]

lemma charged_bind_ok {p : Service α} {a : α} (f : α → Service β)
    (hp : p.run World.handle w = .ok a w') :
    charged (p >>= f) w = (charged p w || charged (f a) w') := by
  rw [charged, Prog.trace_bind_ok _ _ hp, List.any_append]
  rfl

lemma charged_bind_error {p : Service α} {e : PyError} (f : α → Service β)
    (hp : p.run World.handle w = .error e w') : charged (p >>= f) w = charged p w := by
  rw [charged, Prog.trace_bind_error _ _ hp]
  rfl

/-- Neither `commit` nor `rollback` reaches the provider. -/
lemma charged_withUnitOfWork (body : Service (α × List Change)) (w : World) :
    charged (withUnitOfWork body) w = charged body w := by
  rw [charged, charged, withUnitOfWork, Prog.trace_onRaise, Prog.trace_bind, Prog.run_bind]
  cases body.run World.handle w with
  | ok result w' =>
    have hcommit : (do commit result.2; return result.1 : Service α).trace World.handle w' =
        [⟨.commit result.2, ()⟩] := rfl
    have hreturns : (do commit result.2; return result.1 : Service α).run World.handle w' =
        .ok result.1 (result.2.foldl World.apply w') := rfl
    dsimp only
    rw [hcommit, hreturns]
    simp [isSuccess]
  | error e w' =>
    have hrollback : (rollback >>= fun _ => .raise e : Service α).trace World.handle w' =
        [⟨.rollback, ()⟩] := rfl
    dsimp only
    rw [hrollback]
    simp [isSuccess]

end Charged

/-! ## One call -/

section Call

variable {handler : OrderCommandHandler} {cmd : ConfirmPaymentCommand} {w : World}
  {order : OrderRow} {payment : PaymentRow} {intent : PaymentIntent}

/-- The part of `handle_confirm_payment` after the check of the key. -/
def askProvider (handler : OrderCommandHandler) (cmd : ConfirmPaymentCommand) (order : OrderRow)
    (payment : PaymentRow) : Service (PaymentConfirmedResult × List Change) := do
  let intent ← confirmPayment cmd.paymentIntentId >>= Prog.ofExcept
  handler.settlePayment (handler.session.instanceOfOrder order)
    (handler.session.instanceOfPayment payment) intent

/-- The part of `handle_confirm_payment` after the two rows are found. -/
def checkAndAsk (handler : OrderCommandHandler) (cmd : ConfirmPaymentCommand) (order : OrderRow)
    (payment : PaymentRow) : Service (PaymentConfirmedResult × List Change) := do
  let key := confirmationKey cmd payment.paymentId
  let first ← checkPaymentIdempotency handler.tm.redis payment.paymentId key
  if !first then Prog.raise (.domain (idempotencyKeyUsedError key))
  else askProvider handler cmd order payment

lemma confirmBody_rows {handler : OrderCommandHandler} {cmd : ConfirmPaymentCommand}
    (horder : w.orders.find cmd.orderId = some order) (hloads : handler.session.Loads order)
    (hpayment : w.payments.find cmd.orderId = some payment) :
    (handler.confirmBody cmd).run World.handle w =
        (checkAndAsk handler cmd order payment).run World.handle w ∧
      charged (handler.confirmBody cmd) w = charged (checkAndAsk handler cmd order payment) w := by
  have hgetOrder := run_getOrder_some horder hloads
  have hgetPayment := run_getPayment_some hpayment
  have hnoOrder := not_charged_of_aside (aside_getOrder handler cmd.orderId) w
  have hnoPayment := not_charged_of_aside (aside_getPayment cmd.orderId) w
  constructor
  · rw [confirmBody, Prog.run_bind_ok _ _ hgetOrder, Prog.run_bind_ok _ _ hgetPayment]
    rfl
  · rw [confirmBody, charged_bind_ok _ hgetOrder, charged_bind_ok _ hgetPayment, hnoOrder,
      hnoPayment, Bool.false_or, Bool.false_or]
    rfl

/-- **A used key** is rejected, and nothing happens. -/
lemma checkAndAsk_used (hredis : handler.tm.redis = true) (hused : w.redis (paymentConfirmKey
    payment.paymentId (confirmationKey cmd payment.paymentId)) ≠ none) :
    (checkAndAsk handler cmd order payment).run World.handle w =
        .error (.domain (idempotencyKeyUsedError (confirmationKey cmd payment.paymentId))) w ∧
      charged (checkAndAsk handler cmd order payment) w = false := by
  have hcheck := run_checkPaymentIdempotency_used hused
  rw [← hredis] at hcheck
  have hnone := not_charged_of_aside (aside_checkPaymentIdempotency handler.tm.redis
    payment.paymentId (confirmationKey cmd payment.paymentId)) w
  constructor
  · rw [checkAndAsk, Prog.run_bind_ok _ _ hcheck]
    rfl
  · rw [checkAndAsk, charged_bind_ok _ hcheck, hnone]
    rfl

/-- The world after a new key has been stored. -/
def World.withKey (w : World) (paymentId : UUID) (key : String) : World :=
  { w with
    redis := Function.update w.redis (paymentConfirmKey paymentId key)
      (some ⟨.text "1", some paymentConfirmTtl⟩) }

/-- **A new key** is stored, and the provider is asked. -/
lemma checkAndAsk_new (hredis : handler.tm.redis = true) (hnew : w.redis (paymentConfirmKey
    payment.paymentId (confirmationKey cmd payment.paymentId)) = none) :
    let w₁ := World.withKey w payment.paymentId (confirmationKey cmd payment.paymentId)
    (checkAndAsk handler cmd order payment).run World.handle w =
        (askProvider handler cmd order payment).run World.handle w₁ ∧
      charged (checkAndAsk handler cmd order payment) w =
        charged (askProvider handler cmd order payment) w₁ := by
  intro w₁
  have hcheck : (checkPaymentIdempotency handler.tm.redis payment.paymentId
      (confirmationKey cmd payment.paymentId)).run World.handle w = .ok true w₁ := by
    rw [checkPaymentIdempotency, if_pos hredis, run_redisSetNx, Redis.execute_setNx_free hnew]
    rfl
  have hnone := not_charged_of_aside (aside_checkPaymentIdempotency handler.tm.redis
    payment.paymentId (confirmationKey cmd payment.paymentId)) w
  constructor
  · rw [checkAndAsk, Prog.run_bind_ok _ _ hcheck]
    rfl
  · rw [checkAndAsk, charged_bind_ok _ hcheck, hnone, Bool.false_or]
    rfl

/-- What follows the provider's answer does not ask it again. -/
lemma uses_settlePayment (handler : OrderCommandHandler) (order : Order) (payment : Payment)
    (intent : PaymentIntent) : (handler.settlePayment order payment intent).Uses Op.Settles := by
  unfold settlePayment
  split
  · exact uses_declinePayment
  · exact uses_completePayment

/-- The one request to the provider. -/
lemma charged_confirmPayment (paymentIntentId : String) (w : World) :
    charged (confirmPayment paymentIntentId >>= Prog.ofExcept : Service PaymentIntent) w =
      isSuccess (.confirmPayment paymentIntentId) (PaymentSimulatorAdapter.confirmPayment w.intents
        paymentIntentId w.entropy.now.1.timestamp).1 := by
  have hanswered : ∀ x : Except PyError PaymentIntent, ∀ w',
      charged (Prog.ofExcept x : Service PaymentIntent) w' = false :=
    fun x w' => not_charged_of_aside (Prog.uses_ofExcept x) w'
  rw [charged_bind_ok _ (run_confirmPayment ..), hanswered, Bool.or_false]
  exact Bool.or_false _

/-- The provider takes the money of an affordable intent. -/
lemma charged_askProvider :
    charged (askProvider handler cmd order payment) w = true ↔
      ∃ intent, w.intents.find cmd.paymentIntentId = some intent ∧
        ¬ PaymentSimulatorAdapter.limit < intent.amount.amount := by
  have hrequest := charged_confirmPayment cmd.paymentIntentId w
  cases hintent : w.intents.find cmd.paymentIntentId with
  | none =>
    obtain ⟨e, w', hraise, -⟩ := run_confirmPayment_unknown hintent
    rw [askProvider, charged_bind_error _ hraise, hrequest]
    simp [PaymentSimulatorAdapter.confirmPayment, hintent, isSuccess]
  | some intent =>
    obtain ⟨time, w', hanswer, -⟩ := run_confirmPayment_known hintent
    have hsettle := not_charged_of_aside ((uses_settlePayment handler
      (handler.session.instanceOfOrder order) (handler.session.instanceOfPayment payment)
      (attempt intent time)).mono fun _ ho => ho.aside) w'
    rw [askProvider, charged_bind_ok _ hanswer, hrequest, hsettle, Bool.or_false]
    simp [PaymentSimulatorAdapter.confirmPayment, hintent, isSuccess,
      PaymentSimulatorAdapter.attempt_status]

/-! ### The keys after a call -/

lemma paymentConfirmKey_injective (paymentId : UUID) :
    Function.Injective (paymentConfirmKey paymentId) := by
  intro k k' h
  have h' := (String.append_right_inj _).mp ((String.append_right_inj _).mp h)
  exact (String.append_right_inj _).mp h'

/-- What follows the provider's answer stores no idempotency key. -/
lemma redis_of_settles {o : Op} (ho : o.Settles) (w : World) (paymentId : UUID) (key : String) :
    (World.handle o w).2.redis (paymentConfirmKey paymentId key) =
      w.redis (paymentConfirmKey paymentId key) := by
  cases o with
  | redis c =>
    cases c with
    | get k => rfl
    | delete k =>
      obtain ⟨planId, seatId, rfl⟩ := ho
      have hne := (seatHoldKey_ne_paymentConfirmKey planId seatId paymentId key).symm
      exact Function.update_of_ne hne none w.redis
    | setex k ttl value =>
      cases value with
      | text t => exact ho.elim
      | json document =>
        obtain ⟨rest, rfl⟩ := ho
        have hne : paymentConfirmKey paymentId key ≠ "tm:" ++ rest :=
          append_ne_append 0 (c := 'p') (d := 't') rfl rfl (by decide)
        exact Function.update_of_ne hne (some ⟨.json document, some ttl⟩) w.redis
    | setNx k value ttl => exact ho.elim
  | plansGet planId => rfl
  | uuid4 => rfl
  | now => rfl
  | _ => exact ho.elim

lemma redis_askProvider (w : World) (paymentId : UUID) (key : String) :
    ((askProvider handler cmd order payment).after World.handle w).redis
      (paymentConfirmKey paymentId key) = w.redis (paymentConfirmKey paymentId key) := by
  have huses : (askProvider handler cmd order payment).Uses fun o : Op =>
      o.Settles ∨ o = .confirmPayment cmd.paymentIntentId := by
    refine Prog.Uses.bind ?_ fun intent => ?_
    · exact Prog.Uses.bind (p := confirmPayment _) ⟨.inr rfl, fun _ => trivial⟩
        fun reply => Prog.uses_ofExcept reply
    · exact (uses_settlePayment ..).mono fun _ ho => .inl ho
  refine huses.run_unchanged (f := fun w => w.redis (paymentConfirmKey paymentId key)) ?_ w
  rintro o w (ho | rfl)
  · exact redis_of_settles ho w paymentId key
  · rfl

/-- The exit of the unit of work leaves Redis alone. -/
lemma redis_withUnitOfWork {α : Type} (body : Service (α × List Change)) (w : World) :
    ((withUnitOfWork body).after World.handle w).redis = (body.after World.handle w).redis := by
  rw [Prog.after, Prog.after, run_withUnitOfWork]
  cases body.run World.handle w with
  | ok result w' => exact (World.foldl_apply_frame result.2 w').1
  | error e w' => rfl

/-- The exception is no `IdempotencyKeyUsedError`. -/
def NoRejection (e : PyError) : Prop := ∀ key, e ≠ .domain (idempotencyKeyUsedError key)

lemma noRejection_domain {e : DomainException} (he : e.code ≠ .idempotencyKeyUsed) :
    NoRejection (.domain e) := by
  intro key hsame
  rw [PyError.domain.injEq] at hsame
  rw [hsame] at he
  exact he rfl

/-- With the key out of the way, nothing is rejected for it. -/
lemma noRejection_askProvider {e : PyError} {w' : World}
    (hrun : (askProvider handler cmd order payment).run World.handle w = .error e w') :
    NoRejection e := by
  have hcovers : Covers NoRejection := by
    constructor
    all_goals
      intros
      intro key hsame
      cases hsame
  have hsettle : ∀ intent, (handler.settlePayment (handler.session.instanceOfOrder order)
      (handler.session.instanceOfPayment payment) intent).RaisesOnly (fun _ _ => True)
        NoRejection :=
    fun intent => raisesOnly_settlePayment handler hcovers
      (fun _ _ => noRejection_domain (by simp [paymentDeclinedError]))
      (fun _ => noRejection_domain (by simp [planNotFoundError])) _ _ intent
  cases hintent : w.intents.find cmd.paymentIntentId with
  | none =>
    have hanswer := run_confirmPayment w cmd.paymentIntentId
    rw [PaymentSimulatorAdapter.confirmPayment, hintent] at hanswer
    rw [askProvider, Prog.run_bind_error _ _ (Prog.run_bind_ok _ _ hanswer)] at hrun
    obtain ⟨rfl, -⟩ := EStateM.Result.error.inj hrun
    intro key hsame
    cases hsame
  | some intent =>
    obtain ⟨time, w₁, hanswer, -⟩ := run_confirmPayment_known hintent
    rw [askProvider, Prog.run_bind_ok _ _ hanswer] at hrun
    exact (hsettle _).of_run (fun _ _ => trivial) hrun

end Call

/-! ## An attempt -/

section Attempt

variable {orderId : UUID} {w : World} {order : OrderRow} {payment : PaymentRow} {a : Attempt}

/-- **An order that cannot be loaded**: the handler raises, and nothing has happened. -/
lemma call_unloadable (horder : w.orders.find orderId = some order)
    (hloads : ¬ a.session.Loads order) :
    ∃ message, (a.call orderId).run World.handle w = .error (.typeError message) w ∧
      charged (a.call orderId) w = false := by
  have hfound : w.orders.find (a.cmd orderId).orderId = some order := horder
  have hloads' : ¬ a.handler.session.Loads order := hloads
  obtain ⟨message, hraise⟩ := run_getOrder_unloadable hfound hloads'
  have hnone := not_charged_of_aside (aside_getOrder a.handler (a.cmd orderId).orderId) w
  refine ⟨message, ?_, ?_⟩
  · rw [Attempt.call, handleConfirmPayment, run_withUnitOfWork, confirmBody,
      Prog.run_bind_error _ _ hraise]
    rfl
  · rw [Attempt.call, handleConfirmPayment, charged_withUnitOfWork, confirmBody,
      charged_bind_error _ hraise, hnone]

/-- **An order that can be loaded**: the key is checked, and the provider asked. -/
lemma call_loadable (horder : w.orders.find orderId = some order)
    (hpayment : w.payments.find orderId = some payment) (hloads : a.session.Loads order) :
    (a.call orderId).run World.handle w = exitUnitOfWork
        ((checkAndAsk a.handler (a.cmd orderId) order payment).run World.handle w) ∧
      charged (a.call orderId) w =
        charged (checkAndAsk a.handler (a.cmd orderId) order payment) w := by
  have hfound : w.orders.find (a.cmd orderId).orderId = some order := horder
  have hloads' : a.handler.session.Loads order := hloads
  obtain ⟨hrun, hcharged⟩ := confirmBody_rows hfound hloads' hpayment
  rw [Attempt.call, handleConfirmPayment, run_withUnitOfWork, charged_withUnitOfWork, hrun,
    hcharged]
  exact ⟨rfl, rfl⟩

/-- **A used key** is rejected. -/
lemma call_used (horder : w.orders.find orderId = some order)
    (hpayment : w.payments.find orderId = some payment) (hloads : a.session.Loads order)
    (hused : ¬ KeyUnused orderId payment.paymentId w a) :
    ∃ key, (a.call orderId).run World.handle w =
      .error (.domain (idempotencyKeyUsedError key)) w := by
  rw [(call_loadable horder hpayment hloads).1, (checkAndAsk_used rfl hused).1]
  exact ⟨_, rfl⟩

/-- **An unused key** is not. -/
lemma call_unused (horder : w.orders.find orderId = some order)
    (hpayment : w.payments.find orderId = some payment)
    (hunused : KeyUnused orderId payment.paymentId w a) (key : String) (w' : World) :
    (a.call orderId).run World.handle w ≠ .error (.domain (idempotencyKeyUsedError key)) w' := by
  by_cases hloads : a.session.Loads order
  · rw [(call_loadable horder hpayment hloads).1, (checkAndAsk_new rfl hunused).1]
    cases hask : (askProvider a.handler (a.cmd orderId) order payment).run World.handle
        (World.withKey w payment.paymentId (confirmationKey (a.cmd orderId) payment.paymentId)) with
    | ok result w₁ => nofun
    | error e w₁ =>
      intro hrejected
      obtain ⟨rfl, -⟩ := EStateM.Result.error.inj hrejected
      exact noRejection_askProvider hask key rfl
  · obtain ⟨message, hraise, -⟩ := call_unloadable horder hloads
    rw [hraise]
    nofun

end Attempt

/-! ## The commands so far -/

/-- What a sequence of commands leaves of the world `w`: the order, as far as loading it goes, and
its payment, the keys used so far besides those in `w`, and the amounts of the intents. -/
structure Reached (orderId paymentId : UUID) (order : OrderRow) (w : World) (before : List Attempt)
    (w' : World) : Prop where
  found : ∃ order', w'.orders.find orderId = some order' ∧
    ∀ session : Session, session.Loads order' ↔ session.Loads order
  payment : ∃ payment, w'.payments.find orderId = some payment ∧ payment.paymentId = paymentId
  keys : ∀ key, w'.redis (paymentConfirmKey paymentId key) = none ↔
    w.redis (paymentConfirmKey paymentId key) = none ∧
      ∀ b ∈ before, b.session.Loads order → b.key orderId paymentId ≠ key
  amounts : ∀ id, (w'.intents.find id).map PaymentIntent.amount =
    (w.intents.find id).map PaymentIntent.amount

namespace Reached

variable {orderId paymentId : UUID} {order : OrderRow} {w w' : World} {before : List Attempt}

lemma start {payment : PaymentRow} (horder : w.orders.find orderId = some order)
    (hpayment : w.payments.find orderId = some payment) :
    Reached orderId payment.paymentId order w [] w :=
  ⟨⟨order, horder, fun _ => Iff.rfl⟩, ⟨payment, hpayment, rfl⟩, by simp, fun _ => rfl⟩

/-- A command has a new key exactly if it is not in Redis when the command is handled. -/
lemma newKey_iff (h : Reached orderId paymentId order w before w') (a : Attempt) :
    NewKey orderId paymentId order w before a ↔ KeyUnused orderId paymentId w' a :=
  (h.keys _).symm

lemma affordable_iff (h : Reached orderId paymentId order w before w') (a : Attempt) :
    Affordable w a ↔ Affordable w' a := by
  have hamount := h.amounts a.paymentIntentId
  constructor
  · rintro ⟨intent, hfind, hlimit⟩
    rw [hfind, Option.map_some, Option.map_eq_some_iff] at hamount
    obtain ⟨intent', hfind', hsame⟩ := hamount
    exact ⟨intent', hfind', hsame ▸ hlimit⟩
  · rintro ⟨intent, hfind, hlimit⟩
    rw [hfind, Option.map_some, eq_comm, Option.map_eq_some_iff] at hamount
    obtain ⟨intent', hfind', hsame⟩ := hamount
    exact ⟨intent', hfind', hsame ▸ hlimit⟩

/-- **Who pays.**  The provider takes the money of a command exactly if the order can be loaded, the
key is new and the intent affordable. -/
theorem succeeds_iff (h : Reached orderId paymentId order w before w') (a : Attempt) :
    charged (a.call orderId) w' = true ↔
      a.session.Loads order ∧ NewKey orderId paymentId order w before a ∧ Affordable w a := by
  obtain ⟨order', horder, hsame⟩ := h.found
  obtain ⟨payment, hpayment, rfl⟩ := h.payment
  by_cases hloads : a.session.Loads order'
  · rw [and_iff_right ((hsame _).mp hloads), h.newKey_iff, h.affordable_iff,
      (call_loadable horder hpayment hloads).2]
    by_cases hnew : KeyUnused orderId payment.paymentId w' a
    · rw [(checkAndAsk_new rfl hnew).2, charged_askProvider, and_iff_right hnew]
      rfl
    · rw [(checkAndAsk_used rfl hnew).2]
      simp [hnew]
  · obtain ⟨-, -, hcharged⟩ := call_unloadable horder hloads
    rw [hcharged]
    simp [← hsame, hloads]

/-- The intents keep their amounts when the provider answers about one of them. -/
lemma amounts_put {intents intents' : Intents} {intent : PaymentIntent} {time : ℤ}
    (hfind : intents.find intent.id = some intent)
    (hput : intents' = intents.put (attempt intent time)) (id : String) :
    (intents'.find id).map PaymentIntent.amount = (intents.find id).map PaymentIntent.amount := by
  rw [hput]
  by_cases hid : id = (attempt intent time).id
  · rw [hid, Table.find_put_self, PaymentSimulatorAdapter.attempt_id, hfind]
    simp
  · rw [Table.find_put_of_ne _ hid]

/-- The records after a call. -/
lemma records_step (h : Reached orderId paymentId order w before w') (a : Attempt) :
    (∃ order', (step orderId w' a).orders.find orderId = some order' ∧
        ∀ session : Session, session.Loads order' ↔ session.Loads order) ∧
      (∃ payment, (step orderId w' a).payments.find orderId = some payment ∧
        payment.paymentId = paymentId) ∧
      ∀ id, ((step orderId w' a).intents.find id).map PaymentIntent.amount =
        (w'.intents.find id).map PaymentIntent.amount := by
  have hfindIntent : ∀ {order payment intent},
      a.handler.ReachesProvider (a.cmd orderId) w' order payment intent →
      w'.intents.find intent.id = some intent := by
    intro order payment intent hreaches
    rw [w'.intents.keyed _ _ hreaches.findIntent]
    exact hreaches.findIntent
  cases hrun : (a.call orderId).run World.handle w' with
  | ok result w'' =>
    rw [step, Prog.after_of_ok _ hrun]
    obtain ⟨found, payment, intent, time, hcharges, -, hconfirmed⟩ := confirm_ok hrun
    obtain ⟨payment', hpayment, hid⟩ := h.payment
    obtain rfl : payment' = payment :=
      Option.some.inj (hpayment.symm.trans hcharges.reaches.findPayment)
    obtain ⟨found', hfound, hsame⟩ := h.found
    obtain rfl : found' = found := Option.some.inj (hfound.symm.trans hcharges.reaches.findOrder)
    have horder : found'.orderId = orderId := w'.orders.keyed _ _ hfound
    have hpaid : (paidRow found').orderId = orderId := horder
    have hof : payment'.orderId = orderId := w'.payments.keyed _ _ hpayment
    have hcaptured : (capturedRow payment' (attempt intent time)).orderId = orderId := hof
    refine ⟨⟨paidRow found', ?_, hsame⟩, ⟨capturedRow payment' (attempt intent time), ?_, hid⟩, ?_⟩
    · rw [hconfirmed.orders, Table.find_put_of_key _ hpaid]
    · rw [hconfirmed.payments, Table.find_put_of_key _ hcaptured]
    · exact amounts_put (hfindIntent hcharges.reaches) hconfirmed.intents
  | error e w'' =>
    rw [step, Prog.after_of_error _ hrun]
    rcases confirm_error hrun with hbeside | ⟨order, payment, intent, time, hreaches, hreported⟩
    · rw [hbeside.orders, hbeside.payments, hbeside.intents]
      exact ⟨h.found, h.payment, fun _ => rfl⟩
    · rw [hreported.orders, hreported.payments]
      exact ⟨h.found, h.payment, amounts_put (hfindIntent hreaches) hreported.intents⟩

/-- The keys after a call. -/
lemma keys_step (h : Reached orderId paymentId order w before w') (a : Attempt) (key : String) :
    (step orderId w' a).redis (paymentConfirmKey paymentId key) = none ↔
      w'.redis (paymentConfirmKey paymentId key) = none ∧
        (a.session.Loads order → a.key orderId paymentId ≠ key) := by
  obtain ⟨order', horder, hsame⟩ := h.found
  obtain ⟨payment, hpayment, rfl⟩ := h.payment
  by_cases hloads : a.session.Loads order'
  · have hloads' : a.handler.session.Loads order' := hloads
    have hfound : w'.orders.find (a.cmd orderId).orderId = some order' := horder
    obtain ⟨hrun, -⟩ := confirmBody_rows hfound hloads' hpayment
    rw [forall_prop_of_true ((hsame _).mp hloads), step, Attempt.call, handleConfirmPayment,
      redis_withUnitOfWork]
    by_cases hnew : KeyUnused orderId payment.paymentId w' a
    · have hafter : (a.handler.confirmBody (a.cmd orderId)).after World.handle w' =
          (askProvider a.handler (a.cmd orderId) order' payment).after World.handle
            (World.withKey w' payment.paymentId (a.key orderId payment.paymentId)) := by
        rw [Prog.after, Prog.after, hrun, (checkAndAsk_new rfl hnew).1]
        rfl
      rw [hafter, redis_askProvider, World.withKey]
      by_cases hkey : a.key orderId payment.paymentId = key
      · simp [hkey]
      · have hne : paymentConfirmKey payment.paymentId key ≠
            paymentConfirmKey payment.paymentId (a.key orderId payment.paymentId) :=
          fun heq => hkey (paymentConfirmKey_injective payment.paymentId heq).symm
        simp [Function.update_of_ne hne, hkey]
    · rw [Prog.after, hrun, (checkAndAsk_used rfl hnew).1]
      constructor
      · rintro hnone
        refine ⟨hnone, fun heq => hnew ?_⟩
        rw [KeyUnused, heq]
        exact hnone
      · exact fun hboth => hboth.1
  · obtain ⟨message, hraise, -⟩ := call_unloadable horder hloads
    rw [step, Prog.after_of_error _ hraise]
    simp [← hsame, hloads]

/-- **Step lemma.** -/
theorem step (h : Reached orderId paymentId order w before w') (a : Attempt) :
    Reached orderId paymentId order w (before ++ [a]) (step orderId w' a) := by
  obtain ⟨horder, hpayment, hamounts⟩ := h.records_step a
  refine ⟨horder, hpayment, fun key => ?_, fun id => (hamounts id).trans (h.amounts id)⟩
  rw [h.keys_step a key, h.keys key, and_assoc]
  simp [or_imp, forall_and]

end Reached

/-- **Run lemma.** -/
theorem reached_run {orderId : UUID} {w : World} {order : OrderRow} {payment : PaymentRow}
    (horder : w.orders.find orderId = some order)
    (hpayment : w.payments.find orderId = some payment) (as : List Attempt) :
    Reached orderId payment.paymentId order w as (run (step orderId) w as) := by
  induction as using List.reverseRecOn with
  | nil => exact .start horder hpayment
  | append_singleton as a ih =>
    rw [run_append]
    exact ih.step a

/-! ## Idempotent and retryable -/

section Sequences

variable {orderId : UUID} {w : World}

/-- No call charges exactly if none does at its place. -/
lemma successes_eq_zero_iff (w : World) (as : List Attempt) :
    successes orderId w as = 0 ↔ ∀ before a later, as = before ++ a :: later →
      charged (a.call orderId) (run (step orderId) w before) = false := by
  induction as generalizing w with
  | nil => simp [successes]
  | cons a as ih =>
    rw [successes, Nat.add_eq_zero_iff, ih, forall_places_cons]
    simp

/-- The first command has succeeded, so there is nothing left to send again. -/
lemma retryable_of_first {a : Attempt} (as : List Attempt)
    (hfirst : charged (a.call orderId) w = true) : Retryable orderId w (a :: as) := by
  intro before b later hsplit hnone
  have hprefix : ∃ rest, before ++ [b] = a :: rest := by
    cases before with
    | nil => exact ⟨[], by rw [List.nil_append, (List.cons.inj hsplit).1]⟩
    | cons c before => exact ⟨before ++ [b], by rw [(List.cons.inj hsplit).1]; rfl⟩
  obtain ⟨rest, hrest⟩ := hprefix
  rw [hrest, successes, hfirst, if_pos rfl] at hnone
  omega

variable {order : OrderRow} {payment : PaymentRow} {a : Attempt} {as : List Attempt}

/-- A first command that has not succeeded although the order can be loaded has raised, and has used
its key up. -/
lemma first_of_retryable (horder : w.orders.find orderId = some order)
    (hpayment : w.payments.find orderId = some payment) (hloads : a.session.Loads order)
    (hretryable : Retryable orderId w (a :: as)) : charged (a.call orderId) w = true := by
  by_contra hnot
  have hstart := Reached.start horder hpayment
  have hraised : ∃ e w', (a.call orderId).run World.handle w = .error e w' := by
    cases hrun : (a.call orderId).run World.handle w with
    | ok result w' =>
      obtain ⟨order', payment', intent, -, hcharges, -, -⟩ := confirm_ok hrun
      obtain rfl := Option.some.inj (hpayment.symm.trans hcharges.reaches.findPayment)
      have hcharged := (hstart.succeeds_iff a).mpr ⟨hloads, ⟨hcharges.reaches.unused rfl, nofun⟩,
        intent, hcharges.reaches.findIntent, hcharges.affordable⟩
      exact absurd hcharged hnot
    | error e w' => exact ⟨e, w', rfl⟩
  have hnone : successes orderId w ([] ++ [a]) = 0 := by
    simp [successes, hnot]
  have hreached := hstart.step a
  have hused : ¬ KeyUnused orderId payment.paymentId (step orderId w a) a := by
    rw [← hreached.newKey_iff]
    exact fun hnew => hnew.2 a (by simp) hloads rfl
  obtain ⟨order', horder', hsame⟩ := hreached.found
  obtain ⟨payment', hpayment', hid⟩ := hreached.payment
  rw [← hid] at hused
  obtain ⟨key, hrejected⟩ := call_used horder' hpayment' ((hsame _).mpr hloads) hused
  exact hretryable [] a as rfl hnone hraised a.session key _ hrejected

/-! ### A command that has no effect -/

lemma step_unloadable (horder : w.orders.find orderId = some order)
    (hloads : ¬ a.session.Loads order) : step orderId w a = w := by
  obtain ⟨message, hraise, -⟩ := call_unloadable horder hloads
  exact Prog.after_of_error _ hraise

lemma successes_unloadable (horder : w.orders.find orderId = some order)
    (hloads : ¬ a.session.Loads order) (as : List Attempt) :
    successes orderId w (a :: as) = successes orderId w as := by
  obtain ⟨-, -, hnot⟩ := call_unloadable horder hloads
  rw [successes, hnot, step_unloadable horder hloads]
  simp

/-- Sent again, it may find the order loaded: then its key must not have been used. -/
lemma retryable_unloadable_iff (horder : w.orders.find orderId = some order)
    (hpayment : w.payments.find orderId = some payment) (hloads : ¬ a.session.Loads order)
    (as : List Attempt) :
    Retryable orderId w (a :: as) ↔
      KeyUnused orderId payment.paymentId w a ∧ Retryable orderId w as := by
  have hrun : ∀ before, run (step orderId) w (a :: before) = run (step orderId) w before := by
    intro before
    rw [run_cons, step_unloadable horder hloads]
  have hcount : ∀ before, successes orderId w (a :: before) = successes orderId w before :=
    successes_unloadable horder hloads
  rw [Retryable, forall_places_cons, Retryable]
  refine and_congr ⟨fun hfirst => ?_, fun hunused _ _ session key w' => ?_⟩ ?_
  · by_contra hused
    obtain ⟨message, hraise, -⟩ := call_unloadable horder hloads
    let holding : Session := ⟨fun _ => ⟨some [], true⟩, fun _ => true⟩
    have hholding : holding.Loads order := nofun
    obtain ⟨key, hrejected⟩ :=
      call_used (a := { a with session := holding }) horder hpayment hholding hused
    refine hfirst (hcount []) ⟨_, _, hraise⟩ holding key w ?_
    rw [List.nil_append, hrun]
    exact hrejected
  · rw [List.nil_append, hrun]
    exact call_unused (a := { a with session := session }) horder hpayment hunused key w'
  · simp only [List.cons_append, hcount, hrun]

lemma onlyFirstPays_unloadable_iff {paymentId : UUID} (hloads : ¬ a.session.Loads order)
    (as : List Attempt) :
    OnlyFirstPays orderId paymentId order w (a :: as) ↔
      KeyUnused orderId paymentId w a ∧ OnlyFirstPays orderId paymentId order w as := by
  rw [OnlyFirstPays, forall_places_cons, OnlyFirstPays]
  refine and_congr ?_ ?_
  · simp [hloads]
  · simp [NewKey, hloads]

/-! ### A command that reaches its payment -/

/-- After it nothing may pay any more, and nothing else is asked for. -/
lemma onlyFirstPays_loadable_iff (horder : w.orders.find orderId = some order)
    (hpayment : w.payments.find orderId = some payment) (hloads : a.session.Loads order)
    (as : List Attempt) :
    OnlyFirstPays orderId payment.paymentId order w (a :: as) ↔
      charged (a.call orderId) w = true ∧ successes orderId (step orderId w a) as = 0 := by
  have hsucceeds : ∀ before a, charged (a.call orderId) (run (step orderId) w before) = true ↔
      a.session.Loads order ∧ NewKey orderId payment.paymentId order w before a ∧ Affordable w a :=
    fun before a => (reached_run horder hpayment before).succeeds_iff a
  rw [OnlyFirstPays, forall_places_cons, successes_eq_zero_iff]
  refine and_congr ?_ (forall₄_congr fun before b later _ => ?_)
  · have hfirst := hsucceeds [] a
    rw [run_nil] at hfirst
    rw [hfirst]
    constructor
    · rintro ⟨-, hpays⟩
      exact ⟨hloads, (hpays hloads).mpr nofun⟩
    · rintro ⟨-, hboth⟩
      exact ⟨fun _ => hboth.1.1, fun _ => iff_of_true hboth nofun⟩
  · have hsome : ¬ ∀ d ∈ a :: before, ¬ d.session.Loads order :=
      fun hnone => hnone a List.mem_cons_self hloads
    rw [← Bool.not_eq_true, ← run_cons, hsucceeds]
    simp only [hsome, false_implies, true_and, iff_false, not_and]

/-! ### All commands -/

/-- **Exactly when confirmation is idempotent and retryable**: of the commands whose session can
load the order, the first has a new key and names an intent within the limit, and no later one does
both; and no command that comes before that one, or is it, has a key that is in Redis already. -/
theorem idempotent_and_retryable_iff (as : List Attempt)
    (horder : w.orders.find orderId = some order)
    (hpayment : w.payments.find orderId = some payment) :
    successes orderId w as ≤ 1 ∧ Retryable orderId w as ↔
      OnlyFirstPays orderId payment.paymentId order w as := by
  induction as with
  | nil =>
    refine iff_of_true ⟨Nat.zero_le 1, ?_⟩ ?_
    · exact fun before a later hsplit => absurd hsplit.symm (by simp)
    · exact fun before a later hsplit => absurd hsplit.symm (by simp)
  | cons a as ih =>
  by_cases hloads : a.session.Loads order
  · rw [onlyFirstPays_loadable_iff horder hpayment hloads]
    constructor
    · rintro ⟨hmost, hretryable⟩
      have hfirst := first_of_retryable horder hpayment hloads hretryable
      rw [successes, hfirst, if_pos rfl] at hmost
      exact ⟨hfirst, by omega⟩
    · rintro ⟨hfirst, hnone⟩
      refine ⟨?_, retryable_of_first as hfirst⟩
      rw [successes, hfirst, if_pos rfl, hnone]
  · rw [successes_unloadable horder hloads, retryable_unloadable_iff horder hpayment hloads,
      onlyFirstPays_unloadable_iff hloads]
    exact and_left_comm.trans (and_congr_right fun _ => ih)

end Sequences

/-! ### Two keys -/

/-- A command for the waiting order with its own intent. -/
def pay (idempotencyKey : String) : Attempt := ⟨Session.new, "pi_own", idempotencyKey⟩

/-- A command and its repetition are handled as they should be. -/
theorem repeated_command :
    successes .nil (Confirmation.waiting .created) [pay "k1", pay "k1"] ≤ 1 ∧
      Retryable .nil (Confirmation.waiting .created) [pay "k1", pay "k1"] := by
  have horder : (Confirmation.waiting .created).orders.find .nil =
      some Confirmation.waitingOrder := rfl
  have hpayment : (Confirmation.waiting .created).payments.find .nil =
      some (Confirmation.waitingPayment .created) := rfl
  rw [idempotent_and_retryable_iff _ horder hpayment]
  rintro before a later hsplit
  rcases before with _ | ⟨b, before⟩
  · obtain ⟨rfl, -⟩ := List.cons.inj hsplit
    exact ⟨fun _ => rfl, fun _ => iff_of_true ⟨⟨rfl, nofun⟩, _, rfl, by decide⟩ nofun⟩
  · obtain ⟨rfl, hrest⟩ := List.cons.inj hsplit
    have ha : a = pay "k1" := by
      rcases before with _ | ⟨c, before⟩
      · exact (List.cons.inj hrest).1.symm
      · have hend := (List.cons.inj hrest).2
        exact absurd hend.symm (by simp)
    have hloads : (pay "k1").session.Loads Confirmation.waitingOrder := fun _ => rfl
    have hsome : ¬ ∀ b ∈ pay "k1" :: before, ¬ b.session.Loads Confirmation.waitingOrder :=
      fun hnone => hnone _ List.mem_cons_self hloads
    refine ⟨fun h => absurd h hsome, fun _ => iff_of_false (fun h => ?_) hsome⟩
    exact h.1.2 (pay "k1") List.mem_cons_self hloads (by rw [ha])

/-- With two keys, the provider takes the money for one intent twice. -/
theorem charged_twice :
    ¬ ∀ orderId w as, (∃ order, w.orders.find orderId = some order) →
      (∃ payment, w.payments.find orderId = some payment) →
      successes orderId w as ≤ 1 ∧ Retryable orderId w as := by
  intro h
  obtain ⟨hmost, -⟩ := h .nil (Confirmation.waiting .created) [pay "k1", pay "k2"] ⟨_, rfl⟩ ⟨_, rfl⟩
  have htwice : successes .nil (Confirmation.waiting .created) [pay "k1", pay "k2"] = 2 := by
    decide +kernel
  omega

end TicketGenius.Idempotency
