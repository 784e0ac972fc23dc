import TicketGenius.Framework.Claims
import TicketGenius.Properties.Support.Commands

/-!
# One attempt for each idempotency key

A confirmation sets the key of its payment and its idempotency key in Redis before it asks the
provider, and goes on only if the key was not there (`check_payment_idempotency`).  In every
interleaving of commands in which no such key expires, confirmations with Redis therefore ask the
provider at most once for each payment and idempotency key, whoever sends them (`attempts_single`).

The keys are claims.  A worker claims the key when it sets it, and keeps it as the record of its
attempt; nothing takes a key away, because the handlers delete no keys but those of seats.
-/

namespace TicketGenius.Workers

open Framework Service OrderCommandHandler

/-! ## Attempts -/

/-- What a worker has done about the provider. -/
structure Attempts where
  /-- The confirmation it serves, if that is one with Redis. -/
  serving : Option ConfirmPaymentCommand
  /-- The payment it has found. -/
  payment : Option UUID
  /-- The key it has set and not used yet. -/
  won : Option String
  /-- How often such confirmations have asked the provider. -/
  calls : ℕ
  /-- What they have asked for: the payment and the idempotency key. -/
  asked : List (UUID × String)

/-- The confirmation a job serves, if it has Redis. -/
def Job.guarded (job : Job) : Option ConfirmPaymentCommand :=
  match job.command with
  | .confirm cmd => if job.handler.tm.redis then some cmd else none
  | _ => none

namespace Attempts

/-- Before any job. -/
def empty : Attempts := ⟨none, none, none, 0, []⟩

/-- A worker begins a job. -/
def enter (job : Job) (γ : Attempts) : Attempts :=
  { γ with serving := job.guarded, payment := none, won := none }

/-- The worker has set a key. -/
def win (γ : Attempts) (key : String) : Attempts :=
  match γ.serving with
  | none => γ
  | some _ => { γ with won := some key }

/-- The worker asks the provider. -/
def ask (γ : Attempts) : Attempts :=
  match γ.serving, γ.payment with
  | none, _ => γ
  | some _, none => { γ with calls := γ.calls + 1 }
  | some cmd, some paymentId => { γ with
      won := none
      calls := γ.calls + 1
      asked := (paymentId, confirmationKey cmd paymentId) :: γ.asked }

/-- What an operation adds. -/
def next (γ : Attempts) : (o : Op) → o.Reply → Attempts
  | .paymentsGetByOrderId _, found => { γ with payment := found.map PaymentRow.paymentId }
  | .redis (.setNx key _ _), first => if first then γ.win key else γ
  | .confirmPayment _, _ => γ.ask
  | _, _ => γ

/-- The contract of a worker: it deletes no keys but those of seats, and a confirmation with Redis
has won the key of what it asks the provider for. -/
def contract : Contract service Attempts where
  pre γ o :=
    match o with
    | .redis (.setNx key _ _) =>
      γ.serving ≠ none →
        ∃ paymentId idempotencyKey, key = paymentConfirmKey paymentId idempotencyKey
    | .redis (.delete key) => ∃ planId seatId, key = seatHoldKey planId seatId
    | .confirmPayment _ => ∀ cmd, γ.serving = some cmd → ∃ paymentId, γ.payment = some paymentId ∧
        γ.won = some (paymentConfirmKey paymentId (confirmationKey cmd paymentId))
    | _ => True
  allows _ _ _ := True
  next := next

/-- The keys the worker has set. -/
def held (γ : Attempts) : List String :=
  γ.won.toList ++ γ.asked.map fun a => paymentConfirmKey a.1 a.2

end Attempts

/-- The attempts of the workers after some turns. -/
def attempts {ι : Type} [DecidableEq ι] (w : World) (turns : List (Turn ι Job)) : ι → Attempts :=
  (run (Pool.turn World.handle (fun _ => Attempts.contract) Job.program Attempts.enter)
    ⟨Threads.idle w (), fun _ => .empty⟩ turns).view

/-- Nothing was asked for twice, by one worker or by two, and nothing was asked beside that. -/
structure Single {ι : Type} (γ : ι → Attempts) : Prop where
  once : ∀ i, (γ i).asked.Nodup
  apart : ∀ i j, i ≠ j → (γ i).asked.Disjoint (γ j).asked
  counted : ∀ i, (γ i).calls = (γ i).asked.length

/-! ## The keys are claims -/

/-- The key of a confirmation, in a world that has it. -/
def Spent (w : World) (key : String) : Prop :=
  (∃ paymentId idempotencyKey, key = paymentConfirmKey paymentId idempotencyKey) ∧
    w.redis key ≠ none

/-- The workers hold the keys they have set, each its own, and all calls are on record. -/
structure Recorded {ι : Type} (γ : ι → Attempts) (w : World) : Prop where
  claims : Claims (fun i => (γ i).held) (Spent w)
  counted : ∀ i, (γ i).calls = (γ i).asked.length

lemma Recorded.single {ι : Type} {γ : ι → Attempts} {w : World} (h : Recorded γ w) : Single γ where
  once i := ((h.claims.once i).sublist (List.sublist_append_right ..)).of_map _
  apart i j hij a hi hj := by
    refine h.claims.apart i j hij (a := paymentConfirmKey a.1 a.2) ?_ ?_
    · exact List.mem_append_right _ (List.mem_map_of_mem hi)
    · exact List.mem_append_right _ (List.mem_map_of_mem hj)
  counted := h.counted

section Views

variable {ι : Type} {γ : ι → Attempts} {w w' : World} {i : ι}

/-- No key of a confirmation has gone. -/
lemma Recorded.mono (h : Recorded γ w)
    (hredis : ∀ paymentId idempotencyKey,
      w.redis (paymentConfirmKey paymentId idempotencyKey) ≠ none →
      w'.redis (paymentConfirmKey paymentId idempotencyKey) ≠ none) : Recorded γ w' := by
  refine ⟨h.claims.mono ?_, h.counted⟩
  rintro _ ⟨⟨paymentId, idempotencyKey, rfl⟩, hthere⟩
  exact ⟨⟨paymentId, idempotencyKey, rfl⟩, hredis _ _ hthere⟩

lemma Recorded.of_redis (h : Recorded γ w) (hredis : w'.redis = w.redis) : Recorded γ w' :=
  h.mono fun _ _ => by rw [hredis]; exact id

variable [DecidableEq ι]

lemma held_update (v : Attempts) :
    (fun j => (Function.update γ i v j).held) =
      Function.update (fun j => (γ j).held) i v.held :=
  Function.comp_update Attempts.held γ i v

lemma calls_update (h : Recorded γ w) {v : Attempts} (hcounted : v.calls = v.asked.length) (j : ι) :
    (Function.update γ i v j).calls = (Function.update γ i v j).asked.length := by
  rcases eq_or_ne j i with rfl | hji
  · rwa [Function.update_self]
  · rw [Function.update_of_ne hji]
    exact h.counted j

/-- A worker goes on with some of its keys. -/
lemma Recorded.update (h : Recorded γ w) {v : Attempts} (hheld : v.held.Sublist (γ i).held)
    (hcounted : v.calls = v.asked.length) : Recorded (Function.update γ i v) w := by
  refine ⟨?_, calls_update h hcounted⟩
  rw [held_update]
  exact h.claims.drop hheld

/-- A worker has set a key that was not there. -/
lemma Recorded.claim (h : Recorded γ w) {v : Attempts} {key : String} (hfree : ¬ Spent w key)
    (hspent : ∀ key, Spent w key → Spent w' key) (hkey : Spent w' key)
    (hheld : v.held.Sublist (key :: (γ i).held)) (hcounted : v.calls = v.asked.length) :
    Recorded (Function.update γ i v) w' := by
  refine ⟨?_, calls_update h hcounted⟩
  have hclaims := (h.claims.claim (i := i) hfree hspent hkey).drop (i := i) (l := v.held)
    (by rwa [Function.update_self])
  rwa [Function.update_idem, ← held_update] at hclaims

lemma Recorded.enter (h : Recorded γ w) (i : ι) (job : Job) :
    Recorded (Function.update γ i ((γ i).enter job)) w :=
  h.update (List.sublist_append_right ..) (h.counted i)

/-- A worker has looked for a payment. -/
lemma Recorded.read (h : Recorded γ w) (i : ι) (orderId : UUID) (found : Option PaymentRow) :
    Recorded (Function.update γ i ((γ i).next (.paymentsGetByOrderId orderId) found)) w :=
  h.update (List.Sublist.refl _) (h.counted i)

/-- A worker has set a key that was not there. -/
lemma Recorded.win (h : Recorded γ w) (i : ι) {key : String} (hfree : w.redis key = none)
    (hkey : (γ i).serving ≠ none →
      ∃ paymentId idempotencyKey, key = paymentConfirmKey paymentId idempotencyKey)
    (entry : Redis.Entry) :
    Recorded (Function.update γ i ((γ i).win key))
      { w with redis := Function.update w.redis key (some entry) } := by
  have hgrow : ∀ k, Spent w k →
      Spent { w with redis := Function.update w.redis key (some entry) } k := by
    rintro k ⟨hform, hthere⟩
    refine ⟨hform, ?_⟩
    have hne : k ≠ key := by
      rintro rfl
      exact hthere hfree
    simpa [hne] using hthere
  cases hserving : (γ i).serving with
  | none =>
    have hsame : (γ i).win key = γ i := by rw [Attempts.win, hserving]
    rw [hsame, Function.update_eq_self]
    exact ⟨h.claims.mono hgrow, h.counted⟩
  | some cmd =>
    have hwin : (γ i).win key = { γ i with won := some key } := by
      simp only [Attempts.win, hserving]
    have hspent : Spent { w with redis := Function.update w.redis key (some entry) } key := by
      refine ⟨hkey (by simp [hserving]), ?_⟩
      simp
    rw [hwin]
    refine h.claim (fun hspent => hspent.2 hfree) hgrow hspent ?_ (h.counted i)
    exact (List.sublist_append_right ..).cons_cons _

/-- A worker has tried to set a key. -/
lemma Recorded.setNx (h : Recorded γ w) (i : ι) {key : String} (value : Redis.Value) (ttl : ℕ)
    (hkey : (γ i).serving ≠ none →
      ∃ paymentId idempotencyKey, key = paymentConfirmKey paymentId idempotencyKey) :
    Recorded (Function.update γ i ((γ i).next (.redis (.setNx key value ttl))
        (World.handle (.redis (.setNx key value ttl)) w).1))
      (World.handle (.redis (.setNx key value ttl)) w).2 := by
  by_cases hfree : w.redis key = none
  · have hset : World.handle (.redis (.setNx key value ttl)) w =
        (true, { w with redis := Function.update w.redis key (some ⟨value, some ttl⟩) }) := by
      simp only [World.handle, Redis.execute_setNx_free hfree]
    rw [hset]
    exact h.win i hfree hkey _
  · have hset : World.handle (.redis (.setNx key value ttl)) w = (false, w) := by
      simp only [World.handle, Redis.execute_setNx_taken hfree]
    rw [hset]
    change Recorded (Function.update γ i (γ i)) w
    rwa [Function.update_eq_self]

/-- A worker that has won the key for it has asked the provider. -/
lemma Recorded.ask (h : Recorded γ w) (i : ι)
    (hwon : ∀ cmd, (γ i).serving = some cmd → ∃ paymentId, (γ i).payment = some paymentId ∧
      (γ i).won = some (paymentConfirmKey paymentId (confirmationKey cmd paymentId))) :
    Recorded (Function.update γ i (γ i).ask) w := by
  cases hserving : (γ i).serving with
  | none =>
    have hsame : (γ i).ask = γ i := by simp only [Attempts.ask, hserving]
    rw [hsame, Function.update_eq_self]
    exact h
  | some cmd =>
    obtain ⟨paymentId, hpayment, hkey⟩ := hwon cmd hserving
    refine h.update ?_ ?_
    · -- what was won becomes what was asked for
      simp [Attempts.held, Attempts.ask, hserving, hpayment, hkey]
    · simp [Attempts.ask, hserving, hpayment, h.counted i]

end Views

/-- **Every operation keeps the record.** -/
theorem views_recorded {ι : Type} [DecidableEq ι] :
    Views World.handle (fun _ : ι => Attempts.contract) Recorded fun _ _ _ => True := by
  intro γ w i o hrec hpre _
  refine ⟨trivial, ?_⟩
  have hself : Recorded (Function.update γ i (γ i)) w := by
    rwa [Function.update_eq_self]
  cases o with
  | redis c =>
    cases c with
    | setNx key value ttl => exact hrec.setNx i value ttl hpre
    | get key => exact hself
    | delete key =>
      obtain ⟨planId, seatId, rfl⟩ := hpre
      refine hself.mono fun paymentId idempotencyKey hthere => ?_
      have hne := (seatHoldKey_ne_paymentConfirmKey planId seatId paymentId idempotencyKey).symm
      simp only [World.handle, Redis.execute]
      rwa [Function.update_of_ne hne]
    | setex key ttl value =>
      refine hself.mono fun paymentId idempotencyKey hthere => ?_
      simp only [World.handle, Redis.execute]
      rcases eq_or_ne (paymentConfirmKey paymentId idempotencyKey) key with rfl | hne
      · rw [Function.update_self]
        exact Option.some_ne_none _
      · rwa [Function.update_of_ne hne]
  | paymentsGetByOrderId orderId => exact hrec.read i orderId _
  | confirmPayment paymentIntentId => exact (hrec.ask i hpre).of_redis rfl
  | commit changes => exact hself.of_redis (World.foldl_apply_frame changes w).1
  | _ => exact hself.of_redis rfl

/-! ## Workers keep to the contract -/

/-- Operations that delete no keys but those of seats. -/
def KeepsKeys : Op → Prop
  | .redis (.delete key) => ∃ planId seatId, key = seatHoldKey planId seatId
  | _ => True

lemma keepsKeys_of_settles {o : Op} (ho : o.Settles) : KeepsKeys o := by
  cases o with
  | redis c =>
    cases c with
    | delete key => exact ho
    | _ => trivial
  | _ => trivial

lemma covers_keepsKeys : Covers KeepsKeys where
  commit _ := trivial
  rollback := trivial
  ordersGet _ := trivial
  paymentsGetByOrderId _ := trivial
  builds o ho := by
    cases o with
    | redis c => exact ho.elim
    | _ => trivial
  releases o ho := keepsKeys_of_settles ho.settles

section Uses

variable {self : OrderCommandHandler}

lemma uses_handleConfirmPayment (cmd : ConfirmPaymentCommand) :
    (self.handleConfirmPayment cmd).Uses KeepsKeys := by
  refine covers_keepsKeys.withUnitOfWork ((covers_keepsKeys.getOrder _).bind fun order => ?_)
  refine (covers_keepsKeys.getPayment _).bind fun payment => ?_
  refine Prog.Uses.bind ?_ fun first => ?_
  · unfold checkPaymentIdempotency
    split
    · exact ⟨trivial, fun _ => trivial⟩
    · trivial
  · split
    · trivial
    · refine Prog.Uses.bind (Prog.Uses.bind (p := confirmPayment _) ⟨trivial, fun _ => trivial⟩
        fun _ => Prog.uses_ofExcept _) fun intent => ?_
      unfold settlePayment
      split
      · exact uses_declinePayment.mono fun _ => keepsKeys_of_settles
      · exact uses_completePayment.mono fun _ => keepsKeys_of_settles

/-- **No job deletes a key** that is not a seat's. -/
theorem uses_program (job : Job) : job.program.Uses KeepsKeys := by
  have hcommand : (job.command.program job.handler).Uses KeepsKeys := by
    obtain ⟨handler, command⟩ := job
    cases command with
    | create cmd => exact covers_keepsKeys.create cmd
    | confirm cmd => exact uses_handleConfirmPayment cmd
    | cancel cmd => exact covers_keepsKeys.cancel cmd
    | refund cmd => exact covers_keepsKeys.refund cmd
  exact hcommand.bind fun _ => trivial

end Uses

section Wp

variable {γ : Attempts}

/-- Without a confirmation to serve, nothing is recorded. -/
lemma wp_unguarded {job : Job} (hserving : γ.serving = none) :
    job.program.wp Attempts.contract (fun _ _ => True) γ := by
  refine Prog.wp_mono (fun _ _ _ => trivial)
    ((uses_program job).wp_keeping (J := fun γ => γ.serving = none) ?_ ?_ hserving)
  · intro γ o hnone ho
    cases o with
    | redis c =>
      cases c with
      | setNx key value ttl => exact fun h => absurd hnone h
      | delete key => exact ho
      | _ => trivial
    | confirmPayment paymentIntentId =>
      intro cmd hcmd
      rw [hnone] at hcmd
      cases hcmd
    | _ => trivial
  · intro γ o r hnone _
    cases o with
    | redis c =>
      cases c with
      | setNx key value ttl =>
        cases r with
        | false => exact hnone
        | true => simp [Attempts.contract, Attempts.next, Attempts.win, hnone]
      | _ => exact hnone
    | confirmPayment paymentIntentId =>
      simp [Attempts.contract, Attempts.next, Attempts.ask, hnone]
    | _ => exact hnone

/-- What comes after the provider's answer leaves the record alone. -/
lemma wp_settles {α : Type} {p : Service α} (hp : p.Uses Op.Settles)
    {Q : Except PyError α → Attempts → Prop} (hQ : ∀ r, Q r γ) :
    p.wp Attempts.contract Q γ := by
  refine hp.wp (fun o ho => ?_) (fun o r ho => ?_) hQ
  · cases o with
    | redis c =>
      cases c with
      | setNx key value ttl => exact ho.elim
      | delete key => exact ho
      | _ => trivial
    | confirmPayment paymentIntentId => exact ho.elim
    | _ => trivial
  · cases o with
    | redis c =>
      cases c with
      | setNx key value ttl => exact ho.elim
      | _ => rfl
    | paymentsGetByOrderId orderId => exact ho.elim
    | confirmPayment paymentIntentId => exact ho.elim
    | _ => rfl

/-- **A confirmation with Redis** asks the provider for what it has won the key of. -/
lemma wp_guarded {self : OrderCommandHandler} (cmd : ConfirmPaymentCommand)
    (hredis : self.tm.redis = true) (hserving : γ.serving = some cmd) :
    (self.handleConfirmPayment cmd).wp Attempts.contract (fun _ _ => True) γ := by
  refine wp_unitOfWork (fun _ => trivial) (wp_getOrder trivial fun order _ => ?_)
  refine wp_getPayment trivial fun payment _ => ?_
  refine Prog.wp_mono (Q := fun _ _ => True) (fun r γ' _ => by cases r <;> trivial) ?_
  have hcheck : checkPaymentIdempotency self.tm.redis payment.paymentId
      (confirmationKey cmd payment.paymentId) =
        redisSetNx (paymentConfirmKey payment.paymentId (confirmationKey cmd payment.paymentId))
          (.text "1") paymentConfirmTtl := by
    rw [checkPaymentIdempotency, if_pos hredis]
  show (checkPaymentIdempotency self.tm.redis payment.paymentId
    (confirmationKey cmd payment.paymentId) >>= _).wp _ _ _
  rw [hcheck]
  refine ⟨fun _ => ⟨_, _, rfl⟩, fun first _ => ?_⟩
  cases first with
  | false => trivial
  | true =>
    -- the key has been won
    show ((confirmPayment cmd.paymentIntentId >>= Prog.ofExcept) >>= _).wp _ _ _
    rw [bind_assoc]
    refine ⟨fun cmd' hcmd' => ?_, fun answer _ => ?_⟩
    · simp only [Attempts.contract, Attempts.next, Attempts.win, hserving, if_true] at hcmd' ⊢
      obtain rfl := Option.some.inj hcmd'
      exact ⟨_, rfl, rfl⟩
    · refine Prog.wp_ofExcept_bind (fun intent _ => ?_) fun _ => trivial
      unfold settlePayment
      split
      · exact wp_settles uses_declinePayment fun _ => trivial
      · exact wp_settles uses_completePayment fun _ => trivial

/-- **Every job keeps to the contract** from the view of a worker that begins it. -/
theorem wp_enter (job : Job) :
    job.program.wp Attempts.contract (fun _ _ => True) (γ.enter job) := by
  cases hguarded : job.guarded with
  | none => exact wp_unguarded hguarded
  | some cmd =>
    obtain ⟨handler, command⟩ := job
    cases command with
    | confirm cmd' =>
      rw [Job.guarded] at hguarded
      dsimp only at hguarded
      split at hguarded
      · next hredis =>
        have hserving : (γ.enter ⟨handler, .confirm cmd'⟩).serving = some cmd' := by
          simp [Attempts.enter, Job.guarded, hredis]
        have hconfirm := wp_guarded cmd' hredis hserving
        rw [Job.program, Prog.wp_bind]
        refine Prog.wp_mono (fun r γ' _ => ?_) hconfirm
        cases r <;> trivial
      · cases hguarded
    | _ => cases hguarded

end Wp

variable {ι : Type} [DecidableEq ι]

/-- **In every interleaving of commands** in which no key expires, confirmations with Redis ask the
provider at most once for each payment and idempotency key: no worker does so twice, and no two
workers do. -/
theorem attempts_single (w : World) (turns : List (Turn ι Job)) : Single (attempts w turns) := by
  let c : Pool service ι PyError Unit World Attempts := ⟨Threads.idle w (), fun _ => .empty⟩
  have hstart : c.Sound (fun _ => Attempts.contract) Recorded fun _ _ _ => True :=
    { accurate := ⟨.nil, fun _ => rfl⟩
      meets := fun _ => trivial }
  have hsound := hstart.run Attempts.enter views_recorded (fun _ _ i job hrec => hrec.enter i job)
    (fun _ job _ => wp_enter job) turns
  exact hsound.accurate.single

end TicketGenius.Workers
