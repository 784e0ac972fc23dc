import TicketGenius.Properties.Catalogue
import TicketGenius.Properties.Pagination
import TicketGenius.Properties.Support.Exceptions
import TicketGenius.ServiceLayer.MessageBus

/-!
# What the bus makes of a message

`_handle_command` and `_handle_query` dispatch on the class of the bus, for which nothing is
registered.  Every message therefore ends in `ValueError("Unknown …")`, and no handler is called.

`agrees_iff` compares the bus with the handlers it should call, over sequences of messages: they
agree on the empty one.  That they agree on no other rests on `Ordinary`: no handler raises such a
`ValueError` by itself.

## Main results

* `dispatch_command`, `dispatch_query`: the registrations are right.
* `handle_eq`: what the bus does.
* `ordinary_direct`: what the handlers raise.
* `agrees_iff`: bus and handlers.
-/

namespace TicketGenius.Dispatching

open Framework Service MessageBus

variable {F S σ : Type}

/-! ## The bus -/

section Bus

variable (handlers : Handlers F S)

/-- Nothing is registered for the bus and for `object`, so the decorated body is called. -/
lemma callBound_dispatching (text : String) {classes : List PyClass}
    (hbus : .messageBus ∉ classes) (hobject : .object ∉ classes) (args : List (PyObject F)) :
    (handlers.dispatching text classes).callBound PyClass.mro PyObject.cls .bus args =
      handlers.unknown text (.bus :: args) := by
  have hnone : ∀ c ∈ PyClass.mro .messageBus,
      (handlers.dispatching text classes).registered c = none := by
    intro c hc
    have hnot : c ∉ classes := by
      rcases List.mem_pair.mp hc with rfl | rfl
      · exact hbus
      · exact hobject
    exact SingleDispatch.registered_registerAll_of_notMem _ hnot
  rw [SingleDispatch.callBound_of_forall_none hnone, Handlers.dispatching,
    SingleDispatch.registerAll_default]
  rfl

/-- **What the bus does**: it raises, and calls no handler. -/
theorem handle_eq (m : Message F) (s : S) :
    ∃ rest, handlers.handle m s = (.error (.python (.valueError ("Unknown " ++ rest))), s) := by
  cases m with
  | command c =>
    refine ⟨"command: " ++ c.cls.name, ?_⟩
    have hcall := callBound_dispatching handlers "Unknown command: "
      (by decide : _ ∉ Handlers.commandClasses) (by decide) [.command c]
    rw [Handlers.handle, Handlers.handleCommand, Handlers.commandFunction, hcall,
      ← String.append_assoc]
    rfl
  | query q =>
    refine ⟨"query: " ++ q.cls.name, ?_⟩
    have hcall := callBound_dispatching handlers "Unknown query: "
      (by decide : _ ∉ Handlers.queryClasses) (by decide) [.query q]
    rw [Handlers.handle, Handlers.handleQuery, Handlers.queryFunction, hcall,
      ← String.append_assoc]
    rfl

/-- What is registered for the class of a command calls the handler's method for it. -/
theorem dispatch_command (c : Command) :
    handlers.commandFunction.dispatch PyClass.mro c.cls [.bus, .command c] =
      handlers.direct (.command c) := by
  have hmem : c.cls ∈ Handlers.commandClasses := by
    cases c <;> simp [Command.cls, Handlers.commandClasses]
  have hmro : PyClass.mro c.cls = [c.cls, .object] := by cases c <;> rfl
  have hregistered : handlers.commandFunction.registered c.cls =
    some (handlers.implementation c.cls) := SingleDispatch.registered_registerAll_of_mem _ hmem
  rw [SingleDispatch.dispatch_of_registered hmro hregistered]
  exact if_pos rfl

theorem dispatch_query (q : Query F) :
    handlers.queryFunction.dispatch PyClass.mro q.cls [.bus, .query q] =
      handlers.direct (.query q) := by
  have hmem : q.cls ∈ Handlers.queryClasses := by
    cases q <;> simp [Query.cls, Handlers.queryClasses]
  have hmro : PyClass.mro q.cls = [q.cls, .object] := by cases q <;> rfl
  have hregistered : handlers.queryFunction.registered q.cls =
    some (handlers.implementation q.cls) := SingleDispatch.registered_registerAll_of_mem _ hmem
  rw [SingleDispatch.dispatch_of_registered hmro hregistered]
  exact if_pos rfl

end Bus

/-! ## The handlers -/

/-- What is outside the source raises no `ValueError` about something unknown. -/
structure RaisesOrdinary (d : Deployment F S σ) : Prop where
  lib : d.lib.RaisesOrdinary
  provider : ∀ page size, RaisesOnly PyError.Ordinary (d.provider page size)
  repository : ∀ id plans, RaisesOnly PyError.Ordinary (d.repository.getByTmId id plans).1
  search : ∀ s arguments, RaisesOnly PyError.Ordinary (d.search s arguments)

section Handlers

variable {d : Deployment F S σ}

/-- A result whose exception, if it is one of the code, is ordinary. -/
def OrdinaryResult (result : Except Raised Returned) : Prop :=
  ∀ e, result = .error (.python e) → e.Ordinary

lemma ordinaryResult_ok (returned : Returned) : OrdinaryResult (.ok returned) :=
  fun _ he => nomatch he

lemma ordinaryResult_error {e : PyError} (he : e.Ordinary) :
    OrdinaryResult (.error (.python e)) := by
  intro e' he'
  obtain rfl : e = e' := Raised.python.inj (Except.error.inj he')
  exact he

lemma ordinaryResult_resultOf {α : Type} {returned : α → Returned} {x : Except PyError α}
    (hx : RaisesOnly PyError.Ordinary x) : OrdinaryResult (Deployment.resultOf returned x) := by
  cases x with
  | ok a => exact ordinaryResult_ok _
  | error e => exact ordinaryResult_error hx

lemma ordinary_callOrderHandler (d : Deployment F S σ) {α : Type}
    {method : OrderCommandHandler → Service α} (returned : α → Returned)
    (hmethod : ∀ handler, (method handler).RaisesOrdinary) (s : S) :
    OrdinaryResult (d.callOrderHandler method returned s).1 := by
  unfold Deployment.callOrderHandler
  split
  · exact ordinaryResult_ok _
  · next e w hrun => exact ordinaryResult_error (ordinary_run (hmethod _) hrun)

lemma ordinary_callPlanHandler (h : RaisesOrdinary d) (cmd : SyncPlansCommand) (s : S) :
    OrdinaryResult (d.callPlanHandler cmd s).1 := by
  have hreply : ∀ o t, OrdinarySyncReply o (SyncState.handle d.provider d.repository o t).1 := by
    intro o t
    cases o with
    | searchPlans page size => exact h.provider page size
    | getByTmId id => exact h.repository id t.plans
    | _ => trivial
  unfold Deployment.callPlanHandler
  split
  · exact ordinaryResult_ok _
  · next e t hrun =>
    have he : e.Ordinary := (ordinary_handleSyncPlans h.lib cmd d.fuel).of_run hreply hrun
    exact ordinaryResult_error he

variable [LinearOrder UUID] (misdirected : PyClass → List (PyObject F) → Call S)

/-- **What the handlers raise** is ordinary, for every message and in every state. -/
theorem ordinary_direct (h : RaisesOrdinary d) (m : Message F) (s : S) :
    OrdinaryResult ((d.handlers misdirected).direct m s).1 := by
  cases m with
  | command c =>
    cases c with
    | createOrder cmd =>
      exact ordinary_callOrderHandler d _ (fun handler => handler.ordinary_handleCreateOrder cmd) s
    | confirmPayment cmd =>
      exact ordinary_callOrderHandler d _
        (fun handler => handler.ordinary_handleConfirmPayment cmd) s
    | cancelOrder cmd =>
      exact ordinary_callOrderHandler d _ (fun handler => handler.ordinary_handleCancelOrder cmd) s
    | refundOrder cmd =>
      exact ordinary_callOrderHandler d _ (fun handler => handler.ordinary_handleRefundOrder cmd) s
    | syncPlans cmd => exact ordinary_callPlanHandler h cmd s
  | query q =>
    cases q with
    | searchPlans q => exact ordinaryResult_resultOf (ordinary_handleSearchPlans (h.search s) q)
    | getPlan q => exact ordinaryResult_resultOf (ordinary_handleGetPlan _ q)
    | getOrder q => exact fun e he => nomatch he
    | listOrders q =>
      intro e he
      dsimp only [Handlers.direct, Deployment.handlers, Deployment.query] at he
      cases hlist : handleListOrders d.json d.timestamp (d.orders s) q with
      | some summaries =>
        rw [hlist] at he
        cases he
      | none =>
        rw [hlist] at he
        cases he

/-! ## Bus and handlers -/

/-- Passed through the bus, the messages have the results, and leave the state, that calls of the
handlers would. -/
def Agrees (d : Deployment F S σ) (misdirected : PyClass → List (PyObject F) → Call S)
    (messages : List (Message F)) (s : S) : Prop :=
  callAll (d.handlers misdirected).handle messages s =
    callAll (d.handlers misdirected).direct messages s

/-- The first message already makes a difference. -/
lemma not_agrees_cons (h : RaisesOrdinary d) (m : Message F) (messages : List (Message F))
    (s : S) : ¬ Agrees d misdirected (m :: messages) s := by
  intro hagrees
  have hfirst : ((d.handlers misdirected).handle m s).1 =
      ((d.handlers misdirected).direct m s).1 :=
    (List.cons.inj (congrArg Prod.fst hagrees)).1
  obtain ⟨rest, hbus⟩ := handle_eq (d.handlers misdirected) m s
  rw [hbus] at hfirst
  exact ordinary_direct misdirected h m s _ hfirst.symm rest rfl

/-- **The bus does what the handlers do** only where there is nothing to do. -/
theorem agrees_iff (h : RaisesOrdinary d) (messages : List (Message F)) (s : S) :
    Agrees d misdirected messages s ↔ messages = [] := by
  constructor
  · intro hagrees
    cases messages with
    | nil => rfl
    | cons m messages => exact absurd hagrees (not_agrees_cons misdirected h m messages s)
  · rintro rfl
    rfl

end Handlers

/-! ### A cancellation -/

/-- The application over a world and the plans of a session, with an empty catalogue. -/
def application : Deployment ℚ (World × SyncState (List Plan)) (List Plan) where
  world s := s.1
  withWorld w s := (w, s.2)
  session _ := .new
  sync s := s.2
  withSync t s := (s.1, t)
  orders _ := []
  tm := ⟨true⟩
  repository := planList
  lib := Catalogue.standardLibrary
  provider _ _ := .ok []
  fuel := 1
  search _ _ := .ok []
  afterSearch s _ := s
  json := Pagination.plainJson
  timestamp := Pagination.readEpoch

lemma application_ordinary : RaisesOrdinary application where
  lib := by
    constructor
    · intro text
      show RaisesOnly PyError.Ordinary (Catalogue.standardLibrary.fromisoformat text)
      unfold Catalogue.standardLibrary
      dsimp only
      split
      · trivial
      · trivial
      · trivial
      · refine ordinary_valueError (c := 'I') ?_ (by decide)
        simp only [String.toList_append, List.append_assoc]
        rfl
    · intro text
      show RaisesOnly PyError.Ordinary (Catalogue.standardLibrary.decimal text)
      unfold Catalogue.standardLibrary
      dsimp only
      split
      · trivial
      · exact ordinary_valueError (c := 'd') rfl (by decide)
  provider _ _ := raisesOnly_ok _
  repository _ _ := raisesOnly_ok _
  search _ _ := raisesOnly_ok _

/-- Nothing is stored. -/
def nothingStored : World × SyncState (List Plan) := (World.empty, ⟨[], fun _ => ⟨0⟩⟩)

/-- A cancellation of an order that does not exist. -/
def oneCancellation : List (Message ℚ) := [.command (.cancelOrder ⟨.nil, "changed my mind"⟩)]

section Example

attribute [local instance] Pagination.idsByText

/-- The handler raises `OrderNotFoundError`, and the bus does not know the command. -/
theorem cancellation_unknown : ¬ ∀ (d : Deployment ℚ (World × SyncState (List Plan)) (List Plan))
    misdirected messages s, RaisesOrdinary d → Agrees d misdirected messages s := by
  intro h
  exact not_agrees_cons (fun _ _ s => (.ok .none, s)) application_ordinary _ _ nothingStored
    (h application _ oneCancellation nothingStored application_ordinary)

theorem cancellation_agrees_iff :
    Agrees application (fun _ _ s => (.ok .none, s)) oneCancellation nothingStored ↔
      oneCancellation = [] :=
  agrees_iff _ application_ordinary oneCancellation nothingStored

end Example

end TicketGenius.Dispatching
