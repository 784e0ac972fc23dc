import TicketGenius.Framework.Dispatch
import TicketGenius.ServiceLayer.Handlers
import TicketGenius.ServiceLayer.PlanSync
import TicketGenius.ServiceLayer.Queries

/-!
# The message bus

`MessageBus` of `service_layer/messagebus.py`.  `_handle_command` and `_handle_query` are functions
of `singledispatch` and attributes of the class; their registered implementations call the handlers.
A `ReserveSeatsCommand` is registered too, but the handler has no method for it, so it is no
`Command` here.

What a call does, to whatever state `S` it works on, is a `Call`.  An exception does not end a
sequence of calls.
-/

namespace TicketGenius.MessageBus

open Framework

/-! ## Messages -/

/-- The commands. -/
inductive Command
  | createOrder (cmd : CreateOrderCommand)
  | confirmPayment (cmd : ConfirmPaymentCommand)
  | cancelOrder (cmd : CancelOrderCommand)
  | refundOrder (cmd : RefundOrderCommand)
  | syncPlans (cmd : SyncPlansCommand)

/-- The queries, over floats `F`. -/
inductive Query (F : Type)
  | searchPlans (query : SearchPlansQuery F)
  | getPlan (query : GetPlanQuery)
  | getOrder (query : GetOrderQuery)
  | listOrders (query : ListOrdersQuery)

inductive Message (F : Type)
  | command (c : Command)
  | query (q : Query F)

/-- The classes of the bus and of what is passed to it. -/
inductive PyClass
  | object
  | messageBus
  | createOrderCommand
  | confirmPaymentCommand
  | cancelOrderCommand
  | refundOrderCommand
  | syncPlansCommand
  | reserveSeatsCommand
  | searchPlansQuery
  | getPlanQuery
  | getOrderQuery
  | listOrdersQuery
deriving DecidableEq

namespace PyClass

/-- `cls.__name__` -/
def name : PyClass → String
  | .object => "object"
  | .messageBus => "MessageBus"
  | .createOrderCommand => "CreateOrderCommand"
  | .confirmPaymentCommand => "ConfirmPaymentCommand"
  | .cancelOrderCommand => "CancelOrderCommand"
  | .refundOrderCommand => "RefundOrderCommand"
  | .syncPlansCommand => "SyncPlansCommand"
  | .reserveSeatsCommand => "ReserveSeatsCommand"
  | .searchPlansQuery => "SearchPlansQuery"
  | .getPlanQuery => "GetPlanQuery"
  | .getOrderQuery => "GetOrderQuery"
  | .listOrdersQuery => "ListOrdersQuery"

/-- `cls.__mro__` -/
def mro : PyClass → List PyClass
  | .object => [.object]
  | cls => [cls, .object]

end PyClass

/-- `type(command)` -/
def Command.cls : Command → PyClass
  | .createOrder _ => .createOrderCommand
  | .confirmPayment _ => .confirmPaymentCommand
  | .cancelOrder _ => .cancelOrderCommand
  | .refundOrder _ => .refundOrderCommand
  | .syncPlans _ => .syncPlansCommand

/-- `type(query)` -/
def Query.cls {F : Type} : Query F → PyClass
  | .searchPlans _ => .searchPlansQuery
  | .getPlan _ => .getPlanQuery
  | .getOrder _ => .getOrderQuery
  | .listOrders _ => .listOrdersQuery

/-- What a dispatched function receives. -/
inductive PyObject (F : Type)
  | bus
  | command (c : Command)
  | query (q : Query F)

/-- `type(x)` -/
def PyObject.cls {F : Type} : PyObject F → PyClass
  | .bus => .messageBus
  | .command c => c.cls
  | .query q => q.cls

/-! ## Calls -/

/-- What a call raises: an exception of the code, or the database driver's for a query the database
refuses. -/
inductive Raised
  | python (e : PyError)
  | dataError

/-- What a call returns; `none` is `None`.  A synchronization has no count as long as it has not
ended. -/
inductive Returned
  | none
  | orderCreated (result : OrderCreatedResult)
  | paymentConfirmed (result : PaymentConfirmedResult)
  | synced (count : Option ℕ)
  | searched (result : PlanSearchResult)
  | planDetail (result : Option PlanDetail)
  | orderSummary (result : Option OrderSummary)
  | orderSummaries (result : List OrderSummary)

/-- What a call does to a state. -/
abbrev Call (S : Type) : Type := S → Except Raised Returned × S

/-- The results of calls, one for each, and the state after them. -/
def callAll {S ι : Type} (call : ι → Call S) : List ι → S → List (Except Raised Returned) × S
  | [], s => ([], s)
  | m :: ms, s =>
    let (result, s') := call m s
    let (results, s'') := callAll call ms s'
    (result :: results, s'')

/-! ## The bus -/

section Bus

variable {F S : Type}

/-- The handlers of a bus: what their method for a message does, and what the method that the
implementation for a class calls does if it is not handed a message of that class. -/
structure Handlers (F S : Type) where
  command : Command → Call S
  query : Query F → Call S
  misdirected : PyClass → List (PyObject F) → Call S

namespace Handlers

variable (handlers : Handlers F S)

/-- The method of a handler for a message. -/
def direct : Message F → Call S
  | .command c => handlers.command c
  | .query q => handlers.query q

/-- The implementation that is registered for a class. -/
def implementation (cls : PyClass) : List (PyObject F) → Call S
  | [.bus, .command c] =>
    if c.cls = cls then handlers.command c else handlers.misdirected cls [.bus, .command c]
  | [.bus, .query q] =>
    if q.cls = cls then handlers.query q else handlers.misdirected cls [.bus, .query q]
  | args => handlers.misdirected cls args

/-- The body of `_handle_command` and of `_handle_query`. -/
def unknown (text : String) : List (PyObject F) → Call S
  | [_, message] => fun s => (.error (.python (.valueError (text ++ message.cls.name))), s)
  | args => handlers.misdirected .object args

/-- A function of `singledispatch` with the implementations for some classes. -/
def dispatching (text : String) (classes : List PyClass) :
    SingleDispatch PyClass (List (PyObject F) → Call S) :=
  (SingleDispatch.decorate (handlers.unknown text)).registerAll classes handlers.implementation

/-- The classes registered for `_handle_command`. -/
def commandClasses : List PyClass :=
  [.createOrderCommand, .confirmPaymentCommand, .cancelOrderCommand, .refundOrderCommand,
    .syncPlansCommand, .reserveSeatsCommand]

/-- The classes registered for `_handle_query`. -/
def queryClasses : List PyClass :=
  [.searchPlansQuery, .getPlanQuery, .getOrderQuery, .listOrdersQuery]

/-- `_handle_command` -/
def commandFunction : SingleDispatch PyClass (List (PyObject F) → Call S) :=
  handlers.dispatching "Unknown command: " commandClasses

/-- `_handle_query` -/
def queryFunction : SingleDispatch PyClass (List (PyObject F) → Call S) :=
  handlers.dispatching "Unknown query: " queryClasses

/-- `MessageBus.handle_command` -/
def handleCommand (c : Command) : Call S :=
  handlers.commandFunction.callBound PyClass.mro PyObject.cls .bus [.command c]

/-- `MessageBus.handle_query` -/
def handleQuery (q : Query F) : Call S :=
  handlers.queryFunction.callBound PyClass.mro PyObject.cls .bus [.query q]

/-- Passes a message to the bus. -/
def handle : Message F → Call S
  | .command c => handlers.handleCommand c
  | .query q => handlers.handleQuery q

end Handlers

end Bus

/-! ## The handlers of the application -/

/-- What the handlers work with: the parts of the state they use, and what is outside the source.
How the parts are kept in one state is left open. -/
structure Deployment (F S σ : Type) where
  world : S → World
  withWorld : World → S → S
  /-- What the session's instances have besides their rows. -/
  session : S → Session
  sync : S → SyncState σ
  withSync : SyncState σ → S → S
  /-- The rows of `orders`. -/
  orders : S → List StoredOrder
  tm : TicketmasterAdapter
  repository : PlanRepository σ
  lib : StandardLibrary
  provider : Provider
  /-- For how many pages a synchronization is followed. -/
  fuel : ℕ
  /-- `search_plans` of the port. -/
  search : S → SearchArguments F → Except PyError (List Json)
  afterSearch : S → SearchArguments F → S
  json : JsonCodec
  /-- How the database reads the sort key of a cursor. -/
  timestamp : Json → Option DateTime

namespace Deployment

variable {F S σ : Type} (d : Deployment F S σ)

/-- An outcome as the result of a call. -/
def resultOf {α : Type} (returned : α → Returned) : Except PyError α → Except Raised Returned
  | .ok a => .ok (returned a)
  | .error e => .error (.python e)

/-- A method of the `OrderCommandHandler`. -/
def callOrderHandler {α : Type} (method : OrderCommandHandler → Service α)
    (returned : α → Returned) : Call S := fun s =>
  match (method ⟨d.tm, d.session s⟩).run World.handle (d.world s) with
  | .ok a w => (resultOf returned (.ok a), d.withWorld w s)
  | .error e w => (resultOf returned (.error e), d.withWorld w s)

/-- The method of the `PlanCommandHandler`. -/
def callPlanHandler (cmd : SyncPlansCommand) : Call S := fun s =>
  match (handleSyncPlans d.lib cmd d.fuel).run (SyncState.handle d.provider d.repository)
    (d.sync s) with
  | .ok count t => (resultOf .synced (.ok count), d.withSync t s)
  | .error e t => (resultOf .synced (.error e), d.withSync t s)

/-- The method for a command. -/
def command : Command → Call S
  | .createOrder cmd => d.callOrderHandler (·.handleCreateOrder cmd) .orderCreated
  | .confirmPayment cmd => d.callOrderHandler (·.handleConfirmPayment cmd) .paymentConfirmed
  | .cancelOrder cmd => d.callOrderHandler (·.handleCancelOrder cmd) fun _ => .none
  | .refundOrder cmd => d.callOrderHandler (·.handleRefundOrder cmd) fun _ => .none
  | .syncPlans cmd => d.callPlanHandler cmd

/-- The method for a query. -/
def query [LinearOrder UUID] : Query F → Call S
  | .searchPlans q => fun s =>
    (resultOf .searched (handleSearchPlans (d.search s) q), d.afterSearch s q.arguments)
  | .getPlan q => fun s => (resultOf .planDetail (handleGetPlan (d.world s).plans q), s)
  | .getOrder q => fun s => (.ok (.orderSummary (handleGetOrder (d.orders s) q)), s)
  | .listOrders q => fun s =>
    (match handleListOrders d.json d.timestamp (d.orders s) q with
      | some summaries => .ok (.orderSummaries summaries)
      | none => .error .dataError, s)

/-- The handlers of the application. -/
def handlers [LinearOrder UUID] (misdirected : PyClass → List (PyObject F) → Call S) :
    Handlers F S :=
  ⟨d.command, d.query, misdirected⟩

end Deployment

end TicketGenius.MessageBus
