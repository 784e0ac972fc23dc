import TicketGenius.Domain.Exceptions

/-!
# The error handlers of the API

What `register_routes` of `entrypoints/api.py` registers for exceptions, and how Flask picks a
handler: along the MRO of the exception's class, among the handlers for its status code if the class
is one of HTTP, and then among those without a code.  An exception that finds none becomes an
internal server error, which is looked up in its turn; but in debug mode and in tests
(`propagate`) it leaves the application.
-/

namespace TicketGenius

/-! ## Exceptions and their classes -/

/-- A class of exceptions: `httpException code` is the one werkzeug has for a status code, and
`subclass name base` any class derived from another one. -/
inductive ExceptionClass
  | exception
  | valueError
  | domainException
  | httpException (code : ℕ)
  | subclass (name : String) (base : ExceptionClass)
deriving DecidableEq

namespace ExceptionClass

/-- `cls.__mro__`, as far as `Exception`. -/
def mro : ExceptionClass → List ExceptionClass
  | .subclass name base => .subclass name base :: base.mro
  | .exception => [.exception]
  | cls => [cls, .exception]

/-- `cls.code`, of a class of HTTP. -/
def code : ExceptionClass → Option ℕ
  | .subclass _ base => base.code
  | .httpException code => some code
  | _ => none

def planNotFoundError : ExceptionClass := .subclass "PlanNotFoundError" .domainException

def orderNotFoundError : ExceptionClass := .subclass "OrderNotFoundError" .domainException

def paymentNotFoundError : ExceptionClass := .subclass "PaymentNotFoundError" .domainException

def optimisticLockError : ExceptionClass := .subclass "OptimisticLockError" .domainException

end ExceptionClass

/-- The class that has a code. -/
def ErrorCode.cls : ErrorCode → ExceptionClass
  | .planNotFound => .planNotFoundError
  | .orderNotFound => .orderNotFoundError
  | .orderInsufficientInventory => .subclass "InsufficientInventoryError" .domainException
  | .orderSeatMismatch => .subclass "SeatMismatchError" .domainException
  | .paymentNotFound => .paymentNotFoundError
  | .paymentDeclined => .subclass "PaymentDeclinedError" .domainException
  | .idempotencyKeyUsed => .subclass "IdempotencyKeyUsedError" .domainException
  | .providerError => .subclass "ProviderError" .domainException
  | .providerRateLimited => .subclass "ProviderRateLimitedError" .domainException
  | .providerAuthenticationFailed => .subclass "ProviderAuthenticationError" .domainException
  | .optimisticLockError => .optimisticLockError

/-- An exception as the error handlers see it: its class and `str(e)`. -/
structure PyException where
  cls : ExceptionClass
  text : String

/-- `isinstance(e, cls)` -/
def PyException.IsA (e : PyException) (cls : ExceptionClass) : Prop := cls ∈ e.cls.mro

instance (e : PyException) (cls : ExceptionClass) : Decidable (e.IsA cls) :=
  inferInstanceAs (Decidable (_ ∈ _))

/-- A domain exception. -/
def DomainException.raised (self : DomainException) : PyException := ⟨self.code.cls, self.message⟩

/-! ## Answers -/

/-- `ErrorResponse` -/
structure ErrorResponse where
  type : String
  title : String
  status : ℕ
  detail : String
  «instance» : Option String

/-- What becomes of an exception. -/
inductive Answer
  /-- A response with an `ErrorResponse` for its body. -/
  | document (status : ℕ) (body : ErrorResponse)
  /-- The page an exception of HTTP is by itself. -/
  | page (code : ℕ)
  /-- The exception leaves the application. -/
  | unhandled

/-- The status of a response. -/
def Answer.status : Answer → Option ℕ
  | .document status _ => some status
  | .page code => some code
  | .unhandled => none

/-- `"not found" in text.lower()`.  Outside of ASCII no character has a lower-case form with one of
these letters. -/
def mentionsNotFound (text : String) : Bool :=
  (text.toList.map Char.toLower).tails.any fun rest => "not found".toList.isPrefixOf rest

/-! ## Handlers -/

namespace Api

/-- `bad_request`, for the path of the request. -/
def badRequest (path : String) (e : PyException) : Answer :=
  .document 400 ⟨"https://tools.ietf.org/html/rfc7231#section-6.5.1", "Bad Request", 400, e.text,
    some path⟩

/-- `not_found` -/
def notFound (path : String) (e : PyException) : Answer :=
  .document 404 ⟨"https://tools.ietf.org/html/rfc7231#section-6.5.4", "Not Found", 404, e.text,
    some path⟩

/-- `internal_error` -/
def internalError (path : String) (_ : PyException) : Answer :=
  .document 500 ⟨"https://tools.ietf.org/html/rfc7231#section-6.6.1", "Internal Server Error", 500,
    "An unexpected error occurred", some path⟩

/-- `handle_value_error` -/
def handleValueError (path : String) (e : PyException) : Answer :=
  if mentionsNotFound e.text then
    .document 404 ⟨"not_found", "Not Found", 404, e.text, some path⟩
  else .document 400 ⟨"bad_request", "Bad Request", 400, e.text, some path⟩

/-- A registration with `@bp.errorhandler`: of a status code, which stands for its class, or of a
class. -/
structure ErrorHandler where
  code : Option ℕ
  cls : ExceptionClass
  respond : String → PyException → Answer

def errorHandlers : List ErrorHandler :=
  [⟨some 400, .httpException 400, badRequest⟩, ⟨some 404, .httpException 404, notFound⟩,
    ⟨some 500, .httpException 500, internalError⟩, ⟨none, .valueError, handleValueError⟩]

/-- The first class along an MRO for which something is registered under a code. -/
def findAlong (code : Option ℕ) (mro : List ExceptionClass) : Option ErrorHandler :=
  mro.findSome? fun cls =>
    errorHandlers.find? fun handler => handler.code = code ∧ handler.cls = cls

/-- `_find_error_handler` -/
def findErrorHandler (cls : ExceptionClass) : Option ErrorHandler :=
  match cls.code with
  | some code => (findAlong (some code) cls.mro).or (findAlong none cls.mro)
  | none => findAlong none cls.mro

/-- `InternalServerError(original_exception=e)` -/
def internalServerError : PyException :=
  ⟨.httpException 500, "500 Internal Server Error: The server encountered an internal error " ++
    "and was unable to complete your request. Either the server is overloaded or there is an " ++
    "error in the application."⟩

/-- `handle_exception`, for an exception no handler was found for. -/
def handleException (propagate : Bool) (path : String) : Answer :=
  if propagate then .unhandled
  else
    match findErrorHandler internalServerError.cls with
    | some handler => handler.respond path internalServerError
    | none => .page 500

/-- `handle_user_exception`, for an exception that a view has raised. -/
def answer (propagate : Bool) (path : String) (e : PyException) : Answer :=
  match findErrorHandler e.cls with
  | some handler => handler.respond path e
  | none =>
    match e.cls.code with
    | some code => .page code
    | none => handleException propagate path

end Api

end TicketGenius
