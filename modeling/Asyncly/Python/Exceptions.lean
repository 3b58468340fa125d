import Mathlib.Data.List.Basic

/-!
# Exceptions

An exception is known to the client through the classes it is an instance of
and through a few attributes read with `getattr`. `isinstance` is membership of
a class in the method resolution order of the exception's own class.
-/

namespace Asyncly

/-- The exception classes the client names, and every other class. -/
inductive ExcClass
  | baseException | exception | cancelledError
  | attributeError | keyError | overflowError | runtimeError | typeError | valueError
  | osError | connectionResetError | timeoutError
  | clientError | clientConnectionError | clientOSError | clientPayloadError
  | clientConnectorError | clientConnectorDNSError | clientConnectorSSLError
  | clientConnectorCertificateError | clientSSLError
  | serverDisconnectedError | serverTimeoutError | connectionTimeoutError
  | observableTransportError | baseHttpClientException | unhandledStatusException
  | other (name : String)
  deriving DecidableEq, Repr

/-- The value of an attribute that may be missing. What is not an integer is
only ever tested for its truth. -/
inductive Attr
  | absent
  | int (value : Int)
  | object (truthy : Bool)
  deriving DecidableEq, Repr

namespace Attr

/-- The truth of `getattr(obj, name, None)`. -/
def truthy : Attr → Bool
  | absent => false
  | int value => value ≠ 0
  | object b => b

/-- `self or other` -/
def or (self other : Attr) : Attr := if self.truthy then self else other

/-- `value if isinstance(value, int)` -/
def int? : Attr → Option Int
  | int value => some value
  | _ => none

end Attr

/-- An exception other than the client's own transport wrapper: its class by the
classes above it, its text, the attributes the client looks at, and the text of
any further attributes, which only its receiver reads. -/
structure Raised where
  mro : List ExcClass
  text : String
  status : Attr := .absent
  statusCode : Attr := .absent
  osErrorIsGai : Bool := false
  errno : Option Int := none
  details : List (String × String) := []
  deriving DecidableEq, Repr

/-- Every exception that can be in flight in the client. -/
inductive Exn
  | raised (exc : Raised)
  | observableTransportError (original : Raised)
  deriving DecidableEq, Repr

namespace Exn

/-- The method resolution order of the class of an exception. -/
def mro : Exn → List ExcClass
  | raised exc => exc.mro
  | observableTransportError _ => [.observableTransportError, .exception, .baseException]

/-- `isinstance(exc, classes)` -/
def isinstance (exc : Exn) (classes : List ExcClass) : Bool :=
  classes.any fun cls => exc.mro.contains cls

def isException (exc : Exn) : Bool := exc.isinstance [.exception]

def isCancelledError (exc : Exn) : Bool := exc.isinstance [.cancelledError]

/-- `getattr(exc, "status", None)` -/
def status : Exn → Attr
  | raised exc => exc.status
  | observableTransportError _ => .absent

/-- `getattr(exc, "status_code", None)` -/
def statusCode : Exn → Attr
  | raised exc => exc.statusCode
  | observableTransportError _ => .absent

/-- `isinstance(getattr(exc, "os_error", None), socket.gaierror)` -/
def osErrorIsGai : Exn → Bool
  | raised exc => exc.osErrorIsGai
  | observableTransportError _ => false

/-- `getattr(exc, "errno", None)` -/
def errno : Exn → Option Int
  | raised exc => exc.errno
  | observableTransportError _ => none

/-- An exception of a class deriving directly from `Exception`. -/
def ofClass (cls : ExcClass) (text : String) : Exn :=
  .raised { mro := [cls, .exception, .baseException], text := text }

def typeError (text : String) : Exn := ofClass .typeError text
def valueError (text : String) : Exn := ofClass .valueError text
def attributeError (text : String) : Exn := ofClass .attributeError text
def runtimeError (text : String) : Exn := ofClass .runtimeError text

/-- `_unwrap_observable_transport_error` -/
def unwrapObservableTransportError : Exn → Exn
  | observableTransportError original => .raised original
  | exc => exc

@[simp] theorem unwrap_raised (exc : Raised) :
    (raised exc).unwrapObservableTransportError = .raised exc := rfl

end Exn

end Asyncly
