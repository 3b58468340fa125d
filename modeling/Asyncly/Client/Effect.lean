import Asyncly.Client.Retry
import Asyncly.Lib.Traced
import Asyncly.Metrics.Sink

/-!
# What a request does

The arguments forwarded to `ClientSession.request`, the effects an attempt can
have, and the world an attempt runs against. Running a coroutine to its end gives
a `Traced` computation over these effects.
-/

namespace Asyncly

/-- The value of an `auth` or `proxy_auth` argument. -/
inductive AuthArg
  | pyNone
  | basic (auth : BasicAuth)
  | other
  deriving DecidableEq, Repr

/-- A client middleware: one of the two the client installs itself, or one the
caller or the session brings. -/
inductive Middleware
  | forwardPlainHttpProxyAuth
  | exposeAiohttpTransportErrors
  | user (name : String)
  deriving DecidableEq, Repr

/-- What a leaf of a `data` argument is. -/
inductive LeafKind
  | none | str | bytes | bytearray | memoryview | int | float | bool
  | asyncIterable | other
  deriving DecidableEq, Repr

/-- A `data` argument: a mapping by its values, a sequence other than text and
bytes by its items, or a leaf. -/
inductive Payload
  | leaf (kind : LeafKind)
  | mapping (values : List Payload)
  | sequence (items : List Payload)

/-- `trace_request_ctx`: the labels the client writes, or a value of the caller. -/
inductive TraceRequestCtx
  | labels (client operation : String)
  | caller (text : String)
  deriving DecidableEq, Repr

/-- The keyword arguments of a request, `none` for a missing key. For `headers`,
`proxy_headers`, `middlewares` and `data` no reader tells a missing key from
`None`, so one `none` stands for both. -/
structure Kwargs where
  auth : Option AuthArg := none
  proxyAuth : Option AuthArg := none
  headers : Option Headers := none
  proxyHeaders : Option Headers := none
  proxy : Option (Option Url) := none
  middlewares : Option (List Middleware) := none
  data : Option Payload := none
  traceRequestCtx : Option TraceRequestCtx := none
  rest : List (String × String) := []

/-- One effect of a request. -/
inductive Effect (B : Type)
  /-- `ClientSession.request` is entered. -/
  | request (method : String) (url : Url) (kwargs : Kwargs)
  /-- The body of a handler starts. -/
  | handler (name : String) (response : Response B)
  /-- A wrapped handler writes the status cell. -/
  | markStatus (status : Nat)
  | retryEvent (event : RetryEvent)
  | sleep (delay : Delay)
  | sinkCall (sink : Sink) (call : SinkCall)

namespace Effect

variable {B : Type}

def request? : Effect B → Option Kwargs
  | request _ _ kwargs => some kwargs
  | _ => none

def handler? : Effect B → Option (String × Response B)
  | handler name response => some (name, response)
  | _ => none

def markStatus? : Effect B → Option Nat
  | markStatus status => some status
  | _ => none

def retryEvent? : Effect B → Option RetryEvent
  | retryEvent event => some event
  | _ => none

def sleep? : Effect B → Option Delay
  | sleep delay => some delay
  | _ => none

def sinkCall? : Effect B → Option (Sink × SinkCall)
  | sinkCall sink call => some (sink, call)
  | _ => none

end Effect

/-- A coroutine of the client run to its end. -/
abbrev Async (B : Type) := Traced (Effect B) Exn

/-- What the attempts of one call meet, by attempt number: what entering
`ClientSession.request` gives, how the sleep after the attempt ends, the time at
that moment, and the measured duration. -/
structure World (B : Type) where
  session : Nat → Except Exn (Response B)
  sleep : Nat → Except Exn Unit
  clock : Nat → DateTime
  duration : Nat → Binary64

end Asyncly
