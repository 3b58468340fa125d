import Asyncly.Client.Typing
import Asyncly.Lib.Binary64

/-!
# Retry policies

Contexts, policies and events carry the checks of their constructors as fields,
so a value that `__post_init__` would refuse cannot be built. `init` is the
constructor call, with the error it raises.
-/

namespace Asyncly

inductive RetryEventKind
  | scheduled | suppressed | exhausted
  deriving DecidableEq, Repr

inductive RetryReason
  | status | exception | methodNotAllowed | bodyNotReplayable | attemptsExhausted
  deriving DecidableEq, Repr

/-- Immutable description of one physical request attempt. -/
structure RetryContext where
  method : String
  url : Url
  attempt : Nat
  maxAttempts : Nat
  replayable : Bool
  responseStatus : Option Nat
  exception : Option Exn
  attempt_range : 1 ≤ attempt ∧ attempt ≤ maxAttempts
  one_outcome : responseStatus = none ∨ exception = none
  deriving DecidableEq, Repr

namespace RetryContext

/-- `RetryContext(...)` with the checks of `__post_init__`. -/
def init (method : String) (url : Url) (attempt maxAttempts : Nat) (replayable : Bool)
    (responseStatus : Option Nat) (exception : Option Exn) : Except Exn RetryContext :=
  if maxAttempts < 1 then .error (.valueError "max_attempts must be at least 1")
  else if range : 1 ≤ attempt ∧ attempt ≤ maxAttempts then
    if one : responseStatus = none ∨ exception = none then
      .ok ⟨upper method, url, attempt, maxAttempts, replayable, responseStatus, exception,
        range, one⟩
    else .error (.valueError "response_status and exception are mutually exclusive")
  else .error (.valueError "attempt must be between 1 and max_attempts")

/-- `replace(context, response_status=status)` -/
def withResponseStatus (context : RetryContext) (status : Nat) : Except Exn RetryContext :=
  init context.method context.url context.attempt context.maxAttempts context.replayable
    (some status) context.exception

/-- `replace(context, exception=exc)` -/
def withException (context : RetryContext) (exc : Exn) : Except Exn RetryContext :=
  init context.method context.url context.attempt context.maxAttempts context.replayable
    context.responseStatus (some exc)

end RetryContext

/-- `_RetryableResponse` -/
structure RetryableResponse where
  context : RetryContext
  retryAfter : Option String
  deriving DecidableEq, Repr

/-- A finite non-negative number of seconds. -/
structure Delay where
  seconds : ℚ
  nonneg : 0 ≤ seconds
  deriving DecidableEq

namespace Delay

def zero : Delay := ⟨0, le_refl 0⟩

/-- The check every delay passes before it is used. -/
def check (message : String) : Binary64 → Except Exn Delay
  | .finite v => if h : 0 ≤ v then .ok ⟨v, h⟩ else .error (.valueError message)
  | _ => .error (.valueError message)

theorem check_finite {v : ℚ} (h : 0 ≤ v) (message : String) :
    check message (.finite v) = .ok ⟨v, h⟩ := by
  simp [check, h]

end Delay

/-- Notification emitted for a retry decision. -/
structure RetryEvent where
  kind : RetryEventKind
  context : RetryContext
  delay : Delay
  reason : RetryReason
  deriving DecidableEq

/-- `float(backoff(context))`; a strategy may raise. -/
abbrev BackoffStrategy := RetryContext → Except Exn Binary64

/-- A synchronous callback; it may raise. -/
abbrev RetryObserver := RetryEvent → Except Exn Unit

/-- The float an `int` operand of a float operation is converted to. -/
def floatOfInt (n : Nat) : Except Exn Binary64 :=
  if (Binary64.ofNat n).isfinite then .ok (.ofNat n)
  else .error (.raised {
    mro := [.overflowError, .other "ArithmeticError", .exception, .baseException]
    text := "int too large to convert to float" })

/-- `full_jitter_backoff`; `uniform` is what `random.uniform` gives for the attempt. -/
def fullJitterBackoff (uniform : RetryContext → Binary64 → Binary64 → Binary64) :
    BackoffStrategy := fun context => do
  let doubled ← floatOfInt (2 ^ (context.attempt - 1))
  let cap := ((Binary64.finite (1 / 2)).mul doubled).min (.finite 30)
  pure (uniform context (.finite 0) cap)

/-- Policy controlling whether and when an HTTP request is retried. -/
structure RetryPolicy where
  maxAttempts : Nat
  statuses : List Nat
  exceptions : List ExcClass
  methods : List String
  backoff : BackoffStrategy
  respectRetryAfter : Bool
  maxAttempts_pos : 1 ≤ maxAttempts
  statuses_valid : ∀ status ∈ statuses, 100 ≤ status ∧ status ≤ 599
  methods_nonempty : ∀ method ∈ methods, method ≠ ""

def defaultRetryStatuses : List Nat := [408, 425, 429, 500, 502, 503, 504]

def idempotentMethods : List String := ["GET", "HEAD", "OPTIONS", "TRACE", "PUT", "DELETE"]

def defaultRetryExceptions : List ExcClass :=
  [.clientConnectionError, .clientPayloadError, .timeoutError]

namespace RetryPolicy

/-- `RetryPolicy(...)` with the checks of `__post_init__`. An entry of
`exceptions` that is not an exception class is `none`. -/
def init (maxAttempts : Nat) (statuses : List Nat) (exceptions : List (Option ExcClass))
    (methods : List String) (backoff : BackoffStrategy) (respectRetryAfter : Bool) :
    Except Exn RetryPolicy :=
  if pos : 1 ≤ maxAttempts then
    if valid : ∀ status ∈ statuses, 100 ≤ status ∧ status ≤ 599 then
      if nonempty : ∀ method ∈ methods.map upper, method ≠ "" then
        if exceptions.all Option.isSome then
          .ok ⟨maxAttempts, statuses, exceptions.reduceOption, methods.map upper, backoff,
            respectRetryAfter, pos, valid, nonempty⟩
        else .error (.typeError "exceptions must contain exception classes")
      else .error (.valueError "methods must not contain empty values")
    else
      let invalid := (statuses.dedup.filter fun status => ¬ (100 ≤ status ∧ status ≤ 599)).mergeSort
      .error (.valueError s!"statuses must contain valid HTTP status codes: {invalid}")
  else .error (.valueError "max_attempts must be at least 1")

/-- The defaults pass the checks of the constructor. -/
example (backoff : BackoffStrategy) (respectRetryAfter : Bool) :
    (init 3 defaultRetryStatuses (defaultRetryExceptions.map some) idempotentMethods backoff
      respectRetryAfter).toOption.isSome = true := rfl

variable (policy : RetryPolicy)

/-- `_matches_outcome` -/
def matchesOutcome (context : RetryContext) : Bool :=
  if context.exception.any Exn.isCancelledError then false
  else
    match context.responseStatus, context.exception with
    | some status, _ => policy.statuses.contains status
    | none, some exc => exc.isinstance policy.exceptions
    | none, none => false

/-- Return whether `context` is eligible for another attempt. -/
def shouldRetry (context : RetryContext) : Bool :=
  policy.matchesOutcome context && policy.methods.contains context.method &&
    context.replayable && context.attempt < policy.maxAttempts

/-- `_suppression_reason` -/
def suppressionReason (context : RetryContext) : Option RetryReason :=
  if !policy.matchesOutcome context then none
  else if !policy.methods.contains context.method then some .methodNotAllowed
  else if !context.replayable then some .bodyNotReplayable
  else if policy.maxAttempts ≤ context.attempt then some .attemptsExhausted
  else none

/-- The public predicate is the two internal tests together. -/
theorem shouldRetry_iff (context : RetryContext) :
    policy.shouldRetry context = true ↔
      policy.matchesOutcome context = true ∧ policy.suppressionReason context = none := by
  simp only [shouldRetry, suppressionReason]
  split_ifs <;> simp_all

/-- A policy never retries at the end of its budget. -/
theorem shouldRetry_of_budget {context : RetryContext}
    (h : policy.maxAttempts ≤ context.attempt) : policy.shouldRetry context = false := by
  simp [shouldRetry, Nat.not_lt.mpr h]

end RetryPolicy

/-! ### Delays -/

section Delays

variable (rt : Runtime)

/-- `float(text)` of a text accepted by `str.isdigit`. -/
def floatOfDigits (text : String) : Except Exn Binary64 :=
  if rt.unicode.isDecimalText text then .ok (.ofNat (rt.unicode.decimalNumber text))
  else .error (.valueError s!"could not convert string to float: '{text}'")

/-- `(a - b).total_seconds()` -/
def totalSeconds (a b : DateTime) : Binary64 := .ofRat ((a.instant - b.instant) / 10 ^ 6)

/-- `max(0.0, seconds)` -/
def maxZero : Binary64 → Binary64
  | .finite v => .finite (max 0 v)
  | .infinity false => .infinity false
  | _ => .finite 0

/-- `_parse_retry_after` -/
def parseRetryAfter (value : String) (now : DateTime) : Except Exn (Option Binary64) :=
  let stripped := rt.unicode.strip value
  if rt.unicode.isdigit stripped then (floatOfDigits rt stripped).map some
  else
    match rt.parsedateToDatetime stripped with
    | .error exc =>
        if exc.isinstance [.typeError, .valueError, .overflowError] then .ok none
        else .error exc
    | .ok none => .ok none
    | .ok (some retryAt) => .ok (some (maxZero (totalSeconds retryAt now)))

/-- Return the delay before the next attempt. -/
def RetryPolicy.getDelay (policy : RetryPolicy) (context : RetryContext)
    (retryAfter : Option String) (now : DateTime) : Except Exn Delay := do
  let fromHeader ←
    match policy.respectRetryAfter, retryAfter with
    | true, some header => parseRetryAfter rt header now
    | _, _ => pure none
  let delay ←
    match fromHeader with
    | some delay => pure delay
    | none => policy.backoff context
  Delay.check "retry delay must be a finite non-negative number" delay

/-- Without a header the delay is the one of the backoff. -/
theorem RetryPolicy.getDelay_none (policy : RetryPolicy) (context : RetryContext) (now : DateTime) :
    policy.getDelay rt context none now = (policy.backoff context >>= Delay.check
      "retry delay must be a finite non-negative number") := by
  rcases policy with ⟨_, _, _, _, _, respected, _, _, _⟩
  cases respected <;> rfl

end Delays

end Asyncly
