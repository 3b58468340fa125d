import Asyncly.Client.Auth
import Asyncly.Client.Handlers

/-!
# The base client

One physical attempt (`_request_once`) and the retry loop around it
(`_make_req`). The loop takes the attempt as a parameter, as the class does: an
instrumented client overrides it. Timeouts are passed through by the source and
play no part here; how an attempt meets them is the world's.
-/

namespace Asyncly

variable {B V : Type}

/-! ### Replayable bodies -/

/-- A leaf for which a second reading gives the same bytes. -/
def LeafKind.replayable : LeafKind → Bool
  | none | str | bytes | bytearray | memoryview | int | float | bool => true
  | asyncIterable | other => false

mutual

/-- `_is_replayable_data` -/
def isReplayableData : Payload → Bool
  | .leaf kind => kind.replayable
  | .mapping values => allReplayable values
  | .sequence items => allPairsReplayable items

def allReplayable : List Payload → Bool
  | [] => true
  | value :: rest => isReplayableData value && allReplayable rest

/-- Every item is a sequence of two elements, and the second of them is looked into. -/
def allPairsReplayable : List Payload → Bool
  | [] => true
  | .sequence [_, second] :: rest => isReplayableData second && allPairsReplayable rest
  | _ :: _ => false

end

/-- `_is_request_replayable` -/
def isRequestReplayable (kwargs : Kwargs) : Bool := kwargs.data.all isReplayableData

/-! ### One attempt -/

/-- The arguments of `_request_once`. -/
structure RequestArgs (B V : Type) where
  method : String
  url : Url
  handlers : Handlers (Handler B V)
  operation : Option String
  retry : Option RetryPolicy
  retryContext : Option RetryContext
  retryObserver : Option RetryObserver
  kwargs : Kwargs

/-- What `_request_once` returns: the value of a handler, or the marker of a
response that is to be retried. -/
inductive RequestResult (V : Type)
  | value (v : V)
  | retryable (response : RetryableResponse)

/-- `_notify_retry_observer` -/
def notifyRetryObserver (observer : Option RetryObserver) (event : RetryEvent) : Async B Unit :=
  match observer with
  | none => pure ()
  | some observe => do
      Traced.emit (.retryEvent event)
      Traced.ofExcept (observe event)

/-- The kind of the event for a suppression. -/
def suppressionKind (suppression : RetryReason) : RetryEventKind :=
  if suppression = .attemptsExhausted then .exhausted else .suppressed

/-- The attempt number of a call of `_request_once`: calls without a retry context
are single. -/
def RequestArgs.slot (args : RequestArgs B V) : Nat :=
  args.retryContext.elim 1 RetryContext.attempt

/-- The keyword arguments `ClientSession.request` is entered with. -/
def sessionKwargs (retry : Option RetryPolicy) (kwargs : Kwargs) : Kwargs :=
  match retry with
  | none => kwargs
  | some _ =>
      { kwargs with
        middlewares := some (.exposeAiohttpTransportErrors :: kwargs.middlewares.getD []) }

/-- The part of `_request_once` between the response and its handler: the marker
of a response to retry, or `none` when the handler runs. -/
def interceptResponse (args : RequestArgs B V) (response : Response B) :
    Async B (Option RetryableResponse) :=
  match args.retry, args.retryContext with
  | some retry, some retryContext => do
      let responseContext ← Traced.ofExcept (retryContext.withResponseStatus response.status)
      if retry.matchesOutcome responseContext then
        match retry.suppressionReason responseContext with
        | none => pure (some ⟨responseContext, response.headers.get? "Retry-After"⟩)
        | some suppression => do
            notifyRetryObserver args.retryObserver
              ⟨suppressionKind suppression, responseContext, .zero, suppression⟩
            pure none
      else pure none
  | _, _ => pure none

/-- `BaseHttpClient._request_once`, with the mapping it dispatches on. -/
def requestOnce (world : World B) (clientName : String) (args : RequestArgs B V)
    (handlers : Handlers (Entry B V)) : Async B (RequestResult V) := do
  Traced.emit (.request args.method args.url (sessionKwargs args.retry args.kwargs))
  let response ← Traced.ofExcept (world.session args.slot)
  let intercepted ← interceptResponse args response
  match intercepted with
  | some retryable => pure (.retryable retryable)
  | none => do
      let v ← applyHandler handlers response clientName
      pure (.value v)

section RequestOnce

variable {world : World B} {clientName : String} {args : RequestArgs B V}
  {handlers : Handlers (Entry B V)} {response : Response B} {exc : Exn} {log : List (Effect B)}

theorem requestOnce_of_error (h : world.session args.slot = .error exc) :
    requestOnce world clientName args handlers =
      ⟨[.request args.method args.url (sessionKwargs args.retry args.kwargs)], .error exc⟩ := by
  rw [requestOnce, h]
  rfl

theorem requestOnce_of_response (h : world.session args.slot = .ok response) :
    requestOnce world clientName args handlers = (do
      Traced.emit (.request args.method args.url (sessionKwargs args.retry args.kwargs))
      let intercepted ← interceptResponse args response
      match intercepted with
      | some retryable => pure (.retryable retryable)
      | none => do
          let v ← applyHandler handlers response clientName
          pure (.value v)) := by
  rw [requestOnce, h]
  rfl

/-- A response that is to be retried never reaches a handler. -/
theorem requestOnce_of_marker (h : world.session args.slot = .ok response)
    {retryable : RetryableResponse}
    (intercept : interceptResponse args response = ⟨log, .ok (some retryable)⟩) :
    requestOnce world clientName args handlers =
      ⟨.request args.method args.url (sessionKwargs args.retry args.kwargs) :: log,
        .ok (.retryable retryable)⟩ := by
  rw [requestOnce_of_response h, intercept]
  simp [Traced.pure_def]

/-- Other responses go to the handlers, once the observer has returned. -/
theorem requestOnce_of_dispatch (h : world.session args.slot = .ok response)
    (intercept : interceptResponse args response = ⟨log, .ok none⟩) :
    requestOnce world clientName args handlers =
      ⟨.request args.method args.url (sessionKwargs args.retry args.kwargs) ::
          (log ++ (applyHandler handlers response clientName).log),
        (applyHandler handlers response clientName).result.map .value⟩ := by
  rw [requestOnce_of_response h, intercept, Traced.emit_bind, Traced.mk_ok_bind]
  simp

theorem requestOnce_of_observer (h : world.session args.slot = .ok response)
    (intercept : interceptResponse args response = ⟨log, .error exc⟩) :
    requestOnce world clientName args handlers =
      ⟨.request args.method args.url (sessionKwargs args.retry args.kwargs) :: log,
        .error exc⟩ := by
  rw [requestOnce_of_response h, intercept, Traced.emit_bind, Traced.mk_error_bind]

end RequestOnce

/-- The attempt of a client that is not instrumented. -/
def baseAttempt (world : World B) (clientName : String) (args : RequestArgs B V) :
    Async B (RequestResult V) :=
  requestOnce world clientName args (args.handlers.map .bare)

/-- The effects of the client around its attempts: decisions and sleeps. -/
def Effect.OfLoop : Effect B → Prop
  | retryEvent _ | sleep _ => True
  | _ => False

theorem Effect.request?_eq_none {e : Effect B} (h : e.OfLoop ∨ e.OfDispatch) :
    e.request? = none := by
  cases e with
  | request _ _ _ => exact h.elim False.elim False.elim
  | _ => rfl

theorem Effect.handler?_eq_none {e : Effect B} (h : e.OfLoop) : e.handler? = none := by
  cases e with
  | handler _ _ => exact h.elim
  | _ => rfl

theorem Effect.sinkCall?_eq_none {e : Effect B} (h : e.OfLoop ∨ e.OfDispatch) :
    e.sinkCall? = none := by
  cases e with
  | sinkCall _ _ => exact h.elim False.elim False.elim
  | _ => rfl

theorem only_notifyRetryObserver (observer : Option RetryObserver) (event : RetryEvent) :
    (notifyRetryObserver observer event : Async B Unit).Only Effect.OfLoop := by
  cases observer with
  | none => exact Traced.only_pure _
  | some observe =>
      exact Traced.only_bind (Traced.only_emit trivial) fun _ => Traced.only_ofExcept _

theorem only_interceptResponse (args : RequestArgs B V) (response : Response B) :
    (interceptResponse args response).Only Effect.OfLoop := by
  rw [interceptResponse]
  split
  · refine Traced.only_bind (Traced.only_ofExcept _) fun context => ?_
    split
    · split
      · exact Traced.only_pure _
      · exact Traced.only_bind (only_notifyRetryObserver _ _) fun _ => Traced.only_pure _
    · exact Traced.only_pure _
  · exact Traced.only_pure _

/-- Whatever the world answers, an attempt of the base client is one request. -/
theorem requestOnce_log (world : World B) (clientName : String) (args : RequestArgs B V)
    (handlers : Handlers (Entry B V)) :
    ∃ rest, (requestOnce world clientName args handlers).log =
        .request args.method args.url (sessionKwargs args.retry args.kwargs) :: rest ∧
      ∀ e ∈ rest, e.OfLoop ∨ e.OfDispatch := by
  refine ⟨_, rfl, ?_⟩
  change Traced.Only (fun e : Effect B => e.OfLoop ∨ e.OfDispatch) _
  refine Traced.only_bind (Traced.only_ofExcept _) fun response => ?_
  refine Traced.only_bind (fun e he => .inl (only_interceptResponse args response e he))
    fun intercepted => ?_
  cases intercepted with
  | some retryable => exact Traced.only_pure _
  | none =>
      exact Traced.only_bind
        (fun e he => .inr (only_applyHandler handlers response clientName e he))
        fun _ => Traced.only_pure _

theorem filterMap_requestOnce {α : Type} {p : Effect B → Option α}
    (blind : ∀ e : Effect B, e.OfLoop ∨ e.OfDispatch → p e = none)
    (world : World B) (clientName : String) (args : RequestArgs B V)
    (handlers : Handlers (Entry B V)) :
    (requestOnce world clientName args handlers).log.filterMap p =
      (p (.request args.method args.url (sessionKwargs args.retry args.kwargs))).toList := by
  obtain ⟨rest, log, kinds⟩ := requestOnce_log world clientName args handlers
  have nothing : rest.filterMap p = [] :=
    List.filterMap_eq_nil_iff.mpr fun e he => blind e (kinds e he)
  rw [log, List.filterMap_cons, nothing]
  cases p (.request args.method args.url (sessionKwargs args.retry args.kwargs)) <;> rfl

/-! ### The retry loop -/

section Loop

variable (rt : Runtime)

/-- `_retry_exception_delay`. Re-raising the caught or the original exception is
raising the unwrapped one. -/
def retryExceptionDelay (policy : RetryPolicy) (context : RetryContext)
    (observer : Option RetryObserver) (caught : Exn) (now : DateTime) : Async B Delay := do
  let original := caught.unwrapObservableTransportError
  let failedContext ← Traced.ofExcept (context.withException original)
  if policy.matchesOutcome failedContext then
    match policy.suppressionReason failedContext with
    | some suppression => do
        notifyRetryObserver observer
          ⟨suppressionKind suppression, failedContext, .zero, suppression⟩
        Traced.raise original
    | none => do
        let delay ← Traced.ofExcept (policy.getDelay rt failedContext none now)
        notifyRetryObserver observer ⟨.scheduled, failedContext, delay, .exception⟩
        pure delay
  else Traced.raise original

/-- One iteration of the loop of `_make_req`. -/
def retryAttempt (once : RequestArgs B V → Async B (RequestResult V)) (world : World B)
    (policy : RetryPolicy) (args : RequestArgs B V) (replayable : Bool) (attempt : Nat) :
    Async B (Option V) := do
  let context ← Traced.ofExcept
    (RetryContext.init args.method args.url attempt policy.maxAttempts replayable none none)
  let outcome ← (once { args with retry := some policy, retryContext := some context }).catching
    Exn.isException
  match outcome with
  | .error caught => do
      let delay ← retryExceptionDelay rt policy context args.retryObserver caught
        (world.clock attempt)
      Traced.emit (.sleep delay)
      Traced.ofExcept (world.sleep attempt)
      pure none
  | .ok (.value v) => pure (some v)
  | .ok (.retryable response) => do
      let delay ← Traced.ofExcept
        (policy.getDelay rt response.context response.retryAfter (world.clock attempt))
      notifyRetryObserver args.retryObserver ⟨.scheduled, response.context, delay, .status⟩
      Traced.emit (.sleep delay)
      Traced.ofExcept (world.sleep attempt)
      pure none

theorem only_retryExceptionDelay (policy : RetryPolicy) (context : RetryContext)
    (observer : Option RetryObserver) (caught : Exn) (now : DateTime) :
    (retryExceptionDelay rt policy context observer caught now : Async B Delay).Only
      Effect.OfLoop := by
  refine Traced.only_bind (Traced.only_ofExcept _) fun failed => ?_
  split
  · split
    · exact Traced.only_bind (only_notifyRetryObserver _ _) fun _ => Traced.only_raise _
    · refine Traced.only_bind (Traced.only_ofExcept _) fun delay => ?_
      exact Traced.only_bind (only_notifyRetryObserver _ _) fun _ => Traced.only_pure _
  · exact Traced.only_raise _

theorem only_waiting (delay : Delay) (slept : Except Exn Unit) :
    (do
      Traced.emit (.sleep delay)
      Traced.ofExcept slept
      pure none : Async B (Option V)).Only Effect.OfLoop :=
  Traced.only_bind (Traced.only_emit trivial) fun _ =>
    Traced.only_bind (Traced.only_ofExcept slept) fun _ => Traced.only_pure _

/-- An iteration does what its attempt does, then decides and sleeps. -/
theorem retryAttempt_log (once : RequestArgs B V → Async B (RequestResult V)) (world : World B)
    (policy : RetryPolicy) (args : RequestArgs B V) (replayable : Bool) {attempt : Nat}
    {context : RetryContext}
    (start : RetryContext.init args.method args.url attempt policy.maxAttempts replayable none none
      = .ok context) :
    ∃ rest, (retryAttempt rt once world policy args replayable attempt).log =
        (once { args with retry := some policy, retryContext := some context }).log ++ rest ∧
      ∀ e ∈ rest, e.OfLoop := by
  rw [retryAttempt, start, Traced.ofExcept_ok_bind]
  rcases Traced.catching_bind_log Exn.isException
      (once { args with retry := some policy, retryContext := some context }) _ with
    alone | ⟨outcome, followed⟩
  · exact ⟨[], by rw [alone, List.append_nil], by simp⟩
  · refine ⟨_, followed, ?_⟩
    change Traced.Only Effect.OfLoop _
    split
    · exact Traced.only_bind (only_retryExceptionDelay rt _ _ _ _ _) fun delay =>
        only_waiting delay _
    · exact Traced.only_pure _
    · refine Traced.only_bind (Traced.only_ofExcept _) fun delay => ?_
      exact Traced.only_bind (only_notifyRetryObserver _ _) fun _ => only_waiting delay _

/-- The arguments of `_make_req`. -/
structure CallArgs (B V : Type) where
  method : String
  url : Url
  handlers : Handlers (Handler B V)
  retry : Option RetryPolicy := none
  retryObserver : Option RetryObserver := none
  operation : Option String := none
  kwargs : Kwargs := {}

/-- The fields of `BaseHttpClient` a call reads. -/
structure BaseHttpClient where
  clientName : String
  proxy : Option Url := none
  proxyAuth : Option BasicAuth := none

/-- The instance-level proxy is injected unless the key is there. -/
def BaseHttpClient.injectProxy (client : BaseHttpClient) (kwargs : Kwargs) : Kwargs :=
  match kwargs.proxy, client.proxy with
  | none, some proxy => { kwargs with proxy := some (some proxy) }
  | _, _ => kwargs

/-- What every attempt of a call is given, but for the retry arguments. -/
def CallArgs.requestArgs (call : CallArgs B V) (kwargs : Kwargs) : RequestArgs B V where
  method := call.method
  url := call.url
  handlers := call.handlers
  operation := call.operation
  retry := none
  retryContext := none
  retryObserver := none
  kwargs := kwargs

/-- `_make_req`, over the `_request_once` of the class. Without a policy an attempt
returns the value of its handler. -/
def makeReq (client : BaseHttpClient) (once : RequestArgs B V → Async B (RequestResult V))
    (world : World B) (call : CallArgs B V) : Async B (RequestResult V) := do
  let kwargs ← Traced.ofExcept
    (normalizeAuthKwargs rt (client.injectProxy call.kwargs) client.proxyAuth)
  match call.retry with
  | none => once (call.requestArgs kwargs)
  | some policy => do
      let args := { call.requestArgs kwargs with retryObserver := call.retryObserver }
      let v ← Traced.forLoop
        (retryAttempt rt once world policy args (isRequestReplayable kwargs))
        (Traced.raise (.runtimeError "retry loop exited without a result"))
        (List.range' 1 policy.maxAttempts)
      pure (.value v)

/-- A call that is refused for its credentials makes no attempt. -/
theorem makeReq_of_refused {client : BaseHttpClient} {world : World B} {call : CallArgs B V}
    {exc : Exn} (once : RequestArgs B V → Async B (RequestResult V))
    (refused : normalizeAuthKwargs rt (client.injectProxy call.kwargs) client.proxyAuth =
      .error exc) :
    makeReq rt client once world call = Traced.raise exc := by
  rw [makeReq, refused, Traced.ofExcept_error_bind]

/-- `BaseHttpClient._make_req` -/
def BaseHttpClient.makeReq (client : BaseHttpClient) (world : World B) (call : CallArgs B V) :
    Async B (RequestResult V) :=
  Asyncly.makeReq rt client (baseAttempt world client.clientName) world call

theorem BaseHttpClient.makeReq_of_refused {client : BaseHttpClient} {world : World B}
    {call : CallArgs B V} {exc : Exn}
    (refused : normalizeAuthKwargs rt (client.injectProxy call.kwargs) client.proxyAuth =
      .error exc) :
    client.makeReq rt world call = Traced.raise exc :=
  Asyncly.makeReq_of_refused rt _ refused

end Loop

/-! ### A call to compute with -/

namespace Sample

def url : Url := ⟨"http://api/items", "http", "/items"⟩

def response (status : Nat) (headers : Headers := []) : Response Unit :=
  ⟨status, url, headers, ()⟩

def client : BaseHttpClient := { clientName := "api" }

/-- Dates are not understood, and encoding is the identity on the password. -/
def runtime : Runtime where
  unicode := .latin1
  parsedateToDatetime _ := .error (.valueError "Invalid date value or format")
  encodeBasicAuth auth := .ok auth.password

def epoch : DateTime where
  wall := 0
  utcoffset := none
  wall_range := by decide
  offset_range := by simp

/-- Responses by attempt number, no waiting, no time. -/
def world (session : Nat → Except Exn (Response Unit)) : World Unit where
  session := session
  sleep _ := .ok ()
  clock _ := epoch
  duration _ := .finite 0

/-- A policy that retries a `GET` for 503 and timeouts after half a second. -/
def policy (retries : Nat) : RetryPolicy where
  maxAttempts := retries + 1
  statuses := [503]
  exceptions := [.timeoutError]
  methods := ["GET"]
  backoff _ := .ok (.finite (1 / 2))
  respectRetryAfter := true
  maxAttempts_pos := Nat.le_add_left 1 retries
  statuses_valid := by decide
  methods_nonempty := by decide

/-- A coroutine function with the one parameter `response`. -/
def handler (result : Except Exn Nat) : Handler Unit Nat :=
  .ofFunction "handle" [⟨"response", .positionalOrKeyword, false⟩] "" fun _ => result

def handlers (entries : List (HandlerKey × Handler Unit Nat)) : Handlers (Handler Unit Nat) where
  entries := entries

def timeout : Exn := .ofClass .timeoutError "timed out"

theorem getDelay_policy (retries : Nat) (context : RetryContext) (now : DateTime) :
    ∃ delay, (policy retries).getDelay runtime context none now = .ok delay := by
  have nonneg : (0 : ℚ) ≤ 1 / 2 := by norm_num
  refine ⟨⟨1 / 2, nonneg⟩, ?_⟩
  rw [RetryPolicy.getDelay_none]
  exact Delay.check_finite nonneg _

end Sample

end Asyncly
