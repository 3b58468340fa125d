import Asyncly.Metrics.Metered

/-!
# The recorded status

A metered attempt does not see its response: the status is found again in the cell a
wrapped handler writes, in the marker of a response to retry, or in the exception. What
is recorded is compared here with what the session gave, way by way.
-/

namespace Asyncly

variable {B V : Type}

/-- What is recorded of an attempt is what the session gave it: the status of the
response, failed exactly when the attempt did, or no status at all. -/
structure AttemptRecorded (session : Except Exn (Response B))
    (ended : Except Exn (RequestResult V)) (recorded : Observation) : Prop where
  responded : ∀ response, session = .ok response →
    recorded.status = .code response.status ∧ recorded.outcome = .response ∧
      (recorded.errorType = none ↔ ∃ result, ended = .ok result)
  failed : ∀ exc, session = .error exc →
    recorded.status = .text "none" ∧ recorded.outcome ≠ .response

/-- A computation that ends with a cancellation. -/
def Cancelled {R : Type} (ended : Except Exn R) : Prop :=
  ∃ exc, ended = .error exc ∧ exc.unwrapObservableTransportError.isCancelledError = true

/-- The `observe_request` calls in a log. -/
def Effect.observation? : Effect B → Option (Sink × Observation)
  | sinkCall sink (.observeRequest _ recorded) => some (sink, recorded)
  | _ => none

/-! ### When the status is found -/

/-- The status an exception carries in its attributes. -/
def Exn.carriedStatus (exc : Exn) : Option Int :=
  let original := exc.unwrapObservableTransportError
  (original.status.or original.statusCode).int?

/-- A cancellation, or an exception that carries the given status. -/
def Exn.carries (exc : Exn) (status : Option Int) : Bool :=
  exc.unwrapObservableTransportError.isCancelledError || exc.carriedStatus == status

/-- The policy retries the response, so no handler runs. -/
def RequestArgs.retriesResponse (args : RequestArgs B V) (response : Response B) : Bool :=
  match args.retry, args.retryContext with
  | some retry, some retryContext =>
      retry.shouldRetry (retryContext.responseContext response.status)
  | _, _ => false

/-- The answer of the observer to the suppression of a response, if it is told of one. -/
def RequestArgs.announced (args : RequestArgs B V) (response : Response B) : Except Exn Unit :=
  match args.retry, args.retryContext with
  | some retry, some retryContext =>
      let context := retryContext.responseContext response.status
      match retry.suppressionReason context, args.retryObserver with
      | some suppression, some observe =>
          observe ⟨suppressionKind suppression, context, .zero, suppression⟩
      | _, _ => .ok ()
  | _, _ => .ok ()

/-- Dispatching the response leaves its status in the cell, or in the exception: the
entry is wrapped, or there is none and the status is not 0, or the bare handler fails
with the status. -/
def Handlers.leavesStatus (handlers : Handlers (Handler B V)) (response : Response B) : Bool :=
  match handlers.findHandler response.status with
  | none => response.status != 0
  | some handler =>
      handlers.hasItems ||
        if handler.truthy then
          match handler.byKeyword response with
          | .ran (.error exc) => exc.carries (some response.status)
          | _ => false
        else response.status != 0

/-- The status of the response of an attempt, or the lack of one, can be found again. -/
def statusKnown (world : World B) (args : RequestArgs B V) : Bool :=
  match world.session args.slot with
  | .error exc => exc.carries none
  | .ok response =>
      args.retriesResponse response ||
        match args.announced response with
        | .error exc => exc.carries (some response.status)
        | .ok () => args.handlers.leavesStatus response

/-! ### What is recorded of each end -/

/-- The recording of an attempt that ended so, with the cell in that state, is right. -/
def RecordedFor (session : Except Exn (Response B)) (ended : Except Exn (RequestResult V))
    (chosen : Option Nat) (duration : Binary64) : Prop :=
  ¬ Cancelled ended → AttemptRecorded session ended (observe ended chosen duration)

section Ends

variable {response : Response B} {exc : Exn} {chosen : Option Nat} {duration : Binary64}
  {recorded : Observation}

theorem attemptRecorded_ok_iff {ended : Except Exn (RequestResult V)} :
    AttemptRecorded (.ok response) ended recorded ↔
      recorded.status = .code response.status ∧ recorded.outcome = .response ∧
        (recorded.errorType = none ↔ ∃ result, ended = .ok result) := by
  constructor
  · intro h
    exact h.responded response rfl
  · intro h
    refine ⟨fun other same => ?_, nofun⟩
    cases same
    exact h

theorem attemptRecorded_error_iff {ended : Except Exn (RequestResult V)} :
    AttemptRecorded (.error exc : Except Exn (Response B)) ended recorded ↔
      recorded.status = .text "none" ∧ recorded.outcome ≠ .response := by
  constructor
  · intro h
    exact h.failed exc rfl
  · intro h
    exact ⟨nofun, fun _ _ => h⟩

theorem cancelled_error {R : Type} :
    Cancelled (.error exc : Except Exn R) ↔
      exc.unwrapObservableTransportError.isCancelledError = true := by
  simp [Cancelled]

section Alive

variable (alive : exc.unwrapObservableTransportError.isCancelledError = false)
include alive

theorem observe_of_carried {status : Int} (carried : exc.carriedStatus = some status) :
    observe (.error exc : Except Exn (RequestResult V)) none duration =
      ⟨.code status, .response, duration, some .invalidResponse⟩ := by
  simp only [Exn.carriedStatus] at carried
  simp only [observe, classifyFailure, alive, Bool.false_eq_true, if_false, carried]

theorem observe_of_uncarried (carried : exc.carriedStatus = none) :
    observe (.error exc : Except Exn (RequestResult V)) none duration =
      ⟨.text "none", (classifyException exc.unwrapObservableTransportError).1, duration,
        some (classifyException exc.unwrapObservableTransportError).2⟩ := by
  simp only [Exn.carriedStatus] at carried
  simp only [observe, classifyFailure, alive, Bool.false_eq_true, if_false, carried]

theorem observe_of_chosen (status : Nat) :
    observe (.error exc : Except Exn (RequestResult V)) (some status) duration =
      ⟨.code status, .response, duration, some .invalidResponse⟩ := by
  simp only [observe, classifyFailure, alive, Bool.false_eq_true, if_false, Attr.int?]

end Alive

/-- Without a response, the exception must not look like one. -/
theorem recordedFor_error_iff :
    RecordedFor (.error exc : Except Exn (Response B)) (.error exc : Except Exn (RequestResult V))
      none duration ↔ exc.carries none = true := by
  rw [RecordedFor, cancelled_error, Exn.carries, attemptRecorded_error_iff]
  cases alive : exc.unwrapObservableTransportError.isCancelledError with
  | true => simp
  | false =>
      rcases carried : exc.carriedStatus with _ | status
      · rw [observe_of_uncarried alive carried]
        simp [classifyException_ne_response]
      · rw [observe_of_carried alive carried]
        simp

/-- After a response, and without a handler, the exception must carry the status. -/
theorem recordedFor_unmarked_iff :
    RecordedFor (.ok response) (.error exc : Except Exn (RequestResult V)) none duration ↔
      exc.carries (some response.status) = true := by
  rw [RecordedFor, cancelled_error, Exn.carries, attemptRecorded_ok_iff]
  cases alive : exc.unwrapObservableTransportError.isCancelledError with
  | true => simp
  | false =>
      rcases carried : exc.carriedStatus with _ | status
      · rw [observe_of_uncarried alive carried]
        simp
      · rw [observe_of_carried alive carried]
        simp

/-- Once the handler has written the cell, every end is recorded right. -/
theorem recordedFor_marked (ended : Except Exn V) :
    RecordedFor (.ok response) (ended.map .value) (some response.status) duration := by
  intro alive
  rw [attemptRecorded_ok_iff]
  cases ended with
  | ok v => simp [observe, successStatus, Except.map]
  | error exc =>
      rw [Except.map, cancelled_error, Bool.not_eq_true] at alive
      rw [Except.map, observe_of_chosen alive]
      simp

/-- A value without a written cell is recorded as `"ok"`. -/
theorem not_recordedFor_value (v : V) :
    ¬ RecordedFor (.ok response) (.ok (.value v)) none duration := by
  intro recorded
  have status := ((recorded (by rintro ⟨exc, ⟨⟩, -⟩)).responded response rfl).1
  cases status

/-- The marker brings the status with it. -/
theorem recordedFor_retryable {retryable : RetryableResponse}
    (status : retryable.context.responseStatus = some response.status) :
    RecordedFor (.ok response) (.ok (.retryable retryable) : Except Exn (RequestResult V)) chosen
      duration := by
  intro _
  rw [attemptRecorded_ok_iff]
  simp [observe, successStatus, status]

end Ends

/-! ### One attempt -/

section Attempt

variable {handlers : Handlers (Handler B V)} {response : Response B} {clientName : String}
  {duration : Binary64} {args : RequestArgs B V}

/-- The unhandled status carries the status of the response, unless it is 0. -/
theorem carries_unhandled :
    (unhandledStatusException clientName response).carries (some response.status) =
      (response.status != 0) := by
  have alive : (unhandledStatusException clientName
      response).unwrapObservableTransportError.isCancelledError = false := rfl
  rw [Exn.carries, alive]
  by_cases zero : response.status = 0
  · simp [Exn.carriedStatus, unhandledStatusException, Exn.status, Exn.statusCode, Attr.or,
      Attr.truthy, Attr.int?, zero]
  · simp [Exn.carriedStatus, unhandledStatusException, Exn.status, Attr.or, Attr.truthy,
      Attr.int?, zero]

/-- A truthy bare handler is recorded right when it fails with the status. -/
theorem recordedFor_perform_iff {name : String} {outcome : CallOutcome V} :
    let call := outcome.perform name response
    RecordedFor (.ok response) (call.result.map .value) (chosenStatus call.log) duration ↔
      (match outcome with
        | .ran (.error exc) => exc.carries (some response.status)
        | _ => false) = true := by
  cases outcome with
  | rejected message =>
      have carries : (Exn.typeError message).carries (some response.status) = false := rfl
      exact recordedFor_unmarked_iff.trans (by rw [carries])
  | ran result =>
      cases result with
      | ok v => exact iff_of_false (not_recordedFor_value v) (by simp)
      | error exc => exact recordedFor_unmarked_iff

/-- The wrapper writes the cell before anything else. -/
theorem chosenStatus_wrapped (outcome : CallOutcome V) (name : String) :
    chosenStatus (Traced.emit (.markStatus response.status) >>= fun _ =>
      outcome.perform name response : Async B V).log = some response.status := by
  cases outcome <;> rfl

/-- The dispatch of a response is recorded right exactly when it leaves the status. -/
theorem recordedFor_dispatch_iff :
    let dispatch : Async B V :=
      applyHandler (wrapHandlersWithStatusMark handlers) response clientName
    RecordedFor (.ok response) (dispatch.result.map .value) (chosenStatus dispatch.log) duration ↔
      handlers.leavesStatus response = true := by
  intro dispatch
  have unhandled (bare : dispatch = Traced.raise (unhandledStatusException clientName response)) :
      RecordedFor (.ok response) (dispatch.result.map .value) (chosenStatus dispatch.log)
        duration ↔ (response.status != 0) = true := by
    rw [bare]
    exact recordedFor_unmarked_iff.trans (by rw [carries_unhandled])
  rw [Handlers.leavesStatus]
  cases selected : handlers.findHandler response.status with
  | none =>
      apply unhandled
      simp only [dispatch, wrapHandlersWithStatusMark]
      split
      · exact applyHandler_unselected selected
      · exact applyHandler_unselected selected
  | some handler =>
      cases wraps : handlers.hasItems with
      | true =>
          have wrapped : dispatch = Traced.emit (.markStatus response.status) >>= fun _ =>
              (handler.byPosition response).perform handler.name response := by
            simp only [dispatch, wrapHandlersWithStatusMark, wraps, if_true]
            exact applyHandler_wrapped selected
          refine iff_of_true ?_ rfl
          rw [wrapped, chosenStatus_wrapped]
          exact recordedFor_marked _
      | false =>
          have bare : dispatch = if handler.truthy then
              (handler.byKeyword response).perform handler.name response
              else Traced.raise (unhandledStatusException clientName response) := by
            simp only [dispatch, wrapHandlersWithStatusMark, wraps, Bool.false_eq_true, if_false]
            exact applyHandler_bare selected
          simp only [Bool.false_or]
          cases truthy : handler.truthy with
          | true =>
              rw [truthy, if_pos rfl] at bare
              rw [bare, if_pos rfl]
              exact recordedFor_perform_iff
          | false =>
              rw [truthy, if_neg Bool.false_ne_true] at bare
              rw [if_neg Bool.false_ne_true]
              exact unhandled bare

theorem exists_policy (retried : args.retriesResponse response = true) :
    ∃ retry context, args.retry = some retry ∧ args.retryContext = some context ∧
      retry.shouldRetry (context.responseContext response.status) = true := by
  rcases policy : args.retry with _ | retry
  · simp [RequestArgs.retriesResponse, policy] at retried
  · rcases number : args.retryContext with _ | context
    · simp [RequestArgs.retriesResponse, policy, number] at retried
    · simp only [RequestArgs.retriesResponse, policy, number] at retried
      exact ⟨retry, context, rfl, rfl, retried⟩

/-- What is announced of a response that is not retried decides whether it goes on. -/
theorem result_interceptResponse
    (fresh : ∀ context ∈ args.retryContext, context.exception = none)
    (notRetried : args.retriesResponse response = false) :
    (interceptResponse args response).result = (args.announced response).map fun _ => none := by
  rcases policy : args.retry with _ | retry
  · simp only [interceptResponse, RequestArgs.announced, policy]
    rfl
  · rcases number : args.retryContext with _ | context
    · simp only [interceptResponse, RequestArgs.announced, policy, number]
      rfl
    · simp only [RequestArgs.retriesResponse, policy, number] at notRetried
      rw [interceptResponse_of_not_retried policy number (fresh context number) notRetried]
      simp only [RequestArgs.announced, policy, number]
      cases retry.suppressionReason (context.responseContext response.status) with
      | none => rfl
      | some suppression =>
          cases args.retryObserver with
          | none => rfl
          | some observe =>
              simp only [notifyRetryObserver, Traced.emit_bind]
              cases observe ⟨suppressionKind suppression,
                context.responseContext response.status, .zero, suppression⟩ <;> rfl

/-- Before the dispatch nothing is written to the cell. -/
theorem chosenStatus_request (method : String) (url : Url) (kwargs : Kwargs)
    {log : List (Effect B)} (loop : ∀ e ∈ log, e.OfLoop) (rest : List (Effect B)) :
    chosenStatus (.request method url kwargs :: (log ++ rest)) = chosenStatus rest := by
  have nothing : log.filterMap Effect.markStatus? = [] := by
    apply List.filterMap_eq_nil_iff.mpr
    intro e he
    cases e with
    | markStatus status => exact (loop _ he).elim
    | _ => rfl
  rw [chosenStatus, List.filterMap_cons_none rfl, List.filterMap_append, nothing, List.nil_append]
  rfl

/-- A metered attempt is recorded right exactly when its status is known. -/
theorem recordedFor_request_iff (metrics : MetricsState) (frame : Frame) (world : World B)
    (clientName : String) (duration : Binary64)
    (fresh : ∀ context ∈ args.retryContext, context.exception = none) :
    let request := meteredRequest metrics frame world clientName args
    RecordedFor (world.session args.slot) request.result (chosenStatus request.log) duration ↔
      statusKnown world args = true := by
  intro request
  let metered : RequestArgs B V :=
    { args with kwargs := metrics.traceKwargs frame.labels args.kwargs }
  rw [statusKnown]
  cases session : world.session args.slot with
  | error exc =>
      have session' : world.session metered.slot = .error exc := session
      have failed : request = _ := requestOnce_of_error session'
      rw [failed]
      exact recordedFor_error_iff
  | ok response =>
      have session' : world.session metered.slot = .ok response := session
      cases retried : args.retriesResponse response with
      | true =>
          obtain ⟨retry, context, policy, number, should⟩ := exists_policy retried
          have marker : request = _ := requestOnce_of_marker session'
            (interceptResponse_of_retried policy number (fresh context number) should)
          rw [marker]
          exact iff_of_true (recordedFor_retryable rfl) (by simp only [retried, Bool.true_or])
      | false =>
          have result := result_interceptResponse fresh retried
          have loop := only_interceptResponse args response
          rcases intercept : interceptResponse args response with ⟨log, r⟩
          rw [intercept] at result loop
          simp only [retried, Bool.false_or]
          rcases announced : args.announced response with exc | ⟨⟩
          · obtain rfl : r = .error exc := by rwa [announced] at result
            have observer : request = _ := requestOnce_of_observer session' intercept
            have unmarked := chosenStatus_request args.method args.url
              (sessionKwargs args.retry metered.kwargs) loop []
            rw [List.append_nil] at unmarked
            rw [observer, unmarked]
            exact recordedFor_unmarked_iff
          · obtain rfl : r = .ok none := by rwa [announced] at result
            have dispatched : request = _ := requestOnce_of_dispatch session' intercept
            rw [dispatched, chosenStatus_request _ _ _ loop]
            exact recordedFor_dispatch_iff

end Attempt

/-! ### A whole call -/

section Run

variable {rt : Runtime} {metrics : MetricsState} {client : BaseHttpClient} {world : World B}
  {call : CallArgs B V} {kwargs : Kwargs}

theorem Effect.observation?_eq_none {e : Effect B} (h : e.OfLoop ∨ e.OfDispatch) :
    e.observation? = none := by
  cases e with
  | sinkCall _ _ => exact h.elim False.elim False.elim
  | _ => rfl

theorem filterMap_observation_meteredCalls {frame : Frame} {args : RequestArgs B V} :
    (meteredCalls metrics frame world client.clientName args).filterMap Effect.observation? =
      [(frame.sink, observation metrics frame world client.clientName args)] := by
  rw [meteredCalls]
  cases metrics.sinkHasLifecycle <;> rfl

/-- The observations of a call are those of its attempts, in order. -/
theorem filterMap_observation_run (world : World B)
    (h : metrics.metricsSink.Honours metrics.sinkHasLifecycle)
    (metered : metrics.metricsSink.isNoop = false)
    (prepared : normalizeAuthKwargs rt (client.injectProxy call.kwargs) client.proxyAuth =
      .ok kwargs) {j : Nat} (h₁ : 1 ≤ j)
    (h₂ : j ≤ attemptsMade (instrumentedMakeReq rt metrics client world call)) :
    ((instrumentedMakeReq rt metrics client world call).log.filterMap
      Effect.observation?)[j - 1]? =
      some (metrics.metricsSink, observation metrics
        ⟨metrics.metricsSink, metrics.labels client call⟩ world client.clientName
        (client.attemptArgs rt world call kwargs j)) := by
  obtain ⟨-, log⟩ := instrumentedMakeReq_log world h metered prepared
  have inside : j - 1 < attemptsMade (instrumentedMakeReq rt metrics client world call) := by omega
  have number : 1 + 1 * (j - 1) = j := by omega
  rw [log _ Effect.observation? fun _ => Effect.observation?_eq_none,
    Traced.flatMap_eq_map fun j _ => filterMap_observation_meteredCalls, List.getElem?_map,
    List.getElem?_range' inside, number]
  rfl

theorem attemptArgs_fresh (rt : Runtime) (client : BaseHttpClient) (world : World B)
    (call : CallArgs B V) (kwargs : Kwargs) (j : Nat) :
    ∀ context ∈ (client.attemptArgs rt world call kwargs j).retryContext,
      context.exception = none := by
  intro context number
  rw [BaseHttpClient.attemptArgs] at number
  cases retry : call.retry with
  | none =>
      simp only [retry] at number
      cases number
  | some policy =>
      simp only [retry] at number
      cases number
      rfl

/-- What is recorded of attempt `j` of a call is what the session gave it, unless the
attempt was cancelled. -/
def RecordsAttempt (rt : Runtime) (metrics : MetricsState) (client : BaseHttpClient)
    (world : World B) (call : CallArgs B V) (kwargs : Kwargs) (j : Nat) : Prop :=
  let ended := (instrumentedAttempt metrics metrics.sinkHasLifecycle world client.clientName
    (client.attemptArgs rt world call kwargs j)).result
  ¬ Cancelled ended → ∃ recorded,
    ((instrumentedMakeReq rt metrics client world call).log.filterMap
      Effect.observation?)[j - 1]? = some (metrics.metricsSink, recorded) ∧
    AttemptRecorded (world.session j) ended recorded

theorem recordsAttempt_iff (h : metrics.metricsSink.Honours metrics.sinkHasLifecycle)
    (metered : metrics.metricsSink.isNoop = false)
    (prepared : normalizeAuthKwargs rt (client.injectProxy call.kwargs) client.proxyAuth =
      .ok kwargs) {j : Nat} (h₁ : 1 ≤ j)
    (h₂ : j ≤ attemptsMade (instrumentedMakeReq rt metrics client world call)) :
    RecordsAttempt rt metrics client world call kwargs j ↔
      statusKnown world (client.attemptArgs rt world call kwargs j) = true := by
  have slot := (instrumentedMakeReq_log world h metered prepared).1 j h₁ h₂
  have observed := filterMap_observation_run world h metered prepared h₁ h₂
  have request := recordedFor_request_iff metrics ⟨metrics.metricsSink, metrics.labels client call⟩
    world client.clientName (world.duration j) (attemptArgs_fresh rt client world call kwargs j)
  rw [slot] at request
  rw [RecordsAttempt, instrumentedAttempt_eq h (frame_attemptArgs metered j)]
  refine Iff.trans (forall_congr' fun alive => ?_) request
  constructor
  · rintro ⟨recorded, got, right⟩
    obtain ⟨-, rfl⟩ := Prod.ext_iff.mp (Option.some.inj (observed.symm.trans got))
    simpa only [observation, slot] using right
  · intro right
    refine ⟨_, observed, ?_⟩
    simpa only [observation, slot] using right

/-- The recording of every attempt of a call is right exactly when the status of every
attempt is known. -/
theorem instrumentedMakeReq_recorded_iff {sink : Sink} (routeResolver : Option RouteResolver)
    (metered : sink.isNoop = false)
    (prepared : normalizeAuthKwargs rt (client.injectProxy call.kwargs) client.proxyAuth =
      .ok kwargs) :
    let enabled := metrics.enableMetrics sink routeResolver
    let run := instrumentedMakeReq rt enabled client world call
    (∀ j, 1 ≤ j → j ≤ attemptsMade run → RecordsAttempt rt enabled client world call kwargs j) ↔
      ∀ j, 1 ≤ j → j ≤ attemptsMade run →
        statusKnown world (client.attemptArgs rt world call kwargs j) = true :=
  forall_congr' fun _ => forall_congr' fun h₁ => forall_congr' fun h₂ =>
    recordsAttempt_iff sink.honours_detectLifecycle metered prepared h₁ h₂

/-- A 503 and then a 200 that its handler cannot use: both statuses are known. -/
theorem instrumentedMakeReq_recorded_iff_sample :
    let enabled :=
      (MetricsState.disabled .latin1 0).enableMetrics (.custom 1 ⟨true, true, false⟩) none
    let world := Sample.world fun i => .ok (Sample.response (if i = 1 then 503 else 200))
    let call : CallArgs Unit Nat :=
      { method := "GET", url := Sample.url,
        handlers := Sample.handlers
          [(.status 200, Sample.handler (.error (.valueError "bad payload")))],
        retry := some (Sample.policy 1) }
    let run := instrumentedMakeReq Sample.runtime enabled Sample.client world call
    (∀ j, 1 ≤ j → j ≤ attemptsMade run →
      RecordsAttempt Sample.runtime enabled Sample.client world call {} j) ↔
      ∀ j, 1 ≤ j → j ≤ attemptsMade run →
        statusKnown world (Sample.client.attemptArgs Sample.runtime world call {} j) = true :=
  instrumentedMakeReq_recorded_iff none rfl rfl

/-- The observer fails on the suppression of a 503: the response is recorded as a network
error without a status. -/
theorem instrumentedMakeReq_recorded_fails :
    let enabled :=
      (MetricsState.disabled .latin1 0).enableMetrics (.custom 1 ⟨true, true, false⟩) none
    let world := Sample.world fun _ => .ok (Sample.response 503)
    let call : CallArgs Unit Nat :=
      { method := "GET", url := Sample.url,
        handlers := Sample.handlers [(.text "*", Sample.handler (.ok 7))],
        retry := some (Sample.policy 0),
        retryObserver := some fun _ => .error (.runtimeError "observer") }
    let run := instrumentedMakeReq Sample.runtime enabled Sample.client world call
    ¬ ∀ j, 1 ≤ j → j ≤ attemptsMade run →
      RecordsAttempt Sample.runtime enabled Sample.client world call {} j := by
  intro enabled world call run right
  have made : 1 ≤ attemptsMade run := by decide
  have unknown : statusKnown world
      (Sample.client.attemptArgs Sample.runtime world call {} 1) = false := by decide
  have known := (recordsAttempt_iff (Sink.honours_detectLifecycle _) rfl rfl (Nat.le_refl 1)
    made).mp (right 1 (Nat.le_refl 1) made)
  rw [unknown] at known
  cases known

end Run

end Asyncly
