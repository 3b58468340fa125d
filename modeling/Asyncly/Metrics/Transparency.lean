import Asyncly.Metrics.Instrumentable

/-!
# Metrics and behaviour

The instrumented client calls a handler by position from a wrapper that is always
true, the base client by keyword after testing the entry itself. Two computations are
compared by their ends and by the handlers they run.
-/

namespace Asyncly

variable {B V : Type}

/-- The end of a computation and the handlers it runs. -/
abbrev SameBehaviour {R : Type} (run run' : Async B R) : Prop :=
  Traced.Agree Effect.handler? run run'

/-- The entry selected for a response, if any, is true and takes the response by
position as it takes it by keyword. -/
def CalledAlike (handlers : Handlers (Handler B V)) (response : Response B) : Prop :=
  ∀ handler, handlers.findHandler response.status = some handler →
    handler.truthy = true ∧ handler.byPosition response = handler.byKeyword response

/-! ### One dispatch -/

section Dispatch

variable {handlers : Handlers (Handler B V)} {response : Response B} {clientName : String}

/-- The end and the handlers of a call say how it went. -/
theorem perform_injective {name : String} {outcome outcome' : CallOutcome V}
    (h : SameBehaviour (outcome.perform name response) (outcome'.perform name response)) :
    outcome = outcome' := by
  cases outcome with
  | rejected message =>
      cases outcome' with
      | rejected message' =>
          have result := h.result
          simp only [CallOutcome.perform, Traced.raise_result, Except.error.injEq, Exn.typeError,
            Exn.ofClass, Exn.raised.injEq, Raised.mk.injEq] at result
          rw [result.2.1]
      | ran result => cases h.log
  | ran result =>
      cases outcome' with
      | rejected message' => cases h.log
      | ran result' =>
          have ended : result = result' := h.result
          rw [ended]

/-- An unhandled status is not what any call of a handler looks like. -/
theorem perform_ne_unhandled {name : String} {outcome : CallOutcome V} :
    ¬ SameBehaviour (outcome.perform name response)
      (Traced.raise (unhandledStatusException clientName response)) := by
  intro h
  cases outcome with
  | rejected message => cases h.result
  | ran result => cases h.log

/-- Wrapping the entries changes the dispatch of a response exactly when the selected
entry is not called alike. -/
theorem wrapped_agree_iff :
    SameBehaviour (applyHandler (handlers.map .wrapped) response clientName : Async B V)
        (applyHandler (handlers.map .bare) response clientName) ↔
      CalledAlike handlers response := by
  cases selected : handlers.findHandler response.status with
  | none =>
      rw [applyHandler_unselected selected, applyHandler_unselected selected]
      simp [CalledAlike, selected, Traced.Agree.refl]
  | some handler =>
      rw [applyHandler_bare selected, applyHandler_wrapped selected]
      simp only [CalledAlike, selected, Option.some.injEq, forall_eq']
      constructor
      · rintro ⟨result, log⟩
        by_cases truthy : handler.truthy = true
        · rw [if_pos truthy] at result log
          exact ⟨truthy, perform_injective ⟨result, log⟩⟩
        · rw [if_neg truthy] at result log
          exact absurd ⟨result, log⟩ perform_ne_unhandled
      · rintro ⟨truthy, alike⟩
        rw [if_pos truthy, alike]
        exact .emit_left rfl (.refl _)

/-- A function that takes the response by keyword only is not called alike. -/
theorem not_calledAlike_of_keywordOnly {name rejection : String} {params : List Param}
    {body : List (Bound (Response B)) → Except Exn V} {bound : List (Bound (Response B))}
    (selected : handlers.findHandler response.status =
      some (.ofFunction name params rejection body))
    (kinds : ∀ p ∈ params, p.kind = .keywordOnly)
    (accepted : bindKeyword "response" params (some response) = some bound) :
    ¬ CalledAlike handlers response := by
  intro alike
  obtain ⟨-, same⟩ := alike _ selected
  rw [Handler.ofFunction_byPosition_keywordOnly kinds] at same
  simp only [Handler.ofFunction, accepted, Handler.callFunction] at same
  cases same

end Dispatch

/-! ### One attempt -/

section Attempt

variable {metrics : MetricsState} {world : World B} {clientName : String}
  {args args' : RequestArgs B V} {handlers handlers' : Handlers (Entry B V)}

/-- Attempts that differ in their keyword arguments and their entries behave alike when
they dispatch alike. -/
theorem requestOnce_agree (kwargs : Kwargs)
    (dispatch : ∀ response, world.session args.slot = .ok response →
      SameBehaviour (applyHandler handlers response clientName : Async B V)
        (applyHandler handlers' response clientName)) :
    SameBehaviour (requestOnce world clientName { args with kwargs := kwargs } handlers)
      (requestOnce world clientName args handlers') := by
  rw [requestOnce, requestOnce]
  refine Traced.Agree.bind ⟨rfl, rfl⟩ fun _ => ?_
  change SameBehaviour (Traced.ofExcept (world.session args.slot) >>= _)
    (Traced.ofExcept (world.session args.slot) >>= _)
  cases session : world.session args.slot with
  | error exc => exact .refl _
  | ok response =>
      rw [Traced.ofExcept_ok_bind, Traced.ofExcept_ok_bind]
      apply Traced.Agree.bind (.refl (interceptResponse args response))
      intro intercepted
      cases intercepted with
      | some retryable => exact .refl _
      | none => exact (dispatch response session).bind fun v => .refl _

/-- Without a policy, attempts that behave alike dispatch alike. -/
theorem dispatch_agree (kwargs : Kwargs) {response : Response B} (single : args.retry = none)
    (session : world.session args.slot = .ok response)
    (h : SameBehaviour (requestOnce world clientName { args with kwargs := kwargs } handlers)
      (requestOnce world clientName args handlers')) :
    SameBehaviour (applyHandler handlers response clientName : Async B V)
      (applyHandler handlers' response clientName) := by
  have intercept (kwargs : Kwargs) :
      interceptResponse { args with kwargs := kwargs } response = ⟨[], .ok none⟩ := by
    simp only [interceptResponse, single]
    rfl
  have dispatched (kwargs : Kwargs) (handlers : Handlers (Entry B V)) :
      requestOnce world clientName { args with kwargs := kwargs } handlers = _ :=
    requestOnce_of_dispatch session (intercept kwargs)
  rw [dispatched, show requestOnce world clientName args handlers' = _ from
    dispatched args.kwargs handlers'] at h
  obtain ⟨result, log⟩ := h
  refine ⟨?_, log⟩
  dsimp only at result
  cases left : (applyHandler handlers response clientName : Async B V).result <;>
    cases right : (applyHandler handlers' response clientName : Async B V).result <;>
    simp_all [Except.map]

/-- The calls of a sink are no handlers. -/
theorem filterMap_startCalls (lifecycle : Bool) (frame : Frame) :
    (startCalls lifecycle frame : List (Effect B)).filterMap Effect.handler? = [] := by
  cases lifecycle <;> rfl

theorem filterMap_endCalls (lifecycle : Bool) (frame : Frame) (observation : Observation) :
    (endCalls lifecycle frame observation : List (Effect B)).filterMap Effect.handler? = [] := by
  cases lifecycle <;> rfl

/-- A metered attempt behaves like its request. -/
theorem instrumentedAttempt_agree {frame : Frame}
    (h : frame.sink.Honours metrics.sinkHasLifecycle)
    (metered : metrics.frame clientName args = some frame) :
    SameBehaviour
      (instrumentedAttempt metrics metrics.sinkHasLifecycle world clientName args)
      (meteredRequest metrics frame world clientName args) := by
  rw [instrumentedAttempt_eq h metered]
  refine ⟨rfl, ?_⟩
  simp only [List.filterMap_append, filterMap_startCalls, filterMap_endCalls, List.nil_append,
    List.append_nil]

/-- The attempts of both clients behave alike when the served response is called alike. -/
theorem attempt_agree (h : metrics.metricsSink.Honours metrics.sinkHasLifecycle)
    (alike : args.handlers.hasItems = true →
      ∀ response, world.session args.slot = .ok response → CalledAlike args.handlers response) :
    SameBehaviour (instrumentedAttempt metrics metrics.sinkHasLifecycle world clientName args)
      (baseAttempt world clientName args) := by
  cases metered : metrics.frame clientName args with
  | none =>
      simp only [instrumentedAttempt, metered]
      exact .refl _
  | some frame =>
      rw [← (frame_sink metered).1] at h
      have request : SameBehaviour (meteredRequest metrics frame world clientName args)
          (baseAttempt world clientName args) := by
        apply requestOnce_agree _
        intro response session
        cases wraps : args.handlers.hasItems with
        | false =>
            rw [wrapHandlersWithStatusMark, wraps]
            exact .refl _
        | true =>
            rw [wrapHandlersWithStatusMark, if_pos wraps]
            exact wrapped_agree_iff.mpr (alike wraps response session)
      exact (instrumentedAttempt_agree h metered).trans request

end Attempt

/-! ### One call -/

section Call

variable (rt : Runtime) (client : BaseHttpClient) (world : World B) (policy : RetryPolicy)
  {once once' : RequestArgs B V → Async B (RequestResult V)}

/-- An iteration of the loop depends on its attempt only through its behaviour. -/
theorem retryAttempt_agree (args : RequestArgs B V) (replayable : Bool) (attempt : Nat)
    (h : ∀ context : RetryContext,
      SameBehaviour (once { args with retry := some policy, retryContext := some context })
        (once' { args with retry := some policy, retryContext := some context })) :
    SameBehaviour (retryAttempt rt once world policy args replayable attempt)
      (retryAttempt rt once' world policy args replayable attempt) := by
  apply Traced.Agree.bind (.refl _)
  intro context
  exact ((h context).catching Exn.isException).bind fun outcome => .refl _

/-- So does a whole call. -/
theorem makeReq_agree (call : CallArgs B V)
    (h : ∀ args : RequestArgs B V, args.handlers = call.handlers →
      SameBehaviour (once args) (once' args)) :
    SameBehaviour (makeReq rt client once world call) (makeReq rt client once' world call) := by
  apply Traced.Agree.bind (.refl _)
  intro kwargs
  cases call.retry with
  | none => exact h _ rfl
  | some policy =>
      refine Traced.Agree.bind (.forLoop fun i _ => ?_) fun v => .refl _
      exact retryAttempt_agree rt world policy _ _ i fun context => h _ rfl

end Call

/-- A call without a policy and without a credential. -/
def plainCall (handlers : Handlers (Handler B V)) : CallArgs B V where
  method := "GET"
  url := Sample.url
  handlers := handlers
  kwargs := { proxyAuth := some .pyNone }

/-- A world that answers every request with one response. -/
def answering (response : Response B) : World B where
  session _ := .ok response
  sleep _ := .ok ()
  clock _ := Sample.epoch
  duration _ := .finite 0

theorem makeReq_plainCall (rt : Runtime) (client : BaseHttpClient) (world : World B)
    (handlers : Handlers (Handler B V)) :
    ∃ kwargs, ∀ once : RequestArgs B V → Async B (RequestResult V),
      makeReq rt client once world (plainCall handlers) =
        once ((plainCall handlers).requestArgs kwargs) := by
  cases proxy : client.proxy with
  | none =>
      refine ⟨{}, fun once => ?_⟩
      simp only [makeReq, BaseHttpClient.injectProxy, plainCall, proxy]
      rfl
  | some proxy' =>
      refine ⟨{ proxy := some (some proxy') }, fun once => ?_⟩
      simp only [makeReq, BaseHttpClient.injectProxy, plainCall, proxy]
      rfl

/-- A plain call shows how its response is dispatched. -/
theorem calledAlike_of_sameBehaviour (rt : Runtime) (client : BaseHttpClient)
    (metrics : MetricsState) {sink : Sink} (routeResolver : Option RouteResolver)
    {handlers : Handlers (Handler B V)} {response : Response B} (metered : sink.isNoop = false)
    (wraps : handlers.hasItems = true)
    (same : SameBehaviour
      (instrumentedMakeReq rt (metrics.enableMetrics sink routeResolver) client
        (answering response) (plainCall handlers))
      (client.makeReq rt (answering response) (plainCall handlers))) :
    CalledAlike handlers response := by
  obtain ⟨kwargs, single⟩ := makeReq_plainCall rt client (answering response) handlers
  rw [instrumentedMakeReq, BaseHttpClient.makeReq, single, single] at same
  obtain ⟨labels, frame⟩ : ∃ labels,
      (metrics.enableMetrics sink routeResolver).frame client.clientName
        ((plainCall handlers).requestArgs kwargs) = some ⟨sink, labels⟩ := frame_of_not_noop metered
  have request := (instrumentedAttempt_agree sink.honours_detectLifecycle frame).symm.trans same
  have dispatch : SameBehaviour
      (applyHandler (wrapHandlersWithStatusMark handlers) response client.clientName : Async B V)
      (applyHandler (handlers.map .bare) response client.clientName) :=
    dispatch_agree _ rfl rfl request
  rw [wrapHandlersWithStatusMark, if_pos wraps] at dispatch
  exact wrapped_agree_iff.mp dispatch

/-- Enabling a sink changes no call that is served by given responses exactly when the
sink is a `NoopSink`, or the handlers are not wrapped, or each of these responses selects
a true entry that takes it alike by position and by keyword. -/
theorem instrumented_sameBehaviour_iff (rt : Runtime) (client : BaseHttpClient)
    (metrics : MetricsState) (sink : Sink) (routeResolver : Option RouteResolver)
    (handlers : Handlers (Handler B V)) (served : Set (Response B)) :
    (∀ world call, (∀ i response, world.session i = .ok response → response ∈ served) →
      call.handlers = handlers →
        SameBehaviour
          (instrumentedMakeReq rt (metrics.enableMetrics sink routeResolver) client world call)
          (client.makeReq rt world call)) ↔
      sink.isNoop = true ∨ handlers.hasItems = false ∨
        ∀ response ∈ served, CalledAlike handlers response := by
  constructor
  · intro same
    by_contra unlike
    simp only [not_or, Bool.not_eq_true, Bool.not_eq_false] at unlike
    obtain ⟨metered, wraps, unlike⟩ := unlike
    apply unlike
    intro response member
    exact calledAlike_of_sameBehaviour rt client metrics routeResolver metered wraps
      (same (answering response) (plainCall handlers)
        (fun i response' session => by rwa [← Except.ok.inj session]) rfl)
  · rintro alike world call serves rfl
    apply makeReq_agree rt client world call
    intro args handlers
    rcases alike with noop | bare | alike
    · rw [instrumentedAttempt_of_noop _ noop]
      exact .refl _
    · exact attempt_agree sink.honours_detectLifecycle fun wraps => by
        rw [handlers, bare] at wraps
        cases wraps
    · apply attempt_agree sink.honours_detectLifecycle
      intro _ response session
      rw [handlers]
      exact alike response (serves _ response session)

/-- A handler that takes its response by keyword only. -/
def Sample.keywordOnly : Handler Unit Nat :=
  .ofFunction "handle" [⟨"response", .keywordOnly, false⟩]
    "handle() takes 0 positional arguments but 1 was given" fun _ => .ok 7

/-- With a sink enabled, a handler with a keyword-only parameter is refused. -/
theorem instrumented_sameBehaviour_fails :
    let handlers := Sample.handlers [(.status 200, Sample.keywordOnly)]
    ¬ SameBehaviour
      (instrumentedMakeReq Sample.runtime
        ((MetricsState.disabled .latin1 0).enableMetrics (.custom 1 ⟨true, true, false⟩) none)
        Sample.client (Sample.world fun _ => .ok (Sample.response 200)) (plainCall handlers))
      (Sample.client.makeReq Sample.runtime (Sample.world fun _ => .ok (Sample.response 200))
        (plainCall handlers)) := by
  intro handlers same
  have alike : CalledAlike handlers (Sample.response 200) :=
    calledAlike_of_sameBehaviour Sample.runtime Sample.client _ none rfl rfl same
  exact not_calledAlike_of_keywordOnly rfl (by decide) rfl alike

end Asyncly
