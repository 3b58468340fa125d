import Asyncly.Client.RetryEvents
import Asyncly.Srvmocker.Assertions
import Asyncly.Srvmocker.History
import Asyncly.Srvmocker.Responses

/-!
# A client on a mock server

The two halves of the library meet: each attempt of a call arrives at a dispatcher, which
records it and serves the next reply of the response that is registered, and the client goes
on by what it is given for that reply. Run against each other, the attempts the client has
made are the requests the server has recorded.
-/

namespace Asyncly

variable {B C V : Type}

/-! ### The server's end -/

/-- A service with the positions of the sequences among its responses, and the number of
requests it has handled. -/
structure PeerState (B : Type) where
  service : MockService (MockResponse B)
  indices : Indices
  handled : Nat := 0

/-- The handler of a route run to its end. -/
def handleRequest (loads : JsonLoads) (routes : List MockRoute) (connected : Bool)
    (request : Request) (body : Bytes) (state : PeerState B) :
    Handling (Returned B) × PeerState B :=
  match selectRoute loads routes request body with
  | .error exc => (Traced.raise exc, state)
  | .ok none => (Traced.raise notFound, state)
  | .ok (some chosen) =>
      match (recordAndLookUp request body chosen).call state.service with
      | (.error exc, service) => (Traced.raise exc, { state with service := service })
      | (.ok response, service) =>
          let (reply, indices) := response.serve connected state.indices
          (reply, { state with service := service, indices := indices })

/-- What aiohttp does between a client and a mock server: what arrives, with its body, for a
request that is sent, and what the client is given for what the handler did. -/
structure Wire (B C : Type) where
  arrives : String → Url → Kwargs → Request × Bytes
  received : Handling (Returned B) → Except Exn (Response C)

/-- A mock server at the other end: the routes of its dispatcher, and whether the transport of
a request is there when its handler asks for it. -/
structure Peer (B C : Type) where
  loads : JsonLoads
  routes : List MockRoute
  connected : Nat → Bool
  wire : Wire B C

/-- What arrives of an effect of a client. -/
def Wire.arrives? (wire : Wire B C) : Effect C → Option (Request × Bytes)
  | .request method url kwargs => some (wire.arrives method url kwargs)
  | _ => none

namespace Peer

variable (peer : Peer B C)

/-- One more request. It is handled to its end before the next one arrives: the one client
awaits each attempt. -/
def handle (state : PeerState B) (arrived : Request × Bytes) :
    Handling (Returned B) × PeerState B :=
  let (reply, state) := handleRequest peer.loads peer.routes (peer.connected state.handled)
    arrived.1 arrived.2 state
  (reply, { state with handled := state.handled + 1 })

/-- The state after some requests. -/
def after (state : PeerState B) (arrived : List (Request × Bytes)) : PeerState B :=
  arrived.foldl (fun state arrived => (peer.handle state arrived).2) state

/-- What the attempts of a run are given is what the server replies to them, in order. -/
def Answers {R : Type} (state : PeerState B) (world : World C) (run : Async C R) : Prop :=
  ∀ j arrived, (run.log.filterMap peer.wire.arrives?)[j]? = some arrived →
    world.session (j + 1) = peer.wire.received (peer.handle
      (peer.after state ((run.log.filterMap peer.wire.arrives?).take j)) arrived).1

end Peer

/-! ### Many times the same request -/

/-- One handler was called a number of times by the same request: it was recorded as often,
the sequences of its response have moved on, and nothing else has changed. -/
structure CalledTimes (k : Nat) (recorded : RecordedRequest) (response : MockResponse B)
    (before state : PeerState B) : Prop where
  history : state.service.history = before.service.history ++ List.replicate k recorded
  calls : ∀ name, state.service.historyMap.listAt name =
    before.service.historyMap.listAt name ++
      if name = recorded.handlerName then List.replicate k recorded else []
  handlers : state.service.handlers = before.service.handlers
  handlerNames : state.service.handlerNames = before.service.handlerNames
  position : response.At k state.indices
  others : ∀ object, object ∉ response.objects → state.indices object = before.indices object

section Server

variable {loads : JsonLoads} {routes : List MockRoute} {request : Request} {body : Bytes}
  {chosen : MockRoute} {before state : PeerState B} {response : MockResponse B}
  {recorded : RecordedRequest} {k : Nat}

theorem calledTimes_zero (fresh : response.Fresh before.indices) :
    CalledTimes 0 recorded response before before := by
  refine ⟨by simp, fun name => by simp, rfl, rfl, response.at_zero fresh, fun _ _ => rfl⟩

theorem call_recordAndLookUp_of_registered {service : MockService (MockResponse B)}
    (registered : service.handlers.get? chosen.handlerName = some response) :
    (recordAndLookUp request body chosen).call service =
      (.ok response, ((MockService.record chosen.handlerName
        (.ofRequest request request.matchInfo body chosen.handlerName)).call service).2) := by
  rw [recordAndLookUp, Stateful.call_bind_of_ok (MockService.call_record _ _ service),
    Stateful.call_get_bind]
  dsimp only
  rw [registered]
  rfl

/-- One more request gets the next reply of the stream. -/
theorem handleRequest_of_calledTimes (connected : Bool)
    (selects : selectRoute loads routes request body = .ok (some chosen))
    (registered : before.service.handlers.get? chosen.handlerName = some response)
    (once : response.objects.Nodup)
    (called : CalledTimes k (.ofRequest request request.matchInfo body chosen.handlerName) response
      before state) :
    (handleRequest loads routes connected request body state).1 =
        response.stream connected k ∧
      CalledTimes (k + 1) (.ofRequest request request.matchInfo body chosen.handlerName) response
        before (handleRequest loads routes connected request body state).2 ∧
      (handleRequest loads routes connected request body state).2.handled = state.handled := by
  obtain ⟨reply, next, frame⟩ := response.serve_at connected k once called.position
  rw [handleRequest, selects]
  dsimp only
  rw [call_recordAndLookUp_of_registered (called.handlers ▸ registered), MockService.call_record]
  refine ⟨reply, ⟨?_, fun name => ?_, called.handlers, called.handlerNames, next,
    fun object outside => ?_⟩, rfl⟩
  · rw [called.history, List.append_assoc, List.replicate_succ']
  · have named : (RecordedRequest.ofRequest request request.matchInfo body
        chosen.handlerName).handlerName = chosen.handlerName := rfl
    rw [Dict.listAt_push, called.calls, called.calls, named]
    by_cases same : name = chosen.handlerName
    · rw [same, if_pos rfl, if_pos rfl, if_pos rfl, List.append_assoc, List.replicate_succ']
    · rw [if_neg same, if_neg same, if_neg same]
  · exact (frame.others object outside).trans (called.others object outside)

theorem Peer.after_concat (peer : Peer B C) (arrived : List (Request × Bytes))
    (last : Request × Bytes) : peer.after state (arrived ++ [last]) =
      (peer.handle (peer.after state arrived) last).2 :=
  List.foldl_append

/-- So each of many requests gets its reply of the stream. -/
theorem Peer.after_replicate (peer : Peer B C)
    (selects : selectRoute peer.loads peer.routes request body = .ok (some chosen))
    (registered : before.service.handlers.get? chosen.handlerName = some response)
    (once : response.objects.Nodup) (fresh : response.Fresh before.indices) (k : Nat) :
    CalledTimes k (.ofRequest request request.matchInfo body chosen.handlerName) response before
        (peer.after before (List.replicate k (request, body))) ∧
      (peer.after before (List.replicate k (request, body))).handled = before.handled + k := by
  induction k with
  | zero => exact ⟨calledTimes_zero fresh, rfl⟩
  | succ k ih =>
      obtain ⟨called, count⟩ := ih
      have handled := handleRequest_of_calledTimes
        (peer.connected (peer.after before (List.replicate k (request, body))).handled)
        selects registered once called
      rw [List.replicate_succ', Peer.after_concat, Peer.handle]
      dsimp only
      refine ⟨?_, ?_⟩
      · obtain ⟨history, calls, handlers, handlerNames, position, others⟩ := handled.2.1
        exact ⟨history, calls, handlers, handlerNames, position, others⟩
      · rw [handled.2.2, count, Nat.add_assoc]

end Server

/-! ### The client's end -/

section Client

variable {rt : Runtime} {client : BaseHttpClient} {world : World C} {call : CallArgs C V}
  {kwargs : Kwargs}

theorem BaseHttpClient.sent_attemptArgs (j : Nat) :
    let args := client.attemptArgs rt world call kwargs j
    (Effect.request args.method args.url (sessionKwargs args.retry args.kwargs) : Effect C) =
      .request call.method call.url (sessionKwargs call.retry kwargs) := by
  intro args
  simp only [args, BaseHttpClient.attemptArgs]
  cases call.retry <;> rfl

/-- All attempts of a call send the same request. -/
theorem BaseHttpClient.makeReq_sends (world : World C)
    (prepared : normalizeAuthKwargs rt (client.injectProxy call.kwargs) client.proxyAuth =
      .ok kwargs) :
    1 ≤ attemptsMade (client.makeReq rt world call) ∧
      ∀ (α : Type) (p : Effect C → Option α),
        (∀ e : Effect C, e.OfLoop ∨ e.OfDispatch → p e = none) →
        (client.makeReq rt world call).log.filterMap p =
          (List.replicate (attemptsMade (client.makeReq rt world call))
            (p (.request call.method call.url
              (sessionKwargs call.retry kwargs))).toList).flatten := by
  obtain ⟨k, positive, -, log⟩ := makeReq_log world call
    (baseAttempt world client.clientName) prepared
  have sent (α : Type) (p : Effect C → Option α)
      (blind : ∀ e : Effect C, e.OfLoop ∨ e.OfDispatch → p e = none) :
      (client.makeReq rt world call).log.filterMap p = (List.replicate k
        (p (.request call.method call.url (sessionKwargs call.retry kwargs))).toList).flatten := by
    rw [show (client.makeReq rt world call).log.filterMap p = _ from
      log α p fun e he => blind e (.inl he), List.flatMap_def]
    congr 1
    refine List.eq_replicate_iff.mpr ⟨by simp, fun one member => ?_⟩
    obtain ⟨j, -, rfl⟩ := List.mem_map.mp member
    rw [baseAttempt, filterMap_requestOnce blind, sent_attemptArgs]
  have attempts : attemptsMade (client.makeReq rt world call) = k := by
    rw [attemptsMade, sent _ Effect.request? fun _ => Effect.request?_eq_none]
    simp [Effect.request?]
  rw [attempts]
  exact ⟨positive, sent⟩

end Client

/-! ### Both ends together -/

theorem Wire.arrives?_eq_none {wire : Wire B C} {e : Effect C} (h : e.OfLoop ∨ e.OfDispatch) :
    wire.arrives? e = none := by
  cases e with
  | request _ _ _ => exact h.elim False.elim False.elim
  | _ => rfl

/-- An assertion on the number of calls passes for their number only. -/
theorem MockService.assertCalled_times {R : Type} (loads : JsonLoads) (name : String)
    (service : MockService R) (times : Int) :
    ((MockService.assertCalled loads name (some times) {}).call service).1 = .ok () ↔
      times = (service.historyMap.listAt name).length := by
  rw [MockService.assertCalled, Stateful.call_bind_of_ok (MockService.call_getCalls name service),
    assertRecorded]
  by_cases same : times = (service.historyMap.listAt name).length
  · refine iff_of_true ?_ same
    subst same
    simp only [Option.any_some, ne_eq, not_true, decide_false, Bool.false_eq_true, if_false]
    rfl
  · refine iff_of_false ?_ same
    simp only [Option.any_some, ne_eq, Ne.symm same, not_false_eq_true, decide_true, if_true]
    rintro ⟨⟩

section Loopback

variable {rt : Runtime} {client : BaseHttpClient} {world : World C} {call : CallArgs C V}
  {kwargs : Kwargs} {peer : Peer B C} {state : PeerState B}
  {request : Request} {body : Bytes} {chosen : MockRoute} {response : MockResponse B}

section Ends

variable
  (prepared : normalizeAuthKwargs rt (client.injectProxy call.kwargs) client.proxyAuth = .ok kwargs)
  (arrives : peer.wire.arrives call.method call.url (sessionKwargs call.retry kwargs) =
    (request, body))
  (selects : selectRoute peer.loads peer.routes request body = .ok (some chosen))
  (registered : state.service.handlers.get? chosen.handlerName = some response)
  (once : response.objects.Nodup) (fresh : response.Fresh state.indices)
include prepared arrives

theorem Peer.arrived_eq (world : World C) :
    (client.makeReq rt world call).log.filterMap peer.wire.arrives? =
      List.replicate (attemptsMade (client.makeReq rt world call)) (request, body) := by
  rw [(BaseHttpClient.makeReq_sends world prepared).2 _ _ fun _ => Wire.arrives?_eq_none]
  simp [Wire.arrives?, arrives]

include selects registered once fresh

/-- The handler was called as often as there were attempts. -/
theorem Peer.calledTimes_of_run (world : World C) :
    let run := client.makeReq rt world call
    CalledTimes (attemptsMade run)
      (.ofRequest request request.matchInfo body chosen.handlerName) response state
      (peer.after state (run.log.filterMap peer.wire.arrives?)) := by
  intro run
  rw [show run.log.filterMap peer.wire.arrives? = _ from peer.arrived_eq prepared arrives world]
  exact (peer.after_replicate selects registered once fresh (attemptsMade run)).1

/-- The server answers an attempt with the reply of its number. -/
theorem Peer.answers_iff (world : World C) :
    let run := client.makeReq rt world call
    peer.Answers state world run ↔ ∀ j < attemptsMade run, world.session (j + 1) =
      peer.wire.received (response.stream (peer.connected (state.handled + j)) j) := by
  intro run
  have arrived : run.log.filterMap peer.wire.arrives? =
      List.replicate (attemptsMade run) (request, body) :=
    peer.arrived_eq prepared arrives world
  rw [Peer.Answers, arrived]
  refine forall_congr' fun j => ?_
  have reply (within : j < attemptsMade run) : (peer.handle (peer.after state
      ((List.replicate (attemptsMade run) (request, body)).take j)) (request, body)).1 =
        response.stream (peer.connected (state.handled + j)) j := by
    rw [List.take_replicate, Nat.min_eq_left within.le]
    obtain ⟨before, number⟩ := peer.after_replicate selects registered once fresh j
    rw [Peer.handle, number]
    exact (handleRequest_of_calledTimes _ selects registered once before).1
  constructor
  · intro answered within
    rw [answered (request, body) (by rw [List.getElem?_replicate, if_pos within]), reply within]
  · intro answered arrived at_j
    rw [List.getElem?_replicate] at at_j
    split at at_j
    · next within => rw [← Option.some.inj at_j, reply within, answered within]
    · cases at_j

end Ends

/-- A client calls a handler that a fresh response is registered for, in which no sequence
stands twice. Its attempts are the calls of the handler: each was given the next reply of the
response, all are recorded with the one request they send, and an assertion on the number of
calls passes for their number only. -/
theorem Peer.records_attempts
    (prepared : normalizeAuthKwargs rt (client.injectProxy call.kwargs) client.proxyAuth =
      .ok kwargs)
    (arrives : peer.wire.arrives call.method call.url (sessionKwargs call.retry kwargs) =
      (request, body))
    (selects : selectRoute peer.loads peer.routes request body = .ok (some chosen))
    (registered : state.service.handlers.get? chosen.handlerName = some response)
    (once : response.objects.Nodup) (fresh : response.Fresh state.indices)
    (answers : peer.Answers state world (client.makeReq rt world call)) :
    let run := client.makeReq rt world call
    let state' := peer.after state (run.log.filterMap peer.wire.arrives?)
    (∀ j < attemptsMade run, world.session (j + 1) =
      peer.wire.received (response.stream (peer.connected (state.handled + j)) j)) ∧
    CalledTimes (attemptsMade run)
      (.ofRequest request request.matchInfo body chosen.handlerName) response state state' ∧
    ∀ times : Int, ((MockService.assertCalled peer.loads chosen.handlerName (some times) {}).call
        state'.service).1 = .ok () ↔
      times = (state.service.historyMap.listAt chosen.handlerName).length + attemptsMade run := by
  intro run state'
  have called : CalledTimes (attemptsMade run) _ response state state' :=
    peer.calledTimes_of_run prepared arrives selects registered once fresh world
  refine ⟨(peer.answers_iff prepared arrives selects registered once fresh world).mp answers,
    called, fun times => ?_⟩
  rw [MockService.assertCalled_times, called.calls, List.length_append]
  simp [RecordedRequest.ofRequest]

section Script

variable {s : RetrySeries C V} {run : Async C (RequestResult V)} {k : Nat}
  {answer : Nat → Response C}

end Script

end Loopback

namespace Sample

/-- A server with one route, and a wire that carries methods, paths and statuses. -/
def peer : Peer Nat Unit where
  loads := loads
  routes := [{ method := "GET", path := "/items", handlerName := "items" }]
  connected _ := true
  wire := {
    arrives := fun method url _ => (⟨method, url, url.path, [], [], []⟩, [])
    received := fun handled =>
      match handled.result with
      | .ok (.response served) => .ok (response served.status.toNat)
      | .ok _ => .error (.ofClass .serverDisconnectedError "Server disconnected")
      | .error _ => .ok (response 500) }

/-- Busy at first, then done. -/
def script : MockResponse Nat := .sequence 0 (.raw ⟨0, 503, none⟩) [.raw ⟨7, 200, none⟩] .last

def scripted : PeerState Nat where
  service := { handlers := [("items", script)], handlerNames := ["items"] }
  indices _ := 0

/-- The world of a client whose requests the script answers. -/
def scriptedWorld : World Unit := world fun j => peer.wire.received (script.stream true (j - 1))

def statusPolicy : RetryPolicy := { policy 2 with exceptions := [] }

def getItems : CallArgs Unit Nat where
  method := "GET"
  url := url
  handlers := handlers [(.status 200, handler (.ok 7))]
  retry := some statusPolicy

theorem script_once : script.objects.Nodup := by
  rw [show script.objects = [0] from rfl]
  decide

theorem script_fresh : script.Fresh scripted.indices := fun _ _ => rfl

theorem scripted_selects : selectRoute peer.loads peer.routes
    ⟨"GET", url, "/items", [], [], []⟩ [] =
      .ok (some { method := "GET", path := "/items", handlerName := "items" }) := rfl

/-- The world of the client is the server. -/
theorem scripted_answers : peer.Answers scripted scriptedWorld
    (client.makeReq runtime scriptedWorld getItems) :=
  (peer.answers_iff rfl rfl scripted_selects rfl script_once script_fresh scriptedWorld).mpr
    fun _ _ => rfl

end Sample

/-- A client that retries is told to wait once. -/
theorem Peer.records_attempts_sample :
    let run := Sample.client.makeReq Sample.runtime Sample.scriptedWorld Sample.getItems
    let state' := Sample.peer.after Sample.scripted
      (run.log.filterMap Sample.peer.wire.arrives?)
    (∀ j < attemptsMade run, Sample.scriptedWorld.session (j + 1) =
      Sample.peer.wire.received (Sample.script.stream true j)) ∧
    CalledTimes (attemptsMade run)
      (.ofRequest ⟨"GET", Sample.url, "/items", [], [], []⟩ [] [] "items") Sample.script
      Sample.scripted state' ∧
    ∀ times : Int, ((MockService.assertCalled Sample.loads "items" (some times) {}).call
        state'.service).1 = .ok () ↔ times = 0 + attemptsMade run := by
  exact Peer.records_attempts rfl rfl Sample.scripted_selects rfl Sample.script_once
    Sample.script_fresh Sample.scripted_answers

end Asyncly
