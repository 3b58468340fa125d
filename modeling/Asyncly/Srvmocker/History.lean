import Asyncly.Lib.Runs
import Asyncly.Srvmocker.Dispatch

/-!
# The history of a mock service

A server is its service and the requests it is handling. The steps of the requests and
the calls on the service come in any order; between two `await` points a request takes
one step. What the service has recorded is compared with what the requests have come to.
-/

namespace Asyncly

variable {R : Type}

/-- How far the handler of a request has come. -/
inductive Stage (R : Type)
  /-- Waiting for the body. -/
  | reading
  /-- The body was read. -/
  | ready (body : Bytes)
  /-- The body could not be read. -/
  | failed (exc : Exn)
  /-- A route was looked for: a response is to be run, or the handler raised. -/
  | dispatched (body : Bytes) (outcome : Except Exn R)
  /-- The response handler returned or raised. -/
  | responded (body : Bytes) (outcome : Except Exn R) (ended : Except Exn Unit)

/-- A request in the dispatcher of its group. -/
structure ServedRequest (R : Type) where
  request : Request
  group : List MockRoute
  stage : Stage R

structure MockServer (R : Type) where
  service : MockService R
  requests : List (ServedRequest R)

inductive ServerEvent (R : Type)
  /-- A request arrives at the dispatcher of its group. -/
  | arrive (method path : String) (request : Request)
  | read (i : Nat) (body : Except Exn Bytes)
  | dispatch (i : Nat)
  | respond (i : Nat) (ended : Except Exn Unit)
  | register (name : String) (resp : R)
  | getCalls (name : String)
  | lastCall (name : String)
  | assertNotCalled (name : String)

namespace ServedRequest

/-- The end of `request.read()`. -/
def read (body : Except Exn Bytes) (r : ServedRequest R) : ServedRequest R :=
  match r.stage, body with
  | .reading, .ok body => { r with stage := .ready body }
  | .reading, .error exc => { r with stage := .failed exc }
  | _, _ => r

/-- The end of `handler.response(request)`. -/
def respond (ended : Except Exn Unit) (r : ServedRequest R) : ServedRequest R :=
  match r.stage with
  | .dispatched body (.ok handler) => { r with stage := .responded body (.ok handler) ended }
  | _ => r

/-- The body the request was dispatched with. -/
def dispatchedBody (r : ServedRequest R) : Option Bytes :=
  match r.stage with
  | .dispatched body _ => some body
  | .responded body _ _ => some body
  | _ => none

/-- What is to be recorded of a request: its snapshot under the route selected for it. -/
def recorded (loads : JsonLoads) (r : ServedRequest R) : Option RecordedRequest :=
  match r.dispatchedBody with
  | none => none
  | some body =>
      match selectRoute loads r.group r.request body with
      | .ok (some chosen) =>
          some (.ofRequest r.request r.request.matchInfo body chosen.handlerName)
      | _ => none

/-- The response handler that was started for the request. -/
def handler (r : ServedRequest R) : Option R :=
  match r.stage with
  | .dispatched _ (.ok handler) => some handler
  | .responded _ (.ok handler) _ => some handler
  | _ => none

end ServedRequest

namespace MockServer

variable (loads : JsonLoads) (routes : List MockRoute)

/-- A step of the server; one that is not enabled leaves it as it is. -/
def step (s : MockServer R) : ServerEvent R → MockServer R
  | .arrive method path request =>
      match (groupRoutes routes).get? (method, path) with
      | some group => { s with requests := s.requests ++ [⟨request, group, .reading⟩] }
      | none => s
  | .read i body => { s with requests := s.requests.modify i (ServedRequest.read body) }
  | .dispatch i =>
      match s.requests[i]? with
      | some ⟨request, group, .ready body⟩ =>
          let (outcome, service) := (dispatch loads group request body).call s.service
          { service := service
            requests := s.requests.modify i fun r => { r with stage := .dispatched body outcome } }
      | _ => s
  | .respond i ended => { s with requests := s.requests.modify i (ServedRequest.respond ended) }
  | .register name resp =>
      { s with service := ((MockService.register name resp).call s.service).2 }
  | .getCalls name => { s with service := ((MockService.getCalls name).call s.service).2 }
  | .lastCall name => { s with service := ((MockService.lastCall name).call s.service).2 }
  | .assertNotCalled name =>
      { s with service := ((MockService.assertNotCalled name).call s.service).2 }

/-- The server before its first request. -/
def start : MockServer R := ⟨startService routes, []⟩

/-- What is to be recorded of each request. -/
def recorded (s : MockServer R) : Nat → Option RecordedRequest :=
  Runs.entries (ServedRequest.recorded loads) s.requests

end MockServer

/-- The calls of every handler are its part of the history, in order. -/
def MockService.Consistent (service : MockService R) : Prop :=
  ∀ name, service.historyMap.listAt name =
    service.history.filter fun recorded => recorded.handlerName = name

/-- The history is complete: the calls of each handler are its part of the history, and
each request a route was selected for is in the history exactly once, from before its
response handler starts. -/
structure MockServer.HistoryComplete (loads : JsonLoads) (s : MockServer R) : Prop where
  consistent : s.service.Consistent
  once : Runs.LoggedOnce (s.recorded loads) s.service.history
  started : ∀ r ∈ s.requests, r.handler.isSome = true → (r.recorded loads).isSome = true

/-! ### One step -/

section Step

variable {loads : JsonLoads} {routes : List MockRoute} {s : MockServer R}

theorem ServedRequest.recorded_read (body : Except Exn Bytes) (r : ServedRequest R) :
    (r.read body).recorded loads = r.recorded loads := by
  rcases r with ⟨request, group, stage⟩
  cases stage <;> cases body <;> rfl

theorem ServedRequest.recorded_respond (ended : Except Exn Unit) (r : ServedRequest R) :
    (r.respond ended).recorded loads = r.recorded loads := by
  rcases r with ⟨request, group, stage⟩
  cases stage with
  | dispatched body outcome => cases outcome <;> rfl
  | _ => rfl

theorem MockService.Consistent.record {service : MockService R} (h : service.Consistent)
    (recorded : RecordedRequest) :
    ((MockService.record recorded.handlerName recorded).call service).2.Consistent := by
  intro name
  rw [MockService.call_record]
  dsimp only
  rw [Dict.listAt_push, List.filter_append]
  by_cases same : name = recorded.handlerName
  · subst same
    rw [if_pos rfl, h, List.filter_cons_of_pos (by simp)]
    rfl
  · rw [if_neg same, h, List.filter_cons_of_neg (by simpa using Ne.symm same)]
    simp

/-- A dispatch records the request under the route it selects, and without one it raises
and changes nothing. -/
theorem MockService.call_dispatch (loads : JsonLoads) (group : List MockRoute)
    (request : Request) (body : Bytes) (service : MockService R) :
    (∃ chosen, selectRoute loads group request body = .ok (some chosen) ∧
      ((Asyncly.dispatch loads group request body).call service).2 = ((MockService.record
        chosen.handlerName (.ofRequest request request.matchInfo body
          chosen.handlerName)).call service).2) ∨
    (∀ chosen, selectRoute loads group request body ≠ .ok (some chosen)) ∧
      ∃ exc, (Asyncly.dispatch loads group request body).call service = (.error exc, service) := by
  rw [Asyncly.dispatch]
  cases selected : selectRoute loads group request body with
  | error exc => exact .inr ⟨by simp, exc, rfl⟩
  | ok found =>
      cases found with
      | none => exact .inr ⟨by simp, notFound, rfl⟩
      | some chosen =>
          exact .inl ⟨chosen, rfl, (call_recordAndLookUp request body chosen service).1⟩

namespace MockServer

/-- Steps that record nothing keep the history complete. -/
theorem HistoryComplete.of_same {s' : MockServer R} (h : s.HistoryComplete loads)
    (history : s'.service.history = s.service.history)
    (historyMap : s'.service.historyMap = s.service.historyMap)
    (recorded : s'.recorded loads = s.recorded loads)
    (started : ∀ r ∈ s'.requests, r.handler.isSome = true → (r.recorded loads).isSome = true) :
    s'.HistoryComplete loads := by
  refine ⟨?_, ?_, started⟩
  · intro name
    rw [historyMap, history]
    exact h.consistent name
  · rw [recorded, history]
    exact h.once

/-- So do moves of one request that record nothing and start no handler. -/
theorem HistoryComplete.modify (h : s.HistoryComplete loads) (i : Nat)
    {move : ServedRequest R → ServedRequest R}
    (recorded : ∀ r, (move r).recorded loads = r.recorded loads)
    (handler : ∀ r, (move r).handler = r.handler) :
    HistoryComplete loads { s with requests := s.requests.modify i move } := by
  refine h.of_same rfl rfl (Runs.entries_modify move fun r _ => recorded r) ?_
  apply (Runs.forall_mem_modify_iff h.started).mpr
  intro r at_i started
  rw [recorded]
  exact h.started r (List.mem_of_getElem? at_i) (by rwa [handler] at started)

/-- Dispatching a request records it when a route is selected, and nothing else. -/
theorem HistoryComplete.dispatch (h : s.HistoryComplete loads) (i : Nat) :
    (step loads routes s (.dispatch i)).HistoryComplete loads := by
  rw [step]
  split
  · rename_i request group body at_i
    have fresh : s.recorded loads i = none := by
      rw [recorded, Runs.entries, at_i]
      rfl
    rcases MockService.call_dispatch loads group request body s.service with
      ⟨chosen, selected, recorded⟩ | ⟨unselected, exc, raised⟩
    · rcases called : (Asyncly.dispatch loads group request body).call s.service with
        ⟨outcome, service⟩
      rw [called] at recorded
      obtain rfl : service = _ := recorded
      have written : (⟨request, group, .dispatched body outcome⟩ : ServedRequest R).recorded loads =
          some (.ofRequest request request.matchInfo body chosen.handlerName) := by
        simp only [ServedRequest.recorded, ServedRequest.dispatchedBody, selected]
      refine ⟨h.consistent.record _, ?_, ?_⟩
      · refine h.once.append fresh ?_ fun j hj => Runs.entries_modify_ne _ hj
        rw [MockServer.recorded, Runs.entries_modify_eq, at_i]
        exact written
      · apply (Runs.forall_mem_modify_iff h.started).mpr
        intro r at_j _
        rw [at_i, Option.some.injEq] at at_j
        rw [← at_j, written]
        rfl
    · rw [raised]
      have unwritten : (⟨request, group, .dispatched body (.error exc)⟩ :
          ServedRequest R).recorded loads = none := by
        simp only [ServedRequest.recorded, ServedRequest.dispatchedBody]
      refine h.of_same rfl rfl (Runs.entries_modify _ fun r at_j => ?_) ?_
      · rw [at_i, Option.some.injEq] at at_j
        rw [← at_j, unwritten]
        rfl
      · apply (Runs.forall_mem_modify_iff h.started).mpr
        intro r at_j started
        rw [at_i, Option.some.injEq] at at_j
        rw [← at_j] at started
        cases started
  · exact h

/-- Every step keeps the history complete. -/
theorem HistoryComplete.step (h : s.HistoryComplete loads) (event : ServerEvent R) :
    (step loads routes s event).HistoryComplete loads := by
  cases event with
  | arrive method path request =>
      rw [MockServer.step]
      split
      · rename_i group _
        refine h.of_same rfl rfl (Runs.entries_concat rfl) fun r member started => ?_
        rcases List.mem_append.mp member with old | new
        · exact h.started r old started
        · rw [List.mem_singleton.mp new] at started
          cases started
      · exact h
  | read i body =>
      apply h.modify i (fun r => r.recorded_read body)
      intro r
      rcases r with ⟨request, group, stage⟩
      cases stage <;> cases body <;> rfl
  | dispatch i => exact h.dispatch i
  | respond i ended =>
      apply h.modify i (fun r => r.recorded_respond ended)
      intro r
      rcases r with ⟨request, group, stage⟩
      cases stage with
      | dispatched body outcome => cases outcome <;> rfl
      | _ => rfl
  | register name resp =>
      rw [MockServer.step]
      rcases MockService.call_register name resp s.service with same | registered
      · rw [same]
        exact h
      · rw [registered]
        exact h.of_same rfl rfl rfl h.started
  | getCalls name =>
      rw [MockServer.step, MockService.getCalls_readOnly name s.service]
      exact h
  | lastCall name =>
      rw [MockServer.step, MockService.lastCall_readOnly name s.service]
      exact h
  | assertNotCalled name =>
      rw [MockServer.step, MockService.assertNotCalled_readOnly name s.service]
      exact h

end MockServer

end Step

theorem MockServer.historyComplete_reached (loads : JsonLoads) (routes : List MockRoute)
    (events : List (ServerEvent R)) :
    HistoryComplete loads (Runs.run (step loads routes) (start routes) events) := by
  have empty : (start (R := R) routes).HistoryComplete loads := by
    refine ⟨fun name => rfl, .nil fun i => rfl, fun r member => ?_⟩
    cases member
  exact Runs.run_invariant (I := HistoryComplete loads) (fun _ event h => h.step event) empty
    events

/-- In every state a server can come to, the history is complete, and asking about the
calls changes nothing. -/
theorem MockServer.run_historyComplete (loads : JsonLoads) (routes : List MockRoute)
    (events : List (ServerEvent R)) :
    (Runs.run (step loads routes) (start routes) events).HistoryComplete loads ∧
      ∀ name, (MockService.getCalls (R := R) name).ReadOnly ∧
        (MockService.lastCall (R := R) name).ReadOnly ∧
        (MockService.assertNotCalled (R := R) name).ReadOnly := by
  exact ⟨historyComplete_reached loads routes events, fun name =>
    ⟨MockService.getCalls_readOnly name, MockService.lastCall_readOnly name,
      MockService.assertNotCalled_readOnly name⟩⟩

end Asyncly
