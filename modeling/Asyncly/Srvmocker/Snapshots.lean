import Asyncly.Srvmocker.Assertions
import Asyncly.Srvmocker.History

/-!
# Criteria on requests and on their snapshots

A route looks at a live request, and an assertion at the snapshot taken of it, whose
headers, query and body were copied into other containers. The copies have the pairs of the
originals in their order, so that the same criteria give the same answer on both.
-/

namespace Asyncly

variable {R : Type}

/-- `CIMultiDict(pairs)` and `MultiDict(pairs)`: the pairs are added one after the other. -/
def addPairs (pairs : List (String × String)) : List (String × String) :=
  pairs.foldl (fun copied pair => copied ++ [pair]) []

@[simp] theorem addPairs_eq (pairs : List (String × String)) : addPairs pairs = pairs := by
  have added (copied : List (String × String)) :
      pairs.foldl (fun copied pair => copied ++ [pair]) copied = copied ++ pairs := by
    induction pairs generalizing copied with
    | nil => exact (List.append_nil copied).symm
    | cons pair rest ih => rw [List.foldl_cons, ih, List.append_assoc, List.singleton_append]
  exact added []

/-- `RecordedRequest.__post_init__` -/
def RecordedRequest.postInit (call : RecordedRequest) : RecordedRequest :=
  { call with
    headers := addPairs call.headers
    query := addPairs call.query
    pathParams := Dict.ofItems call.pathParams }

/-- `Match.__post_init__`, for a match with these criteria. -/
def Match.ofCriteria (c : Criteria) : Match :=
  ⟨{ c with headers := c.headers.map Dict.ofItems, query := c.query.map Dict.ofItems }⟩

/-- The dictionaries of the criteria are ones: their keys do not repeat. -/
structure Criteria.Proper (c : Criteria) : Prop where
  headers : ∀ items ∈ c.headers, (items.map Prod.fst).Nodup
  query : ∀ items ∈ c.query, (items.map Prod.fst).Nodup

theorem map_ofItems {given : Option (Dict String String)}
    (nodup : ∀ items ∈ given, (items.map Prod.fst).Nodup) : given.map Dict.ofItems = given := by
  cases given with
  | none => rfl
  | some items => rw [Option.map_some, Dict.ofItems_of_nodup (nodup items rfl)]

theorem Match.ofCriteria_eq {c : Criteria} (proper : c.Proper) : Match.ofCriteria c = ⟨c⟩ := by
  rw [ofCriteria, map_ofItems proper.headers, map_ofItems proper.query]

section Snapshots

variable {loads : JsonLoads} {request : Request} {body : Bytes}

/-- The copies a snapshot consists of make no difference to the criteria. -/
theorem callMatches_postInit (c : Criteria) (call : RecordedRequest) :
    callMatches loads c call.postInit = callMatches loads c call := by
  simp only [callMatches_eq, RecordedRequest.postInit, addPairs_eq]

/-- The criteria give one answer, or one error, on a request and on its snapshot. -/
theorem callMatches_ofRequest {c : Criteria} (proper : c.Proper)
    (pathParams : Dict String String) (handlerName : String) :
    callMatches loads c (RecordedRequest.ofRequest request pathParams body handlerName).postInit =
      (Match.ofCriteria c).matchesRequest loads request body := by
  rw [callMatches_postInit, Match.ofCriteria_eq proper]
  exact callMatches_eq_matchesRequest rfl rfl

/-- The route that is selected takes the request. -/
theorem takes_of_selectRoute {group : List MockRoute} {chosen : MockRoute}
    (selected : selectRoute loads group request body = .ok (some chosen)) :
    chosen.takes loads request body = .ok true :=
  Search.test_of_search selected

end Snapshots

/-- What is recorded of a request is its snapshot under the route selected for it. -/
theorem ServedRequest.exists_of_recorded {loads : JsonLoads} {r : ServedRequest R}
    {call : RecordedRequest} (recorded : r.recorded loads = some call) :
    ∃ body chosen, r.dispatchedBody = some body ∧
      selectRoute loads r.group r.request body = .ok (some chosen) ∧
      call = .ofRequest r.request r.request.matchInfo body chosen.handlerName := by
  cases dispatched : r.dispatchedBody with
  | none => simp [ServedRequest.recorded, dispatched] at recorded
  | some body =>
      cases selected : selectRoute loads r.group r.request body with
      | error exc => simp [ServedRequest.recorded, dispatched, selected] at recorded
      | ok found =>
          cases found with
          | none => simp [ServedRequest.recorded, dispatched, selected] at recorded
          | some chosen =>
              simp only [ServedRequest.recorded, dispatched, selected, Option.some.injEq]
                at recorded
              exact ⟨body, chosen, rfl, selected, recorded.symm⟩

/-- The dispatch appends one call under the handler of the route, and the criteria of the
route are met by it. -/
def MockService.AppendsMatch (loads : JsonLoads) (name : String) (c : Criteria)
    (before after : MockService R) : Prop :=
  ∃ call, after.history = before.history ++ [call] ∧
    after.historyMap.listAt name = before.historyMap.listAt name ++ [call] ∧
    call.handlerName = name ∧ callMatches loads c call.postInit = .ok true

theorem dispatch_appendsMatch {loads : JsonLoads} {group : List MockRoute} {request : Request}
    {body : Bytes} {chosen : MockRoute} {m : Match} (service : MockService R)
    (selected : selectRoute loads group request body = .ok (some chosen))
    (matcher : chosen.matcher = some m) :
    MockService.AppendsMatch loads chosen.handlerName m.toCriteria service
      ((dispatch loads group request body).call service).2 := by
  have taken := takes_of_selectRoute selected
  rw [MockRoute.takes, matcher] at taken
  refine ⟨.ofRequest request request.matchInfo body chosen.handlerName, ?_, ?_, rfl, ?_⟩
  · rw [dispatch, selected, (call_recordAndLookUp request body chosen service).1,
      MockService.call_record]
  · rw [dispatch, selected, (call_recordAndLookUp request body chosen service).1,
      MockService.call_record]
    exact (Dict.listAt_push ..).trans (if_pos rfl)
  · rw [callMatches_postInit, callMatches_eq_matchesRequest (show _ = request.headers from rfl)
      (show _ = request.query from rfl)]
    exact taken

/-- Routes and assertions use the same criteria: a call that was recorded for a route meets
the criteria of the route, and in every state a server can come to, criteria answer for a
recorded call as they do for the request it is the snapshot of. -/
theorem routing_agreesWith_asserting (loads : JsonLoads) :
    (∀ (group : List MockRoute) (request : Request) (body : Bytes) (chosen : MockRoute) (m : Match)
      (service : MockService R), selectRoute loads group request body = .ok (some chosen) →
        chosen.matcher = some m → MockService.AppendsMatch loads chosen.handlerName m.toCriteria
          service ((dispatch loads group request body).call service).2) ∧
    ∀ (routes : List MockRoute) (events : List (ServerEvent R)),
      let s := Runs.run (MockServer.step loads routes) (MockServer.start routes) events
      ∀ call ∈ s.service.history, ∃ r ∈ s.requests, r.recorded loads = some call ∧
        ∃ body, r.dispatchedBody = some body ∧ ∀ c : Criteria, c.Proper →
          callMatches loads c call.postInit =
            (Match.ofCriteria c).matchesRequest loads r.request body := by
  refine ⟨fun _ _ _ _ _ service => dispatch_appendsMatch service, ?_⟩
  intro routes events s call member
  obtain ⟨i, written⟩ :=
    (MockServer.historyComplete_reached loads routes events).once.exists_of_mem member
  obtain ⟨r, served, recorded⟩ := Runs.exists_of_entries written
  obtain ⟨body, chosen, dispatched, -, rfl⟩ := ServedRequest.exists_of_recorded recorded
  exact ⟨r, served, recorded, body, dispatched, fun c proper => callMatches_ofRequest proper ..⟩

namespace Sample

/-- The request for an empty object arrives and is dispatched. -/
def servedEvents : List (ServerEvent Nat) :=
  [.arrive "POST" "/items" postedItem, .read 0 (.ok [0x7B, 0x7D]), .dispatch 0]

/-- What is recorded of it. -/
def servedCall : RecordedRequest := .ofRequest postedItem [] [0x7B, 0x7D] "empty"

end Sample

theorem routing_agreesWith_asserting_sample :
    MockService.AppendsMatch Sample.loads "empty" { json := .object [] }
      (startService (R := Nat) Sample.routes)
      ((dispatch Sample.loads Sample.routes Sample.postedItem [0x7B, 0x7D]).call
        (startService Sample.routes)).2 ∧
    ∃ r ∈ (Runs.run (MockServer.step Sample.loads Sample.routes)
        (MockServer.start Sample.routes) Sample.servedEvents).requests,
      r.recorded Sample.loads = some Sample.servedCall ∧
        ∃ body, r.dispatchedBody = some body ∧ ∀ c : Criteria, c.Proper →
          callMatches Sample.loads c Sample.servedCall.postInit =
            (Match.ofCriteria c).matchesRequest Sample.loads r.request body :=
  ⟨(routing_agreesWith_asserting Sample.loads).1 Sample.routes Sample.postedItem [0x7B, 0x7D]
      { method := "POST", path := "/items", handlerName := "empty",
        matcher := some { json := .object [] } } { json := .object [] }
      (startService Sample.routes) rfl rfl,
    (routing_agreesWith_asserting Sample.loads).2 Sample.routes Sample.servedEvents
      Sample.servedCall (List.mem_singleton.mpr rfl)⟩

end Asyncly
