import Asyncly.Lib.Search
import Asyncly.Srvmocker.Models

/-!
# Assertions on recorded calls

The mock service and the mock proxy decide whether a matching call was recorded by the
same steps over their own lists of calls. The verdict is compared with the existence of a
call that satisfies the criteria, which no order of the calls can change.
-/

namespace Asyncly

variable {R : Type}

namespace RecordedRequest

/-- `_matches_body` of the assertions -/
def matchesBody (call : RecordedRequest) (body : Option Bytes) : Bool :=
  match body with
  | none => true
  | some body => call.body = body

/-- `_matches_json` of the assertions; a missing value is `None` -/
def matchesJson (loads : JsonLoads) (call : RecordedRequest) (json : Json) : Except Exn Bool :=
  if json.isNone then .ok true
  else
    match loads call.body with
    | .error exc => if exc.isinstance [.jsonDecodeError] then .ok false else .error exc
    | .ok parsed => .ok (parsed.equals json)

/-- `_matches_headers` of the assertions -/
def matchesHeaders (call : RecordedRequest) (headers : Option (Dict String String)) : Bool :=
  match headers with
  | none => true
  | some items => items.all fun (k, v) => call.headers.get? k = some v

/-- `_matches_query` of the assertions -/
def matchesQuery (call : RecordedRequest) (query : Option (Dict String String)) : Bool :=
  match query with
  | none => true
  | some items => items.all fun (k, v) => call.query.get? k = some v

end RecordedRequest

/-- `call_matches` -/
def callMatches (loads : JsonLoads) (criteria : Criteria) (call : RecordedRequest) :
    Except Exn Bool := do
  if !call.matchesBody criteria.body then return false
  if !(← call.matchesJson loads criteria.json) then return false
  if !call.matchesHeaders criteria.headers then return false
  if !call.matchesQuery criteria.query then return false
  return true

/-- An assertion looks at a recorded call with its criteria. -/
theorem callMatches_eq (loads : JsonLoads) (criteria : Criteria) (call : RecordedRequest) :
    callMatches loads criteria call =
      criteria.check loads call.headers call.query call.body := by
  have sameBody : call.matchesBody criteria.body = criteria.matchesBody call.body := by
    rw [Criteria.matchesBody]
    cases criteria.body <;> rfl
  have sameJson : call.matchesJson loads criteria.json = criteria.matchesJson loads call.body := by
    rw [RecordedRequest.matchesJson, Criteria.matchesJson]
    cases loads call.body <;> rfl
  have sameHeaders :
      call.matchesHeaders criteria.headers = criteria.matchesHeaders call.headers := by
    rw [Criteria.matchesHeaders]
    cases criteria.headers <;> rfl
  have sameQuery : call.matchesQuery criteria.query = criteria.matchesQuery call.query := by
    rw [Criteria.matchesQuery]
    cases criteria.query <;> rfl
  rw [callMatches, Criteria.check, sameBody, sameJson, sameHeaders, sameQuery]
  exact Criteria.inOrder_eq _ _ _ _

/-- The matcher of a route and that of an assertion, one written for a request and the other
for its snapshot, give one answer where these have the same headers, query and body. -/
theorem callMatches_eq_matchesRequest {loads : JsonLoads} {criteria : Criteria}
    {call : RecordedRequest} {request : Request} (headers : call.headers = request.headers)
    (query : call.query = request.query) :
    callMatches loads criteria call =
      Match.matchesRequest loads ⟨criteria⟩ request call.body := by
  rw [callMatches_eq, Match.matchesRequest_eq, headers, query]

/-- The steps the two `assert_called` share: the count, the case of no criteria, and the
search for a call that passes the test. -/
def assertRecorded (subject : String) (times : Option Int) (noCriteria : Bool)
    (test : RecordedRequest → Except Exn Bool) (calls : List RecordedRequest) :
    Except Exn Unit :=
  if times.any fun expected => (calls.length : Int) ≠ expected then
    .error (.assertionError
      s!"{subject}: expected {times.getD 0} call(s), got {calls.length}")
  else if times.isSome && noCriteria then .ok ()
  else if calls.isEmpty then
    .error (.assertionError s!"{subject}: expected at least one call, got 0")
  else
    match Search.search test calls with
    | .error exc => .error exc
    | .ok (some _) => .ok ()
    | .ok none => .error (.assertionError
        s!"{subject}: none of {calls.length} call(s) matched the given criteria")

/-- `MockService.assert_called` -/
def MockService.assertCalled (loads : JsonLoads) (name : String) (times : Option Int)
    (criteria : Criteria) : ServiceM R Unit := do
  let calls ← getCalls name
  match assertRecorded s!"handler {quoted name}" times criteria.isEmpty
    (callMatches loads criteria) calls with
  | .ok _ => pure ()
  | .error exc => throw exc

/-- Handle to a running mock forwarding proxy. -/
structure MockProxyService where
  history : List RecordedRequest := []

namespace MockProxyService

/-- The tests of the loop of `assert_called`. A target is a URL, or the error of making one. -/
def takes (loads : JsonLoads) (target : Option (Except Exn Url)) (method : Option String)
    (criteria : Criteria) (call : RecordedRequest) : Except Exn Bool := do
  let sameTarget ←
    match target with
    | none => pure true
    | some made => do
        let url ← made
        pure (call.url.text = url.text : Bool)
  if !sameTarget then pure false
  else if method.any fun expected => call.method ≠ expected then pure false
  else callMatches loads criteria call

/-- `MockProxyService.assert_called` -/
def assertCalled (proxy : MockProxyService) (loads : JsonLoads) (times : Option Int)
    (target : Option (Except Exn Url)) (method : Option String) (criteria : Criteria) :
    Except Exn Unit :=
  assertRecorded "proxy" times (target.isNone && method.isNone && criteria.isEmpty)
    (takes loads target method criteria) proxy.history

end MockProxyService

/-! ### Verdicts -/

/-- What a caller sees of an assertion. -/
inductive Verdict
  | passes
  | fails
  | escapes (exc : Exn)
  deriving DecidableEq

/-- An assertion passes, fails with an `AssertionError`, or another exception escapes. -/
def verdict : Except Exn Unit → Verdict
  | .ok _ => .passes
  | .error exc => if exc.isinstance [.assertionError] then .fails else .escapes exc

@[simp] theorem verdict_assertionError (text : String) :
    verdict (.error (.assertionError text)) = .fails := rfl

/-- The number of calls is the expected one, and there are no criteria beside it or some
call is accepted. -/
def Satisfied (times : Option Int) (noCriteria : Bool) (accepts : RecordedRequest → Bool)
    (calls : List RecordedRequest) : Prop :=
  (∀ expected ∈ times, (calls.length : Int) = expected) ∧
    (times.isSome = true ∧ noCriteria = true ∨ ∃ call ∈ calls, accepts call = true)

section Verdicts

variable {subject : String} {times : Option Int} {noCriteria : Bool}
  {test : RecordedRequest → Except Exn Bool} {accepts : RecordedRequest → Bool}
  {calls calls' : List RecordedRequest}

theorem satisfied_perm (perm : calls'.Perm calls) :
    Satisfied times noCriteria accepts calls' ↔ Satisfied times noCriteria accepts calls := by
  simp only [Satisfied, perm.length_eq, perm.mem_iff]

theorem wrongCount_iff {count : Int} :
    (times.any fun expected => count ≠ expected) = true ↔
      ¬ ∀ expected ∈ times, count = expected := by
  cases times <;> simp

/-- A wrong count fails before any call is looked at. -/
theorem verdict_of_wrong_count (wrong : ¬ ∀ expected ∈ times, (calls.length : Int) = expected) :
    verdict (assertRecorded subject times noCriteria test calls) = .fails := by
  rw [assertRecorded, if_pos (wrongCount_iff.mpr wrong), verdict_assertionError]

/-- With the right count a number without criteria is enough. -/
theorem verdict_of_count_only (right : ∀ expected ∈ times, (calls.length : Int) = expected)
    (only : times.isSome = true ∧ noCriteria = true) :
    verdict (assertRecorded subject times noCriteria test calls) = .passes := by
  have counted := mt wrongCount_iff.mp (not_not.mpr right)
  rw [assertRecorded, if_neg counted, if_pos (by simp [only])]
  rfl

/-- With the right count and some criteria, the verdict is the outcome of the search. -/
theorem verdict_of_search (right : ∀ expected ∈ times, (calls.length : Int) = expected)
    (given : ¬ (times.isSome = true ∧ noCriteria = true)) :
    verdict (assertRecorded subject times noCriteria test calls) =
      match Search.search test calls with
      | .error exc => verdict (.error exc)
      | .ok (some _) => .passes
      | .ok none => .fails := by
  have counted := mt wrongCount_iff.mp (not_not.mpr right)
  rw [assertRecorded, if_neg counted, if_neg (by simpa using given)]
  cases calls with
  | nil => rfl
  | cons call rest =>
      rw [List.isEmpty_cons, if_neg Bool.false_ne_true]
      cases Search.search test (call :: rest) with
      | error exc => rfl
      | ok found => cases found <;> rfl

/-- Where every call gives its answer, the verdict is the existence of an accepted one. -/
theorem verdict_of_answers (answers : ∀ call ∈ calls, test call = .ok (accepts call)) :
    (Satisfied times noCriteria accepts calls →
      verdict (assertRecorded subject times noCriteria test calls) = .passes) ∧
    (¬ Satisfied times noCriteria accepts calls →
      verdict (assertRecorded subject times noCriteria test calls) = .fails) := by
  have found : Search.search test calls = .ok (calls.find? accepts) := by
    refine (Search.search_eq_find?_iff fun call member answer tested => ?_).mpr
      fun call reached => answers call reached.mem
    rw [answers call member] at tested
    exact (Except.ok.inj tested).symm
  constructor
  · rintro ⟨right, criteria⟩
    by_cases only : times.isSome = true ∧ noCriteria = true
    · exact verdict_of_count_only right only
    · obtain ⟨call, member, accepted⟩ := criteria.resolve_left only
      obtain ⟨chosen, first⟩ := Option.isSome_iff_exists.mp
        (List.find?_isSome.mpr ⟨call, member, accepted⟩)
      rw [verdict_of_search right only, found, first]
  · intro unsatisfied
    by_cases right : ∀ expected ∈ times, (calls.length : Int) = expected
    · have only : ¬ (times.isSome = true ∧ noCriteria = true) :=
        fun only => unsatisfied ⟨right, .inl only⟩
      have first : calls.find? accepts = none :=
        List.find?_eq_none.mpr fun call member accepted =>
          unsatisfied ⟨right, .inr ⟨call, member, accepted⟩⟩
      rw [verdict_of_search right only, found, first]
    · exact verdict_of_wrong_count right

end Verdicts

/-! ### The assertions of the service and of the proxy -/

/-- A call satisfies all given predicates. -/
def RecordedRequest.satisfies (loads : JsonLoads) (criteria : Criteria)
    (call : RecordedRequest) : Bool :=
  criteria.accepts loads call.headers call.query call.body

namespace MockService

/-- The verdict of `assert_called` on a service. -/
def verdictCalled (loads : JsonLoads) (name : String) (times : Option Int) (criteria : Criteria)
    (service : MockService R) : Verdict :=
  verdict ((assertCalled loads name times criteria).call service).1

/-- `assert_called` decides existence: it passes when the calls satisfy what is asked and
fails when they do not, whatever their order, and the proxy does the same. -/
structure DecidesExistence (loads : JsonLoads) (name : String) (times : Option Int)
    (criteria : Criteria) (service : MockService R) : Prop where
  passes : Satisfied times criteria.isEmpty (RecordedRequest.satisfies loads criteria)
      (service.historyMap.listAt name) →
    verdictCalled loads name times criteria service = .passes
  fails : ¬ Satisfied times criteria.isEmpty (RecordedRequest.satisfies loads criteria)
      (service.historyMap.listAt name) →
    verdictCalled loads name times criteria service = .fails
  anyOrder : ∀ service' : MockService R,
    (service'.historyMap.listAt name).Perm (service.historyMap.listAt name) →
      verdictCalled loads name times criteria service' =
        verdictCalled loads name times criteria service
  proxy : ∀ proxy : MockProxyService, proxy.history = service.historyMap.listAt name →
    verdict (proxy.assertCalled loads times none none criteria) =
      verdictCalled loads name times criteria service

variable {loads : JsonLoads} {name : String} {times : Option Int} {criteria : Criteria}
  {service : MockService R}

theorem verdictCalled_eq : verdictCalled loads name times criteria service =
    verdict (assertRecorded s!"handler {quoted name}" times criteria.isEmpty
      (callMatches loads criteria) (service.historyMap.listAt name)) := by
  rw [verdictCalled, assertCalled, Stateful.call_bind_of_ok (call_getCalls name service)]
  split
  · rename_i recorded
    rw [recorded]
    rfl
  · rename_i exc raised
    rw [raised]
    rfl

theorem takes_untargeted : MockProxyService.takes loads none none criteria =
    callMatches loads criteria := by
  funext call
  simp [MockProxyService.takes]

theorem isEmpty_of_reads {body : Bytes} (reads : criteria.Reads body) :
    criteria.isEmpty = false := by
  simp [Criteria.isEmpty, reads.2]

section Answers

variable (answers : (¬ ∀ expected ∈ times,
      ((service.historyMap.listAt name).length : Int) = expected) ∨
    ∀ call ∈ service.historyMap.listAt name, criteria.Reads call.body → Decodes loads call.body)

include answers

/-- The search through the calls of the service, in whatever order, passes exactly when they
satisfy the criteria. -/
theorem verdict_of_perm (subject : String) {calls : List RecordedRequest}
    (perm : calls.Perm (service.historyMap.listAt name)) :
    (Satisfied times criteria.isEmpty (RecordedRequest.satisfies loads criteria)
        (service.historyMap.listAt name) →
      verdict (assertRecorded subject times criteria.isEmpty (callMatches loads criteria)
        calls) = .passes) ∧
    (¬ Satisfied times criteria.isEmpty (RecordedRequest.satisfies loads criteria)
        (service.historyMap.listAt name) →
      verdict (assertRecorded subject times criteria.isEmpty (callMatches loads criteria)
        calls) = .fails) := by
  rw [← satisfied_perm perm]
  rcases answers with wrong | decodes
  · rw [← perm.length_eq] at wrong
    exact ⟨fun satisfied => absurd satisfied.1 wrong, fun _ => verdict_of_wrong_count wrong⟩
  · exact verdict_of_answers fun call member => (callMatches_eq loads criteria call).trans
      (Criteria.check_of_decodes (decodes call (perm.mem_iff.mp member)))

theorem verdict_eq_verdictCalled (subject : String) {calls : List RecordedRequest}
    (perm : calls.Perm (service.historyMap.listAt name)) :
    verdict (assertRecorded subject times criteria.isEmpty (callMatches loads criteria) calls) =
      verdictCalled loads name times criteria service := by
  rw [verdictCalled_eq]
  by_cases satisfied : Satisfied times criteria.isEmpty
      (RecordedRequest.satisfies loads criteria) (service.historyMap.listAt name)
  · rw [(verdict_of_perm answers subject perm).1 satisfied,
      (verdict_of_perm answers _ (.refl _)).1 satisfied]
  · rw [(verdict_of_perm answers subject perm).2 satisfied,
      (verdict_of_perm answers _ (.refl _)).2 satisfied]

/-- What does not depend on the decoder is decided in any case. -/
theorem decidesExistence_of_answers : DecidesExistence loads name times criteria service := by
  refine ⟨?_, ?_, ?_, ?_⟩
  · rw [verdictCalled_eq]
    exact (verdict_of_perm answers _ (.refl _)).1
  · rw [verdictCalled_eq]
    exact (verdict_of_perm answers _ (.refl _)).2
  · intro service' perm
    rw [verdictCalled_eq]
    exact verdict_eq_verdictCalled answers _ perm
  · intro proxy same
    rw [MockProxyService.assertCalled, takes_untargeted, same]
    exact verdict_eq_verdictCalled answers "proxy" (.refl _)

end Answers

/-- A call whose body cannot be decoded escapes from the search when it comes first. -/
theorem escapes_of_not_decodes
    (decoder : ∀ body exc, loads body = .error exc → exc.isinstance [.assertionError] = false)
    {calls : List RecordedRequest}
    (right : ∀ expected ∈ times, (calls.length : Int) = expected) {call : RecordedRequest}
    (member : call ∈ calls) (reads : criteria.Reads call.body)
    (fails : ¬ Decodes loads call.body) (subject : String) :
    ∃ exc, verdict (assertRecorded subject times criteria.isEmpty (callMatches loads criteria)
      (call :: calls.erase call)) = .escapes exc := by
  obtain ⟨exc, decoded, -, raised⟩ :=
    Criteria.check_of_not_decodes call.headers call.query reads fails
  have length := (List.perm_cons_erase member).length_eq
  have search : Search.search (callMatches loads criteria) (call :: calls.erase call) =
      .error exc := by
    rw [Search.search, callMatches_eq, raised]
  refine ⟨exc, ?_⟩
  rw [verdict_of_search (by rwa [← length]) (by simp [isEmpty_of_reads reads]), search]
  simp [verdict, decoder _ _ decoded]

/-- `assert_called` decides existence exactly when the count is already wrong, or decoding
answers for every call whose body is looked into. -/
theorem assertCalled_decidesExistence_iff
    (decoder : ∀ body exc, loads body = .error exc → exc.isinstance [.assertionError] = false)
    (name : String) (times : Option Int) (criteria : Criteria) (service : MockService R) :
    DecidesExistence loads name times criteria service ↔
      (¬ ∀ expected ∈ times, ((service.historyMap.listAt name).length : Int) = expected) ∨
      ∀ call ∈ service.historyMap.listAt name, criteria.Reads call.body →
        Decodes loads call.body := by
  refine ⟨fun decides => ?_, decidesExistence_of_answers⟩
  by_contra neither
  rw [not_or, not_not] at neither
  obtain ⟨right, undecoded⟩ := neither
  push Not at undecoded
  obtain ⟨call, member, reads, fails⟩ := undecoded
  let calls := call :: (service.historyMap.listAt name).erase call
  let reordered : MockService R :=
    { service with historyMap := service.historyMap.set name calls }
  have stored : reordered.historyMap.listAt name = calls := Dict.listAt_set_self name calls _
  obtain ⟨exc, escapes⟩ :=
    escapes_of_not_decodes decoder right member reads fails s!"handler {quoted name}"
  have same := decides.anyOrder reordered
    (by rw [stored]; exact (List.perm_cons_erase member).symm)
  rw [verdictCalled_eq, stored, escapes] at same
  by_cases satisfied : Satisfied times criteria.isEmpty
      (RecordedRequest.satisfies loads criteria) (service.historyMap.listAt name)
  · rw [decides.passes satisfied] at same
    cases same
  · rw [decides.fails satisfied] at same
    cases same

end MockService

namespace Sample

def call (body : Bytes) : RecordedRequest where
  method := "POST"
  url := ⟨"http://mock/items", "http", "/items"⟩
  path := "/items"
  headers := []
  query := []
  pathParams := []
  body := body
  handlerName := "create"

/-- A service that recorded one call for each body. -/
def recordedBodies (bodies : List Bytes) : MockService Nat where
  history := bodies.map call
  historyMap := [("create", bodies.map call)]
  handlerNames := ["create"]

theorem loads_decoder (body : Bytes) (exc : Exn) (failed : loads body = .error exc) :
    exc.isinstance [.assertionError] = false := by
  rw [loads.eq_def] at failed
  split at failed
  · cases failed
  · rw [← Except.error.inj failed]
    rfl
  · rw [← Except.error.inj failed]
    rfl

end Sample

/-- A text that is not JSON and an empty object. -/
theorem MockService.assertCalled_decidesExistence_iff_sample :
    MockService.DecidesExistence Sample.loads "create" none { json := .object [] }
      (Sample.recordedBodies [[0x78], [0x7B, 0x7D]]) := by
  refine (MockService.assertCalled_decidesExistence_iff Sample.loads_decoder "create" none
    { json := .object [] } _).mpr (.inr fun call member _ exc failed => ?_)
  rcases List.mem_cons.mp member with rfl | rest
  · obtain rfl := Except.error.inj failed
    rfl
  · rw [List.mem_singleton.mp rest] at failed
    cases failed

/-- A call whose body is no text hides the matching one behind it. -/
theorem MockService.assertCalled_decidesExistence_fails :
    ¬ MockService.DecidesExistence Sample.loads "create" none { json := .object [] }
      (Sample.recordedBodies [[0xFF], [0x7B, 0x7D]]) := by
  intro decides
  have matching : Sample.call [0x7B, 0x7D] ∈
      (Sample.recordedBodies [[0xFF], [0x7B, 0x7D]]).historyMap.listAt "create" :=
    List.mem_cons_of_mem _ (List.mem_singleton_self _)
  have passes := decides.passes ⟨by simp, .inr ⟨_, matching, rfl⟩⟩
  cases passes

end Asyncly
