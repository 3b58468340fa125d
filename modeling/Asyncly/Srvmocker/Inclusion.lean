import Asyncly.Srvmocker.Assertions

/-!
# Criteria on headers and query parameters

The criteria name pairs that a request is to have, and names may repeat in a request. The
loops look each name up, which gives its first value: they test the inclusion of the
expected pairs unless one of these stands behind another value of its name.
-/

namespace Asyncly

namespace Criteria

/-- Every expected pair occurs among the pairs of the request; names of headers are compared
ignoring case. -/
structure Included (c : Criteria) (headers : Headers) (query : Query) : Prop where
  headers : ∀ item ∈ c.headers.getD [], ∃ pair ∈ headers,
    lower pair.1 = lower item.1 ∧ pair.2 = item.2
  query : ∀ item ∈ c.query.getD [], ∃ pair ∈ query, pair.1 = item.1 ∧ pair.2 = item.2

/-- Some expected pair occurs only behind another value of its name. -/
def Shadowed (c : Criteria) (headers : Headers) (query : Query) : Prop :=
  (∃ item ∈ c.headers.getD [], MultiDict.Shadowed lower item.1 item.2 headers) ∨
    ∃ item ∈ c.query.getD [], MultiDict.Shadowed id item.1 item.2 query

/-- The criteria on the body hold. -/
structure AcceptsBody (loads : JsonLoads) (c : Criteria) (body : Bytes) : Prop where
  bytes : c.matchesBody body = true
  json : c.matchesJson loads body = .ok true

variable {loads : JsonLoads} {c : Criteria} {headers : Headers} {query : Query} {body : Bytes}

/-- A lookup of each expected name tests that its pair occurs and is not shadowed. -/
theorem all_get?_iff {ι : Type} [DecidableEq ι] (fold : String → ι)
    (expected pairs : List (String × String)) :
    (expected.all fun item => MultiDict.get? fold item.1 pairs = some item.2) = true ↔
      (∀ item ∈ expected, ∃ pair ∈ pairs, fold pair.1 = fold item.1 ∧ pair.2 = item.2) ∧
        ¬ ∃ item ∈ expected, MultiDict.Shadowed fold item.1 item.2 pairs := by
  rw [List.all_eq_true]
  constructor
  · intro found
    refine ⟨fun item member => ?_, ?_⟩
    · exact MultiDict.mem_getAll_iff.mp
        (MultiDict.mem_getAll_of_get? (of_decide_eq_true (found item member)))
    · rintro ⟨item, member, shadowed⟩
      have first := of_decide_eq_true (found item member)
      exact (MultiDict.get?_eq_some_iff (MultiDict.mem_getAll_of_get? first)).mp first shadowed
  · rintro ⟨occurs, notShadowed⟩ item member
    have here := MultiDict.mem_getAll_iff.mpr (occurs item member)
    exact decide_eq_true ((MultiDict.get?_eq_some_iff here).mpr fun shadowed =>
      notShadowed ⟨item, member, shadowed⟩)

theorem matchesHeaders_iff : c.matchesHeaders headers = true ↔
    (∀ item ∈ c.headers.getD [], ∃ pair ∈ headers,
      lower pair.1 = lower item.1 ∧ pair.2 = item.2) ∧
    ¬ ∃ item ∈ c.headers.getD [], MultiDict.Shadowed lower item.1 item.2 headers := by
  rw [matchesHeaders]
  cases c.headers with
  | none => simp
  | some items => exact all_get?_iff lower items headers

theorem matchesQuery_iff : c.matchesQuery query = true ↔
    (∀ item ∈ c.query.getD [], ∃ pair ∈ query, pair.1 = item.1 ∧ pair.2 = item.2) ∧
    ¬ ∃ item ∈ c.query.getD [], MultiDict.Shadowed id item.1 item.2 query := by
  rw [matchesQuery]
  cases c.query with
  | none => simp
  | some items => exact all_get?_iff id items query

theorem matchesParts_iff :
    (c.matchesHeaders headers && c.matchesQuery query) = true ↔
      c.Included headers query ∧ ¬ c.Shadowed headers query := by
  rw [Bool.and_eq_true, matchesHeaders_iff, matchesQuery_iff, Shadowed, not_or]
  constructor
  · rintro ⟨⟨headers, first⟩, query, second⟩
    exact ⟨⟨headers, query⟩, first, second⟩
  · rintro ⟨included, first, second⟩
    exact ⟨⟨included.headers, first⟩, included.query, second⟩

/-- Where the body is accepted, the criteria test inclusion exactly for the requests that
do not shadow one of several pairs they have. -/
theorem check_included_iff (accepted : c.AcceptsBody loads body) :
    (c.check loads headers query body = .ok true ↔ c.Included headers query) ↔
      ¬ (c.Included headers query ∧ c.Shadowed headers query) := by
  have parts : c.check loads headers query body =
      .ok (c.matchesHeaders headers && c.matchesQuery query) := by
    rw [check, accepted.bytes, accepted.json]
    rfl
  rw [parts, Except.ok.injEq, matchesParts_iff]
  constructor
  · rintro same ⟨included, shadowed⟩
    exact (same.mpr included).2 shadowed
  · intro visible
    exact ⟨fun h => h.1, fun included => ⟨included, fun shadowed => visible ⟨included, shadowed⟩⟩⟩

end Criteria

/-- The criteria on headers and query parameters of a route, and of an assertion, test
inclusion exactly where no pair that is there with all others is shadowed. -/
theorem criteria_testInclusion_iff (loads : JsonLoads) (c : Criteria) :
    (∀ (request : Request) (body : Bytes), c.AcceptsBody loads body →
      ((Match.matchesRequest loads ⟨c⟩ request body = .ok true ↔
          c.Included request.headers request.query) ↔
        ¬ (c.Included request.headers request.query ∧
          c.Shadowed request.headers request.query))) ∧
    ∀ call : RecordedRequest, c.AcceptsBody loads call.body →
      ((callMatches loads c call = .ok true ↔ c.Included call.headers call.query) ↔
        ¬ (c.Included call.headers call.query ∧ c.Shadowed call.headers call.query)) :=
  ⟨fun request body accepted => Match.matchesRequest_eq loads ⟨c⟩ request body ▸
      Criteria.check_included_iff accepted,
    fun call accepted => callMatches_eq loads c call ▸ Criteria.check_included_iff accepted⟩

namespace Sample

/-- One tag is expected. -/
def tagCriteria : Criteria := { headers := some [("X-Tag", "b")] }

/-- A request with the tags `a` and `b`. -/
def taggedRequest : Request :=
  ⟨"POST", ⟨"http://mock/items", "http", "/items"⟩, "/items", [("X-Tag", "a"), ("x-tag", "b")],
    [], []⟩

end Sample

theorem criteria_testInclusion_iff_sample :
    (Match.matchesRequest Sample.loads ⟨Sample.tagCriteria⟩ Sample.taggedRequest [] = .ok true ↔
        Sample.tagCriteria.Included Sample.taggedRequest.headers Sample.taggedRequest.query) ↔
      ¬ (Sample.tagCriteria.Included Sample.taggedRequest.headers Sample.taggedRequest.query ∧
        Sample.tagCriteria.Shadowed Sample.taggedRequest.headers Sample.taggedRequest.query) :=
  (criteria_testInclusion_iff Sample.loads Sample.tagCriteria).1 Sample.taggedRequest [] ⟨rfl, rfl⟩

/-- The tag `b` is there, but behind the tag `a`. -/
theorem criteria_testInclusion_fails :
    ¬ (Match.matchesRequest Sample.loads ⟨Sample.tagCriteria⟩ Sample.taggedRequest [] = .ok true ↔
        Sample.tagCriteria.Included Sample.taggedRequest.headers Sample.taggedRequest.query) ∧
      ¬ (callMatches Sample.loads Sample.tagCriteria
        (.ofRequest Sample.taggedRequest [] [] "tagged") = .ok true ↔
          Sample.tagCriteria.Included Sample.taggedRequest.headers Sample.taggedRequest.query) := by
  have included :
      Sample.tagCriteria.Included Sample.taggedRequest.headers Sample.taggedRequest.query := by
    constructor
    · intro item member
      rw [List.mem_singleton.mp member]
      exact ⟨("x-tag", "b"), by decide, by decide, rfl⟩
    · intro item member
      cases member
  constructor
  · intro same
    cases same.mpr included
  · intro same
    cases same.mpr included

end Asyncly
