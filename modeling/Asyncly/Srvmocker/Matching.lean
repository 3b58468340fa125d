import Asyncly.Client.Typing
import Asyncly.Python.Values

/-!
# Criteria on requests

Routes and assertions look at a request with four predicates each. The predicate on JSON
decodes a body, which may fail in more than one way: only one of them is taken for an
answer. What both come to is `Criteria.check`, which is compared with the answer the
criteria stand for.
-/

namespace Asyncly

/-- `json.loads` of a body. -/
abbrev JsonLoads := Bytes → Except Exn Json

/-- The pairs of a `MultiDict`, in order. -/
abbrev Query := List (String × String)

/-- `query.get(name)` -/
def Query.get? (name : String) (query : Query) : Option String := MultiDict.get? id name query

/-- A request as its handler sees it, its body apart. -/
structure Request where
  method : String
  url : Url
  path : String
  headers : Headers
  query : Query
  matchInfo : Dict String String
  deriving DecidableEq

/-- The criteria on a request; for `json` a missing value is `None`. -/
structure Criteria where
  json : Json := .null
  body : Option Bytes := none
  headers : Option (Dict String String) := none
  query : Option (Dict String String) := none

namespace Criteria

/-- `all(v is None for v in (json, body, headers, query))` -/
def isEmpty (c : Criteria) : Bool :=
  c.json.isNone && c.body.isNone && c.headers.isNone && c.query.isNone

/-- The body is the expected one. -/
def matchesBody (c : Criteria) (body : Bytes) : Bool := c.body.all fun expected => body = expected

/-- The body decodes to the expected value. -/
def matchesJson (loads : JsonLoads) (c : Criteria) (body : Bytes) : Except Exn Bool :=
  if c.json.isNone then .ok true
  else
    match loads body with
    | .ok parsed => .ok (parsed.equals c.json)
    | .error exc => if exc.isinstance [.jsonDecodeError] then .ok false else .error exc

/-- The headers have the expected values. -/
def matchesHeaders (c : Criteria) (headers : Headers) : Bool :=
  c.headers.all fun items => items.all fun item => headers.get? item.1 = some item.2

/-- The query has the expected values. -/
def matchesQuery (c : Criteria) (query : Query) : Bool :=
  c.query.all fun items => items.all fun item => query.get? item.1 = some item.2

/-- The four predicates in order, up to the first that does not hold. -/
def check (loads : JsonLoads) (c : Criteria) (headers : Headers) (query : Query)
    (body : Bytes) : Except Exn Bool :=
  if c.matchesBody body then do
    let decoded ← c.matchesJson loads body
    pure (decoded && c.matchesHeaders headers && c.matchesQuery query)
  else .ok false

/-- Four tests made one after the other, the second of which may fail. -/
theorem inOrder_eq (first third fourth : Bool) (second : Except Exn Bool) :
    (do
      if !first then return false
      if !(← second) then return false
      if !third then return false
      if !fourth then return false
      return true) =
    if first then do
      let decoded ← second
      pure (decoded && third && fourth)
    else .ok false := by
  cases first with
  | false => rfl
  | true =>
      cases second with
      | error exc => rfl
      | ok decoded => cases decoded <;> cases third <;> cases fourth <;> rfl

end Criteria

/-- Request matcher attached to a route. -/
structure Match extends Criteria

namespace Match

/-- `Match._matches_body` -/
def matchesBody (m : Match) (body : Bytes) : Bool :=
  match m.body with
  | none => true
  | some expected => body = expected

/-- `Match._matches_json` -/
def matchesJson (loads : JsonLoads) (m : Match) (body : Bytes) : Except Exn Bool :=
  if m.json.isNone then .ok true
  else
    match loads body with
    | .error exc => if exc.isinstance [.jsonDecodeError] then .ok false else .error exc
    | .ok parsed => .ok (parsed.equals m.json)

/-- `Match._matches_headers` -/
def matchesHeaders (m : Match) (request : Request) : Bool :=
  match m.headers with
  | none => true
  | some items => items.all fun (k, v) => request.headers.get? k = some v

/-- `Match._matches_query` -/
def matchesQuery (m : Match) (request : Request) : Bool :=
  match m.query with
  | none => true
  | some items => items.all fun (k, v) => request.query.get? k = some v

/-- `Match.matches` -/
def matchesRequest (loads : JsonLoads) (m : Match) (request : Request) (body : Bytes) :
    Except Exn Bool := do
  if !m.matchesBody body then return false
  if !(← m.matchesJson loads body) then return false
  if !m.matchesHeaders request then return false
  if !m.matchesQuery request then return false
  return true

/-- A match looks at the request with its criteria. -/
theorem matchesRequest_eq (loads : JsonLoads) (m : Match) (request : Request) (body : Bytes) :
    m.matchesRequest loads request body =
      m.toCriteria.check loads request.headers request.query body := by
  have sameBody : m.matchesBody body = m.toCriteria.matchesBody body := by
    rw [matchesBody, Criteria.matchesBody]
    cases m.body <;> rfl
  have sameJson : m.matchesJson loads body = m.toCriteria.matchesJson loads body := by
    rw [matchesJson, Criteria.matchesJson]
    cases loads body <;> rfl
  have sameHeaders : m.matchesHeaders request = m.toCriteria.matchesHeaders request.headers := by
    rw [matchesHeaders, Criteria.matchesHeaders]
    cases m.headers <;> rfl
  have sameQuery : m.matchesQuery request = m.toCriteria.matchesQuery request.query := by
    rw [matchesQuery, Criteria.matchesQuery]
    cases m.query <;> rfl
  rw [matchesRequest, Criteria.check, sameBody, sameJson, sameHeaders, sameQuery]
  exact Criteria.inOrder_eq _ _ _ _

end Match

/-! ### The answer the criteria stand for -/

/-- Decoding gives a value, or the error that is taken for an answer. -/
def Decodes (loads : JsonLoads) (body : Bytes) : Prop :=
  ∀ exc, loads body = .error exc → exc.isinstance [.jsonDecodeError] = true

namespace Criteria

variable (loads : JsonLoads) (c : Criteria) (headers : Headers) (query : Query) (body : Bytes)

/-- A body that is not decodable has no JSON value. -/
def acceptsJson : Bool :=
  c.json.isNone || match loads body with
    | .ok parsed => parsed.equals c.json
    | .error _ => false

/-- All given predicates hold. -/
def accepts : Bool :=
  c.matchesBody body && c.acceptsJson loads body && c.matchesHeaders headers &&
    c.matchesQuery query

/-- The body is looked into for its JSON value. -/
def Reads : Prop := c.matchesBody body = true ∧ c.json.isNone = false

variable {loads c headers query body}

theorem matchesJson_of_decodes (decodes : c.json.isNone = false → Decodes loads body) :
    c.matchesJson loads body = .ok (c.acceptsJson loads body) := by
  rw [matchesJson, acceptsJson]
  cases given : c.json.isNone with
  | true => rfl
  | false =>
      cases decoded : loads body with
      | ok parsed => rfl
      | error exc => simp [decodes given exc decoded]

/-- Apart from the failures that are not taken for answers, the criteria give theirs. -/
theorem check_of_decodes (decodes : c.Reads body → Decodes loads body) :
    c.check loads headers query body = .ok (c.accepts loads headers query body) := by
  rw [check, accepts]
  cases same : c.matchesBody body with
  | false => rfl
  | true =>
      rw [matchesJson_of_decodes fun given => decodes ⟨same, given⟩]
      rfl

theorem check_of_not_decodes (headers : Headers) (query : Query) (reads : c.Reads body)
    (fails : ¬ Decodes loads body) :
    ∃ exc, loads body = .error exc ∧ exc.isinstance [.jsonDecodeError] = false ∧
      c.check loads headers query body = .error exc := by
  obtain ⟨exc, decoded, unexpected⟩ : ∃ exc, loads body = .error exc ∧
      exc.isinstance [.jsonDecodeError] = false := by
    simpa [Decodes] using fails
  refine ⟨exc, decoded, unexpected, ?_⟩
  rw [check, reads.1, matchesJson, reads.2, decoded]
  simp [unexpected]

/-- The criteria answer exactly when decoding does, if they ask for it. -/
theorem check_eq_accepts_iff :
    c.check loads headers query body = .ok (c.accepts loads headers query body) ↔
      (c.Reads body → Decodes loads body) := by
  refine ⟨fun answered reads => ?_, check_of_decodes⟩
  by_contra fails
  obtain ⟨exc, -, -, raised⟩ := check_of_not_decodes headers query reads fails
  rw [raised] at answered
  cases answered

/-- An answer, when there is one, is the one the criteria stand for. -/
theorem eq_accepts_of_check {answer : Bool}
    (answered : c.check loads headers query body = .ok answer) :
    answer = c.accepts loads headers query body := by
  by_cases decodes : c.Reads body → Decodes loads body
  · rw [check_of_decodes decodes] at answered
    exact (Except.ok.inj answered).symm
  · rw [Classical.not_imp] at decodes
    obtain ⟨exc, -, -, raised⟩ := check_of_not_decodes headers query decodes.1 decodes.2
    rw [raised] at answered
    cases answered

end Criteria

/-- `json.loads` of three kinds of bodies: an empty object, a byte that starts no
character, and what is not JSON. -/
def Sample.loads : JsonLoads
  | [0x7B, 0x7D] => .ok (.object [])
  | [0xFF] => .error (.unicodeDecodeError
      "'utf-8' codec can't decode byte 0xff in position 0: invalid start byte")
  | _ => .error (.jsonDecodeError "Expecting value: line 1 column 1 (char 0)")

end Asyncly
