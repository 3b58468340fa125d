import Asyncly.Srvmocker.Assertions

/-!
# The criterion on JSON

The criterion is to accept the bodies that denote one JSON value. The code compares as
Python does, for which a boolean is a number: it accepts a body that differs from the
expected value in nothing but booleans that stand where the other has their numbers.
-/

namespace Asyncly

/-- A JSON value: an object is a finite map from names to values. -/
inductive JsonValue
  | null
  | bool (value : Bool)
  | number (value : Binary64)
  | string (value : String)
  | array (items : List JsonValue)
  | object (members : String → Option JsonValue)

namespace Json

section Denotation

variable (truth : Bool → JsonValue)

mutual

/-- The JSON value of a Python value, given what a boolean stands for. -/
def denote : Json → JsonValue
  | null => .null
  | bool value => truth value
  | int value => .number (.finite value)
  | float value => .number value
  | string value => .string value
  | array items => .array (denoteItems items)
  | object members => .object (denoteMembers members)

def denoteItems : List Json → List JsonValue
  | [] => []
  | item :: rest => denote item :: denoteItems rest

def denoteMembers : List (String × Json) → String → Option JsonValue
  | [], _ => none
  | (name, value) :: rest, key =>
      if name = key then some (denote value) else denoteMembers rest key

end

end Denotation

/-- A boolean as the number it is for Python. -/
def asNumber (value : Bool) : JsonValue := .number (.finite (if value then 1 else 0))

/-- A value of a JSON text: every number is one, and no object has two members of a name. -/
inductive Proper : Json → Prop
  | null : Proper null
  | bool (value : Bool) : Proper (bool value)
  | int (value : Int) : Proper (int value)
  | float (value : Binary64) (number : value ≠ .nan) : Proper (float value)
  | string (value : String) : Proper (string value)
  | array (items : List Json) (each : ∀ item ∈ items, Proper item) : Proper (array items)
  | object (members : List (String × Json)) (each : ∀ m ∈ members, Proper m.2)
      (names : (members.map Prod.fst).Nodup) : Proper (object members)

/-- The same JSON value. -/
def Same (v w : Json) : Prop := denote .bool v = denote .bool w

/-- The same JSON value when every boolean is read as a number. -/
def SameAsNumbers (v w : Json) : Prop := denote asNumber v = denote asNumber w

@[simp] def isBool : Json → Bool
  | bool _ => true
  | _ => false

@[simp] def isNumber : Json → Bool
  | int _ | float _ => true
  | _ => false

@[simp] def isContainer : Json → Bool
  | array _ | object _ => true
  | _ => false

/-- At some position one value has a boolean and the other a number. -/
inductive Clash : Json → Json → Prop
  | boolNumber {x y : Json} (left : x.isBool = true) (right : y.isNumber = true) : Clash x y
  | numberBool {x y : Json} (left : x.isNumber = true) (right : y.isBool = true) : Clash x y
  | item {xs ys : List Json} (i : Nat) {x y : Json} (left : xs[i]? = some x)
      (right : ys[i]? = some y) (clash : Clash x y) : Clash (array xs) (array ys)
  | member {xs ys : List (String × Json)} (name : String) {x y : Json}
      (left : MultiDict.get? id name xs = some x) (right : MultiDict.get? id name ys = some y)
      (clash : Clash x y) : Clash (object xs) (object ys)

/-! ### Containers, position by position -/

/-- Two arrays are equally long and agree at every index. -/
def ItemsAgree (r : Json → Json → Prop) (xs ys : List Json) : Prop :=
  xs.length = ys.length ∧ ∀ (i : Nat) (x y : Json), xs[i]? = some x → ys[i]? = some y → r x y

/-- Two objects have the same names and agree under each. -/
def MembersAgree (r : Json → Json → Prop) (xs ys : List (String × Json)) : Prop :=
  MultiDict.SameKeys xs ys ∧ ∀ (name : String) (x y : Json),
    MultiDict.get? id name xs = some x → MultiDict.get? id name ys = some y → r x y

section Containers

variable {truth : Bool → JsonValue} {r r' : Json → Json → Prop}

theorem itemsAgree_nil : ItemsAgree r [] [] := ⟨rfl, fun _ _ _ here _ => by cases here⟩

theorem itemsAgree_cons {x y : Json} {xs ys : List Json} :
    ItemsAgree r (x :: xs) (y :: ys) ↔ r x y ∧ ItemsAgree r xs ys := by
  constructor
  · rintro ⟨length, agree⟩
    exact ⟨agree 0 x y rfl rfl, by simpa using length, fun i => agree (i + 1)⟩
  · rintro ⟨first, length, agree⟩
    refine ⟨by simpa using length, fun i => ?_⟩
    cases i with
    | zero =>
        intro x' y' here there
        obtain rfl : x = x' := Option.some.inj here
        obtain rfl : y = y' := Option.some.inj there
        exact first
    | succ i => exact agree i

theorem denoteItems_eq_iff {xs ys : List Json} :
    denoteItems truth xs = denoteItems truth ys ↔
      ItemsAgree (fun x y => denote truth x = denote truth y) xs ys := by
  induction xs generalizing ys with
  | nil =>
      cases ys with
      | nil => exact iff_of_true rfl itemsAgree_nil
      | cons y ys => exact iff_of_false (by simp [denoteItems]) fun h => by cases h.1
  | cons x xs ih =>
      cases ys with
      | nil => exact iff_of_false (by simp [denoteItems]) fun h => by cases h.1
      | cons y ys => rw [itemsAgree_cons, ← ih, denoteItems, denoteItems, List.cons.injEq]

theorem denoteMembers_apply (members : List (String × Json)) (name : String) :
    denoteMembers truth members name =
      (MultiDict.get? id name members).map (denote truth) := by
  induction members with
  | nil => rfl
  | cons member rest ih =>
      rw [denoteMembers, MultiDict.get?_cons, ih]
      by_cases same : member.1 = name
      · rw [if_pos same, if_pos (by exact same), Option.map_some]
      · rw [if_neg same, if_neg (by exact same)]

theorem denoteMembers_eq_iff {xs ys : List (String × Json)} :
    denoteMembers truth xs = denoteMembers truth ys ↔
      MembersAgree (fun x y => denote truth x = denote truth y) xs ys := by
  rw [funext_iff]
  simp only [denoteMembers_apply]
  constructor
  · intro same
    refine ⟨fun name => ?_, fun name x y here there => ?_⟩
    · simpa using congrArg Option.isSome (same name)
    · simpa [here, there] using same name
  · rintro ⟨names, agree⟩ name
    have both := names name
    cases here : MultiDict.get? id name xs with
    | none =>
        rw [here] at both
        rw [Option.not_isSome_iff_eq_none.mp (Bool.eq_false_iff.mp both.symm)]
    | some x =>
        rw [here] at both
        obtain ⟨y, there⟩ := Option.isSome_iff_exists.mp both.symm
        rw [there, Option.map_some, Option.map_some, agree name x y here there]

/-- Agreement of items may be replaced where it is another relation. -/
theorem itemsAgree_congr {xs ys : List Json}
    (each : ∀ x ∈ xs, ∀ y ∈ ys, r x y ↔ r' x y) : ItemsAgree r xs ys ↔ ItemsAgree r' xs ys := by
  refine and_congr_right fun _ => forall_congr' fun i => forall_congr' fun x =>
    forall_congr' fun y => forall_congr' fun here => forall_congr' fun there => ?_
  exact each x (List.mem_of_getElem? here) y (List.mem_of_getElem? there)

theorem membersAgree_congr {xs ys : List (String × Json)}
    (each : ∀ m ∈ xs, ∀ n ∈ ys, r m.2 n.2 ↔ r' m.2 n.2) :
    MembersAgree r xs ys ↔ MembersAgree r' xs ys := by
  refine and_congr_right fun _ => forall_congr' fun name => forall_congr' fun x =>
    forall_congr' fun y => forall_congr' fun here => forall_congr' fun there => ?_
  exact each (name, x) (MultiDict.mem_of_get? here) (name, y) (MultiDict.mem_of_get? there)

end Containers

/-! ### What the code compares -/

theorem allEqual_iff {xs ys : List Json} :
    allEqual xs ys = true ↔ ItemsAgree (fun x y => equals x y = true) xs ys := by
  induction xs generalizing ys with
  | nil =>
      cases ys with
      | nil => exact iff_of_true rfl itemsAgree_nil
      | cons y ys => exact iff_of_false (by simp [allEqual]) fun h => by cases h.1
  | cons x xs ih =>
      cases ys with
      | nil => exact iff_of_false (by simp [allEqual]) fun h => by cases h.1
      | cons y ys => rw [itemsAgree_cons, ← ih, allEqual, Bool.and_eq_true]

theorem allFound_iff {xs ys : List (String × Json)} :
    allFound xs ys = true ↔
      ∀ m ∈ xs, ∃ other, MultiDict.get? id m.1 ys = some other ∧ equals m.2 other = true := by
  induction xs with
  | nil => simp [allFound]
  | cons m xs ih =>
      rw [allFound, Bool.and_eq_true, ih, List.forall_mem_cons]
      refine and_congr_left fun _ => ?_
      cases MultiDict.get? id m.1 ys <;> simp

theorem equals_object_iff {xs ys : List (String × Json)} (names : (xs.map Prod.fst).Nodup)
    (names' : (ys.map Prod.fst).Nodup) :
    equals (object xs) (object ys) = true ↔
      MembersAgree (fun x y => equals x y = true) xs ys := by
  rw [equals, Bool.and_eq_true, decide_eq_true_iff, allFound_iff,
    ← MultiDict.forall_get?_iff (r := fun x y => equals x y = true) names, MembersAgree,
    MultiDict.sameKeys_iff_of_nodup names names', and_assoc]

/-- Python's comparison decides equality of the values whose booleans are numbers. -/
theorem equals_iff {x y : Json} (proper : Proper x) (proper' : Proper y) :
    equals x y = true ↔ SameAsNumbers x y := by
  rw [SameAsNumbers]
  induction proper generalizing y with
  | null => cases proper' <;> simp [equals, numbersEqual, number?, denote, asNumber]
  | bool value => cases proper' <;> simp [equals, numbersEqual, number?, denote, asNumber]
  | int value => cases proper' <;> simp [equals, numbersEqual, number?, denote, asNumber]
  | float value number =>
      cases value with
      | nan => exact absurd rfl number
      | finite value => cases proper' <;> simp [equals, numbersEqual, number?, denote, asNumber]
      | infinity sign => cases proper' <;> simp [equals, numbersEqual, number?, denote, asNumber]
  | string value => cases proper' <;> simp [equals, numbersEqual, number?, denote, asNumber]
  | array items each ih =>
      cases proper' with
      | array items' each' =>
          rw [equals, allEqual_iff, denote, denote, JsonValue.array.injEq, denoteItems_eq_iff]
          exact itemsAgree_congr fun x member y member' => ih x member (each' y member')
      | _ => simp [equals, numbersEqual, number?, denote, asNumber]
  | object members each names ih =>
      cases proper' with
      | object members' each' names' =>
          rw [equals_object_iff names names', denote, denote, JsonValue.object.injEq,
            denoteMembers_eq_iff]
          exact membersAgree_congr fun m member n member' => ih m member (each' n member')
      | _ => simp [equals, numbersEqual, number?, denote, asNumber]

/-! ### Booleans against numbers -/

theorem clash_iff_of_scalar {x y : Json} (scalar : x.isContainer = false) : Clash x y ↔
    x.isBool = true ∧ y.isNumber = true ∨ x.isNumber = true ∧ y.isBool = true := by
  constructor
  · intro clash
    cases clash with
    | boolNumber left right => exact .inl ⟨left, right⟩
    | numberBool left right => exact .inr ⟨left, right⟩
    | item => cases scalar
    | member => cases scalar
  · rintro (⟨left, right⟩ | ⟨left, right⟩)
    · exact .boolNumber left right
    · exact .numberBool left right

theorem not_clash_array {xs ys : List Json} : ¬ Clash (array xs) (array ys) ↔
    ∀ (i : Nat) (x y : Json), xs[i]? = some x → ys[i]? = some y → ¬ Clash x y := by
  constructor
  · exact fun free i x y left right clash => free (.item i left right clash)
  · intro free clash
    cases clash with
    | boolNumber left => cases left
    | numberBool left => cases left
    | item i left right clash => exact free i _ _ left right clash

theorem not_clash_object {xs ys : List (String × Json)} : ¬ Clash (object xs) (object ys) ↔
    ∀ (name : String) (x y : Json), MultiDict.get? id name xs = some x →
      MultiDict.get? id name ys = some y → ¬ Clash x y := by
  constructor
  · exact fun free name x y left right clash => free (.member name left right clash)
  · intro free clash
    cases clash with
    | boolNumber left => cases left
    | numberBool left => cases left
    | member name left right clash => exact free name _ _ left right clash

theorem itemsAgree_and {r s : Json → Json → Prop} {xs ys : List Json} :
    ItemsAgree (fun x y => r x y ∧ s x y) xs ys ↔ ItemsAgree r xs ys ∧
      ∀ (i : Nat) (x y : Json), xs[i]? = some x → ys[i]? = some y → s x y := by
  constructor
  · rintro ⟨length, agree⟩
    exact ⟨⟨length, fun i x y left right => (agree i x y left right).1⟩,
      fun i x y left right => (agree i x y left right).2⟩
  · rintro ⟨⟨length, first⟩, second⟩
    exact ⟨length, fun i x y left right => ⟨first i x y left right, second i x y left right⟩⟩

theorem membersAgree_and {r s : Json → Json → Prop} {xs ys : List (String × Json)} :
    MembersAgree (fun x y => r x y ∧ s x y) xs ys ↔ MembersAgree r xs ys ∧
      ∀ (name : String) (x y : Json), MultiDict.get? id name xs = some x →
        MultiDict.get? id name ys = some y → s x y := by
  constructor
  · rintro ⟨names, agree⟩
    exact ⟨⟨names, fun name x y left right => (agree name x y left right).1⟩,
      fun name x y left right => (agree name x y left right).2⟩
  · rintro ⟨⟨names, first⟩, second⟩
    exact ⟨names, fun name x y left right =>
      ⟨first name x y left right, second name x y left right⟩⟩

/-- Values are the same exactly when they are the same as numbers and nothing clashes. -/
theorem same_iff {x y : Json} (proper : Proper x) :
    Same x y ↔ SameAsNumbers x y ∧ ¬ Clash x y := by
  rw [Same, SameAsNumbers]
  induction proper generalizing y with
  | null =>
      rw [clash_iff_of_scalar rfl]
      cases y <;> simp [denote, asNumber]
  | bool value =>
      rw [clash_iff_of_scalar rfl]
      cases y with
      | bool value' => cases value <;> cases value' <;> simp [denote, asNumber]
      | _ => simp [denote, asNumber]
  | int value =>
      rw [clash_iff_of_scalar rfl]
      cases y <;> simp [denote, asNumber]
  | float value number =>
      rw [clash_iff_of_scalar rfl]
      cases y <;> simp [denote, asNumber]
  | string value =>
      rw [clash_iff_of_scalar rfl]
      cases y <;> simp [denote, asNumber]
  | array items each ih =>
      cases y with
      | array items' =>
          simp only [denote, JsonValue.array.injEq, denoteItems_eq_iff, not_clash_array,
            ← itemsAgree_and]
          exact itemsAgree_congr fun x member y _ => ih x member
      | _ => simp [denote, asNumber]
  | object members each names ih =>
      cases y with
      | object members' =>
          simp only [denote, JsonValue.object.injEq, denoteMembers_eq_iff, not_clash_object,
            ← membersAgree_and]
          exact membersAgree_congr fun m member n _ => ih m member
      | _ => simp [denote, asNumber]

/-- The comparison tests sameness exactly where it is not misled by a boolean. -/
theorem equals_same_iff {v w : Json} (proper : Proper v) (proper' : Proper w) :
    (equals w v = true ↔ Same v w) ↔ ¬ (SameAsNumbers v w ∧ Clash v w) := by
  have compared : equals w v = true ↔ SameAsNumbers v w := by
    rw [equals_iff proper' proper, SameAsNumbers, SameAsNumbers, eq_comm]
  rw [compared, same_iff proper]
  tauto

end Json

namespace Criteria

/-- The criteria other than the one on JSON hold. -/
structure AcceptsRest (c : Criteria) (headers : Headers) (query : Query) (body : Bytes) :
    Prop where
  bytes : c.matchesBody body = true
  headers : c.matchesHeaders headers = true
  query : c.matchesQuery query = true

variable {loads : JsonLoads} {c : Criteria} {headers : Headers} {query : Query} {body : Bytes}

theorem check_json_iff {w : Json} (given : c.json ≠ .null) (decoded : loads body = .ok w)
    (rest : c.AcceptsRest headers query body) :
    c.check loads headers query body = .ok true ↔ w.equals c.json = true := by
  have some : c.json.isNone = false := by
    cases json : c.json with
    | null => exact absurd json given
    | _ => rfl
  have checked : c.check loads headers query body = .ok (w.equals c.json) := by
    rw [check, rest.bytes, rest.headers, rest.query, matchesJson, some, decoded]
    simp [bind, Except.bind, pure, Except.pure]
  rw [checked, Except.ok.injEq]

end Criteria

/-- The criterion on JSON of a route, and of an assertion, tests that the body is of the
expected value exactly where no boolean stands for its number. -/
theorem criteria_testJson_iff (loads : JsonLoads) (c : Criteria) (w : Json)
    (given : c.json ≠ .null) (proper : c.json.Proper) (proper' : w.Proper) :
    (∀ (request : Request) (body : Bytes), loads body = .ok w →
      c.AcceptsRest request.headers request.query body →
      ((Match.matchesRequest loads ⟨c⟩ request body = .ok true ↔ c.json.Same w) ↔
        ¬ (c.json.SameAsNumbers w ∧ c.json.Clash w))) ∧
    ∀ call : RecordedRequest, loads call.body = .ok w →
      c.AcceptsRest call.headers call.query call.body →
      ((callMatches loads c call = .ok true ↔ c.json.Same w) ↔
        ¬ (c.json.SameAsNumbers w ∧ c.json.Clash w)) := by
  constructor
  · intro request body decoded rest
    rw [Match.matchesRequest_eq, Criteria.check_json_iff given decoded rest]
    exact Json.equals_same_iff proper proper'
  · intro call decoded rest
    rw [callMatches_eq, Criteria.check_json_iff given decoded rest]
    exact Json.equals_same_iff proper proper'

namespace Sample

/-- A number is expected. -/
def numberCriteria : Criteria := { json := .object [("a", .int 1)] }

/-- `{"a": true}` -/
def truth : Json := .object [("a", .bool true)]

/-- `json.loads` of the text `{"a":true}`. -/
def truthLoads : JsonLoads
  | [0x7B, 0x22, 0x61, 0x22, 0x3A, 0x74, 0x72, 0x75, 0x65, 0x7D] => .ok truth
  | _ => .error (.jsonDecodeError "Expecting value: line 1 column 1 (char 0)")

def truthBody : Bytes := [0x7B, 0x22, 0x61, 0x22, 0x3A, 0x74, 0x72, 0x75, 0x65, 0x7D]

def truthRequest : Request :=
  ⟨"POST", ⟨"http://mock/items", "http", "/items"⟩, "/items", [], [], []⟩

theorem proper_numberCriteria : numberCriteria.json.Proper := by
  refine .object _ (fun m member => ?_) (List.nodup_singleton "a")
  rw [List.mem_singleton.mp member]
  exact .int 1

theorem proper_truth : truth.Proper := by
  refine .object _ (fun m member => ?_) (List.nodup_singleton "a")
  rw [List.mem_singleton.mp member]
  exact .bool true

end Sample

theorem criteria_testJson_iff_sample :
    (Match.matchesRequest Sample.truthLoads ⟨Sample.numberCriteria⟩ Sample.truthRequest
        Sample.truthBody = .ok true ↔ Sample.numberCriteria.json.Same Sample.truth) ↔
      ¬ (Sample.numberCriteria.json.SameAsNumbers Sample.truth ∧
        Sample.numberCriteria.json.Clash Sample.truth) :=
  (criteria_testJson_iff Sample.truthLoads Sample.numberCriteria Sample.truth nofun
    Sample.proper_numberCriteria Sample.proper_truth).1 Sample.truthRequest Sample.truthBody rfl
    ⟨rfl, rfl, rfl⟩

/-- `true` is accepted where the number 1 is expected. -/
theorem criteria_testJson_fails :
    ¬ (Match.matchesRequest Sample.truthLoads ⟨Sample.numberCriteria⟩ Sample.truthRequest
        Sample.truthBody = .ok true ↔ Sample.numberCriteria.json.Same Sample.truth) ∧
      ¬ (callMatches Sample.truthLoads Sample.numberCriteria
        (.ofRequest Sample.truthRequest [] Sample.truthBody "truth") = .ok true ↔
          Sample.numberCriteria.json.Same Sample.truth) := by
  have differ : ¬ Sample.numberCriteria.json.Same Sample.truth := by
    intro same
    have member := congrFun (JsonValue.object.inj same) "a"
    cases Option.some.inj member
  have accepted : Sample.truth.equals Sample.numberCriteria.json = true := by
    simp [Sample.truth, Sample.numberCriteria, Json.equals, Json.allFound, Json.numbersEqual,
      Json.number?, MultiDict.get?_cons]
  constructor
  · rw [Match.matchesRequest_eq, Criteria.check_json_iff (c := Sample.numberCriteria) nofun rfl
      ⟨rfl, rfl, rfl⟩]
    exact fun same => differ (same.mp accepted)
  · rw [callMatches_eq, Criteria.check_json_iff (c := Sample.numberCriteria) nofun rfl
      ⟨rfl, rfl, rfl⟩]
    exact fun same => differ (same.mp accepted)

end Asyncly
