import Asyncly.Lib.Traced
import Asyncly.Srvmocker.Content
import Asyncly.Srvmocker.Sequence
import Mathlib.Data.Nat.ModEq

/-!
# Responses in responses

A mock response is made of others: a latency wraps one, a sequence hands its calls out to
several, and each of these may be a sequence again. Sequences are objects: a call moves the
positions of those on its way down, and one that stands in two places moves in both. Where
none does, a response is a stream from the outside: what the call of a number gets can be
told from the number, without the calls before it.
-/

namespace Asyncly

variable {B : Type}

/-! ### What goes over the connection -/

/-- What a handler does before it returns. -/
inductive WireEffect
  | sleep (seconds : Binary64)
  /-- `response.prepare(request)` -/
  | prepare (status : Int) (headers : Headers) (contentLength : Int)
  | write (body : Bytes)
  /-- `transport.abort()` -/
  | abort
  /-- `transport.close()` -/
  | close

/-- What a handler returns: a response the server has still to send, one it has sent itself,
or the empty one. -/
inductive Returned (B : Type)
  | response (response : WebResponse B)
  | streamed
  | empty

/-- A handler run to its end. -/
abbrev Handling := Traced WireEffect Exn

def transportUnavailable : Exn := .runtimeError "request transport is unavailable"

/-- What `responses[index]` raises without such a response. -/
def indexOutOfRange : Exn :=
  .raised {
    mro := [.other "IndexError", .other "LookupError", .exception, .baseException]
    text := "list index out of range" }

/-- `RawResponse` -/
structure RawResponse (B : Type) where
  body : B
  status : Int := 200
  headers : Option HeaderMapping := none

/-- `RawResponse.response` -/
def RawResponse.response (raw : RawResponse B) : WebResponse B :=
  ⟨raw.status, raw.body, (raw.headers.map HeaderMapping.items).getD []⟩

/-- `TruncatedResponse`: more is declared than there is. -/
structure TruncatedResponse where
  body : Bytes
  declaredLength : Int
  status : Int
  headers : Headers
  longer : (body.length : Int) < declaredLength

/-- `TruncatedResponse(body, declared_length=..., status=..., headers=...)` -/
def TruncatedResponse.init (body : Bytes := []) (declaredLength : Option Int := none)
    (status : Int := 200) (headers : Option HeaderMapping := none) :
    Except Exn TruncatedResponse :=
  let length := declaredLength.getD (body.length + 1)
  if longer : (body.length : Int) < length then
    .ok ⟨body, length, status, (headers.map HeaderMapping.items).getD [], longer⟩
  else .error (.valueError "declared_length must be greater than the body length")

/-- `TruncatedResponse.response`, which finds the transport there or not. -/
def TruncatedResponse.reply (truncated : TruncatedResponse) (connected : Bool) :
    Handling (Returned B) := do
  Traced.emit (.prepare truncated.status truncated.headers truncated.declaredLength)
  if truncated.body ≠ [] then Traced.emit (.write truncated.body)
  if connected then
    Traced.emit .close
    pure .streamed
  else Traced.raise transportUnavailable

/-- `DisconnectResponse.response` -/
def disconnectReply (connected : Bool) : Handling (Returned B) :=
  if connected then do
    Traced.emit .abort
    pure .empty
  else Traced.raise transportUnavailable

/-- A mock response. A sequence is an object of its own, with a first response and the rest;
the others have no state. -/
inductive MockResponse (B : Type)
  | content (content : ContentResponse B)
  | raw (raw : RawResponse B)
  | disconnect
  | truncated (truncated : TruncatedResponse)
  | latency (wrapped : MockResponse B) (latency : Binary64)
  | sequence (object : Nat) (first : MockResponse B) (rest : List (MockResponse B))
      (onExhausted : OnExhausted)

/-- The `_index` of each sequence. -/
abbrev Indices := Nat → Nat

/-- `sleep(latency)`, and the reply after it. -/
def delay (latency : Binary64) (reply : Handling (Returned B)) : Handling (Returned B) := do
  Traced.emit (.sleep latency)
  reply

/-- A sequence as it picks from its responses, each known by its place. -/
def placesOf (count : Nat) (onExhausted : OnExhausted) (index : Nat) : SequenceResponse Nat where
  responses := List.range (count + 1)
  nonempty := by simp
  onExhausted := onExhausted
  index := index

namespace MockResponse

mutual

/-- `response(request)`, and the positions as the call leaves them. -/
def serve (connected : Bool) : MockResponse B → Indices → Handling (Returned B) × Indices
  | .content given, indices => (Traced.ofExcept (given.response.map .response), indices)
  | .raw given, indices => (pure (.response given.response), indices)
  | .disconnect, indices => (disconnectReply connected, indices)
  | .truncated given, indices => (given.reply connected, indices)
  | .latency wrapped seconds, indices =>
      let (reply, indices) := serve connected wrapped indices
      (delay seconds reply, indices)
  | .sequence object first rest onExhausted, indices =>
      match SequenceResponse.pick.call (placesOf rest.length onExhausted (indices object)) with
      | (.error exc, places) =>
          (Traced.raise exc, Function.update indices object places.index)
      | (.ok 0, places) => serve connected first (Function.update indices object places.index)
      | (.ok (i + 1), places) =>
          serveAt connected rest i (Function.update indices object places.index)

/-- The call of one of several responses. -/
def serveAt (connected : Bool) :
    List (MockResponse B) → Nat → Indices → Handling (Returned B) × Indices
  | [], _, indices => (Traced.raise indexOutOfRange, indices)
  | response :: _, 0, indices => serve connected response indices
  | _ :: rest, i + 1, indices => serveAt connected rest i indices

end

/-- Calls one after the other. -/
def replies (response : MockResponse B) : Indices → List Bool → List (Handling (Returned B))
  | _, [] => []
  | indices, connected :: rest =>
      let (reply, indices) := response.serve connected indices
      reply :: response.replies indices rest

mutual

/-- The sequences a response is made of, each as often as it stands there. -/
def objects : MockResponse B → List Nat
  | .latency wrapped _ => objects wrapped
  | .sequence object first rest _ => object :: (objects first ++ allObjects rest)
  | _ => []

def allObjects : List (MockResponse B) → List Nat
  | [] => []
  | response :: rest => objects response ++ allObjects rest

end

/-- No call has been made of the sequences of a response. -/
def Fresh (response : MockResponse B) (indices : Indices) : Prop :=
  ∀ object ∈ response.objects, indices object = 0

end MockResponse

/-! ### Taking turns -/

namespace OnExhausted

/-- Which of several responses the call of a number goes to, and the number it has there. -/
def turn (onExhausted : OnExhausted) (count k : Nat) : Option (Nat × Nat) :=
  if k < count then some (k, 0)
  else
    match onExhausted with
    | .raise => none
    | .cycle => some (k % count, k / count)
    | .last => some (count - 1, k - (count - 1))

/-- How many of the first calls have gone to one of the responses. -/
def taken (onExhausted : OnExhausted) (count i k : Nat) : Nat :=
  match onExhausted with
  | .raise => if i < k then 1 else 0
  | .cycle => (k + (count - 1 - i)) / count
  | .last => if i = count - 1 then k - (count - 1) else if i < k then 1 else 0

variable {onExhausted : OnExhausted} {count i j k : Nat}

theorem taken_zero (positive : 0 < count) : onExhausted.taken count i 0 = 0 := by
  cases onExhausted with
  | raise => rfl
  | cycle => exact Nat.div_eq_of_lt (by omega)
  | last => simp [taken]

theorem turn_of_lt (within : k < count) : onExhausted.turn count k = some (k, 0) := if_pos within

theorem turn_of_le (beyond : count ≤ k) : onExhausted.turn count k =
    match onExhausted with
    | .raise => none
    | .cycle => some (k % count, k / count)
    | .last => some (count - 1, k - (count - 1)) := if_neg (Nat.not_lt.mpr beyond)

/-- A call goes to its response with the number of calls that went there before. -/
theorem taken_of_turn (positive : 0 < count) (goes : onExhausted.turn count k = some (i, j)) :
    i < count ∧ onExhausted.taken count i k = j := by
  rcases Nat.lt_or_ge k count with within | beyond
  · rw [turn_of_lt within] at goes
    obtain ⟨rfl, rfl⟩ := Prod.mk.inj (Option.some.inj goes)
    refine ⟨within, ?_⟩
    cases onExhausted with
    | raise => exact if_neg (lt_irrefl k)
    | cycle => exact Nat.div_eq_of_lt (by omega)
    | last =>
        simp only [taken]
        split_ifs <;> omega
  · rw [turn_of_le beyond] at goes
    cases onExhausted with
    | raise => cases goes
    | cycle =>
        obtain ⟨rfl, rfl⟩ := Prod.mk.inj (Option.some.inj goes)
        have place := Nat.mod_lt k positive
        refine ⟨place, ?_⟩
        have total : k + (count - 1 - k % count) = count - 1 + count * (k / count) := by
          have := Nat.div_add_mod k count
          omega
        rw [taken, total, Nat.add_mul_div_left _ _ positive, Nat.div_eq_of_lt (by omega),
          Nat.zero_add]
    | last =>
        obtain ⟨rfl, rfl⟩ := Prod.mk.inj (Option.some.inj goes)
        exact ⟨by omega, if_pos rfl⟩

/-- A cycle comes to its responses in turn. -/
theorem turn_cycle : (OnExhausted.cycle.turn count k).map Prod.fst = some (k % count) := by
  rcases Nat.lt_or_ge k count with within | beyond
  · rw [turn_of_lt within, Nat.mod_eq_of_lt within]
    rfl
  · rw [turn_of_le beyond]
    rfl

/-- The next call is one more for its response, and for no other. -/
theorem taken_succ (within : i < count) : onExhausted.taken count i (k + 1) =
    onExhausted.taken count i k +
      if (onExhausted.turn count k).map Prod.fst = some i then 1 else 0 := by
  cases onExhausted with
  | cycle =>
      have divides : count ∣ k + (count - 1 - i) + 1 ↔ k % count = i := by
        have sum : k + (count - 1 - i) + 1 = k + count - i := by omega
        rw [sum, ← Nat.modEq_iff_dvd' (by omega), Nat.ModEq, Nat.mod_eq_of_lt within,
          Nat.add_mod_right]
        exact eq_comm
      rw [turn_cycle, taken, taken, Nat.add_right_comm, Nat.succ_div]
      simp only [divides, Option.some.injEq]
  | raise =>
      simp only [taken]
      rcases Nat.lt_or_ge k count with early | beyond
      · simp only [turn_of_lt early, Option.map_some, Option.some.injEq]
        split_ifs <;> omega
      · simp only [turn_of_le beyond, Option.map_none, reduceCtorEq, if_false]
        split_ifs <;> omega
  | last =>
      simp only [taken]
      rcases Nat.lt_or_ge k count with early | beyond
      · simp only [turn_of_lt early, Option.map_some, Option.some.injEq]
        split_ifs <;> omega
      · simp only [turn_of_le beyond, Option.map_some, Option.some.injEq]
        split_ifs <;> omega

end OnExhausted

namespace MockResponse

mutual

/-- What the call of a number gets. -/
def stream (connected : Bool) : MockResponse B → Nat → Handling (Returned B)
  | .content given, _ => Traced.ofExcept (given.response.map .response)
  | .raw given, _ => pure (.response given.response)
  | .disconnect, _ => disconnectReply connected
  | .truncated given, _ => given.reply connected
  | .latency wrapped seconds, k => delay seconds (stream connected wrapped k)
  | .sequence _ first rest onExhausted, k =>
      match onExhausted.turn (rest.length + 1) k with
      | none => Traced.raise (placesOf rest.length onExhausted 0).exhausted
      | some (0, j) => stream connected first j
      | some (i + 1, j) => streamAt connected rest i j

/-- What the call of a number on one of several responses gets. -/
def streamAt (connected : Bool) : List (MockResponse B) → Nat → Nat → Handling (Returned B)
  | [], _, _ => Traced.raise indexOutOfRange
  | response :: _, 0, k => stream connected response k
  | _ :: rest, i + 1, k => streamAt connected rest i k

end

mutual

/-- The positions are those after a number of calls on the response. -/
def At : MockResponse B → Nat → Indices → Prop
  | .latency wrapped _, k, indices => At wrapped k indices
  | .sequence object first rest onExhausted, k, indices =>
      indices object = ((placesOf rest.length onExhausted 0).after k).index ∧
        At first (onExhausted.taken (rest.length + 1) 0 k) indices ∧
        AllAt rest (fun i => onExhausted.taken (rest.length + 1) (i + 1) k) indices
  | _, _, _ => True

/-- The same for several responses with as many calls as each of them has had. -/
def AllAt : List (MockResponse B) → (Nat → Nat) → Indices → Prop
  | [], _, _ => True
  | response :: rest, calls, indices =>
      At response (calls 0) indices ∧ AllAt rest (fun i => calls (i + 1)) indices

end

/-! ### A call serves the stream -/

/-- Of the places of a sequence, the one whose turn it is is due. -/
theorem due_placesOf (count : Nat) (onExhausted : OnExhausted) (index k : Nat) :
    (placesOf count onExhausted index).due k =
      match onExhausted.turn (count + 1) k with
      | none => .error (placesOf count onExhausted index).exhausted
      | some (i, _) => .ok i := by
  have length : (placesOf count onExhausted index).responses.length = count + 1 :=
    List.length_range
  rw [SequenceResponse.due]
  rcases Nat.lt_or_ge k (count + 1) with within | beyond
  · rw [dif_pos (length ▸ within), OnExhausted.turn_of_lt within]
    exact congrArg Except.ok (List.getElem_range _)
  · rw [dif_neg (length ▸ Nat.not_lt.mpr beyond), OnExhausted.turn_of_le beyond]
    cases onExhausted with
    | raise => rfl
    | cycle =>
        refine congrArg Except.ok ((List.getElem_range _).trans ?_)
        rw [length]
    | last =>
        exact congrArg Except.ok (List.getLast_range _)

/-- Only the numbers of calls matter. -/
theorem allAt_congr {responses : List (MockResponse B)} {calls calls' : Nat → Nat}
    {indices : Indices} (same : ∀ i < responses.length, calls i = calls' i) :
    AllAt responses calls indices ↔ AllAt responses calls' indices := by
  induction responses generalizing calls calls' with
  | nil => exact Iff.rfl
  | cons response rest ih =>
      rw [AllAt, AllAt, same 0 (Nat.zero_lt_succ _),
        ih fun i within => same (i + 1) (Nat.succ_lt_succ within)]

mutual

/-- And only the positions of its own sequences matter to a response. -/
theorem At.transport {indices indices' : Indices} : {response : MockResponse B} → {k : Nat} →
    response.At k indices → (∀ object ∈ response.objects, indices' object = indices object) →
    response.At k indices'
  | .content _, _, _, _ => trivial
  | .raw _, _, _, _ => trivial
  | .disconnect, _, _, _ => trivial
  | .truncated _, _, _, _ => trivial
  | .latency wrapped _, k, at_k, same =>
      @At.transport _ _ wrapped k at_k same
  | .sequence object first rest onExhausted, k, at_k, same => by
      rw [objects] at same
      obtain ⟨here, first, rest⟩ := at_k
      refine ⟨?_, At.transport first fun other member => ?_,
        AllAt.transport rest fun other member => ?_⟩
      · rw [same object (List.mem_cons_self ..), here]
      · exact same other (List.mem_cons_of_mem _ (List.mem_append_left _ member))
      · exact same other (List.mem_cons_of_mem _ (List.mem_append_right _ member))

theorem AllAt.transport {indices indices' : Indices} : {responses : List (MockResponse B)} →
    {calls : Nat → Nat} → AllAt responses calls indices →
    (∀ object ∈ allObjects responses, indices' object = indices object) →
    AllAt responses calls indices'
  | [], _, _, _ => trivial
  | response :: rest, calls, at_calls, same => by
      rw [allObjects] at same
      exact ⟨At.transport at_calls.1 fun other member =>
          same other (List.mem_append_left _ member),
        AllAt.transport at_calls.2 fun other member =>
          same other (List.mem_append_right _ member)⟩

end

/-- What a call leaves as it is. -/
structure Frames (objects : List Nat) (indices indices' : Indices) : Prop where
  others : ∀ object, object ∉ objects → indices' object = indices object

theorem Frames.refl {objects : List Nat} {indices : Indices} : Frames objects indices indices :=
  ⟨fun _ _ => rfl⟩

/-- The place of a sequence is not among its responses, nor is a response in two of them. -/
theorem nodup_sequence {object : Nat} {first : MockResponse B} {rest : List (MockResponse B)}
    {onExhausted : OnExhausted}
    (once : (MockResponse.sequence object first rest onExhausted).objects.Nodup) :
    object ∉ objects first ∧ object ∉ allObjects rest ∧ (objects first).Nodup ∧
      (allObjects rest).Nodup ∧ (objects first).Disjoint (allObjects rest) := by
  rw [objects, List.nodup_cons, List.mem_append, not_or] at once
  obtain ⟨⟨first, rest⟩, parts⟩ := once
  obtain ⟨nodupFirst, nodupRest, disjoint⟩ := List.nodup_append'.mp parts
  exact ⟨first, rest, nodupFirst, nodupRest, disjoint⟩

mutual

/-- The next call gets what the stream has for its number, where no sequence stands in two
places. -/
theorem serve_at (connected : Bool) {indices : Indices} : (response : MockResponse B) →
    (k : Nat) → response.objects.Nodup → response.At k indices →
    (response.serve connected indices).1 = response.stream connected k ∧
      response.At (k + 1) (response.serve connected indices).2 ∧
      Frames response.objects indices (response.serve connected indices).2
  | .content _, _, _, _ => ⟨rfl, trivial, .refl⟩
  | .raw _, _, _, _ => ⟨rfl, trivial, .refl⟩
  | .disconnect, _, _, _ => ⟨rfl, trivial, .refl⟩
  | .truncated _, _, _, _ => ⟨rfl, trivial, .refl⟩
  | .latency wrapped seconds, k, once, at_k => by
      obtain ⟨reply, next, frame⟩ := serve_at connected wrapped k once at_k
      exact ⟨congrArg (delay seconds) reply, next, frame⟩
  | .sequence object first rest onExhausted, k, once, at_k => by
      obtain ⟨notFirst, notRest, onceFirst, onceRest, apart⟩ := nodup_sequence once
      obtain ⟨position, atFirst, atRest⟩ := at_k
      have picked := (placesOf rest.length onExhausted 0).call_pick_after k
      rw [due_placesOf] at picked
      have places : placesOf rest.length onExhausted (indices object) =
          (placesOf rest.length onExhausted 0).after k := by
        rw [position]
        rfl
      have counted (i : Nat) (within : i < rest.length + 1) :
          onExhausted.taken (rest.length + 1) i (k + 1) =
            onExhausted.taken (rest.length + 1) i k +
              if (onExhausted.turn (rest.length + 1) k).map Prod.fst = some i then 1 else 0 :=
        OnExhausted.taken_succ within
      -- the position of the sequence itself moves first, and no call of its responses sees it
      let moved : Indices := Function.update indices object
        ((placesOf rest.length onExhausted 0).after (k + 1)).index
      have kept (other : Nat) (differs : other ≠ object) : moved other = indices other :=
        Function.update_of_ne differs _ _
      have atFirst' := At.transport atFirst fun other member =>
        show moved other = _ from kept other (ne_of_mem_of_not_mem member notFirst)
      have atRest' := AllAt.transport atRest fun other member =>
        show moved other = _ from kept other (ne_of_mem_of_not_mem member notRest)
      rw [serve, places, picked, stream]
      rcases goes : onExhausted.turn (rest.length + 1) k with _ | ⟨_ | i, j⟩
      · -- nothing is left, and no response is called
        rw [goes] at counted
        refine ⟨rfl, ⟨Function.update_self .., ?_, ?_⟩, ⟨fun other apart => ?_⟩⟩
        · rw [counted 0 (Nat.zero_lt_succ _)]
          exact atFirst'
        · exact (allAt_congr fun i within => counted (i + 1) (Nat.succ_lt_succ within)).mpr atRest'
        · exact kept other (ne_of_mem_of_not_mem (List.mem_cons_self ..) apart).symm
      · obtain ⟨-, number⟩ := OnExhausted.taken_of_turn (Nat.zero_lt_succ _) goes
        rw [goes] at counted
        rw [number] at atFirst'
        obtain ⟨reply, next, frame⟩ := serve_at connected first j onceFirst atFirst'
        refine ⟨reply, ⟨?_, ?_, ?_⟩, ⟨fun other outside => ?_⟩⟩
        · rw [frame.others object notFirst]
          exact Function.update_self ..
        · rw [counted 0 (Nat.zero_lt_succ _), number]
          exact next
        · refine (allAt_congr fun i within => counted (i + 1) (Nat.succ_lt_succ within)).mpr ?_
          exact AllAt.transport atRest' fun other member =>
            frame.others other fun inFirst => apart inFirst member
        · rw [objects, List.mem_cons, List.mem_append, not_or, not_or] at outside
          exact (frame.others other outside.2.1).trans (kept other outside.1)
      · obtain ⟨within, number⟩ := OnExhausted.taken_of_turn (Nat.zero_lt_succ _) goes
        rw [goes] at counted
        obtain ⟨reply, next, frame⟩ := serveAt_allAt connected rest _ i
          (Nat.lt_of_succ_lt_succ within) onceRest atRest'
        rw [number] at reply
        refine ⟨reply, ⟨?_, ?_, ?_⟩, ⟨fun other outside => ?_⟩⟩
        · rw [frame.others object notRest]
          exact Function.update_self ..
        · rw [counted 0 (Nat.zero_lt_succ _)]
          exact At.transport atFirst' fun other member =>
            frame.others other fun inRest => apart member inRest
        · refine (allAt_congr fun l within => ?_).mpr next
          rw [counted (l + 1) (Nat.succ_lt_succ within)]
          simp [eq_comm]
        · rw [objects, List.mem_cons, List.mem_append, not_or, not_or] at outside
          exact (frame.others other outside.2.2).trans (kept other outside.1)

/-- So does the next call of one of several responses, and the others stay as they are. -/
theorem serveAt_allAt (connected : Bool) {indices : Indices} :
    (responses : List (MockResponse B)) → (calls : Nat → Nat) → (i : Nat) →
    i < responses.length → (allObjects responses).Nodup → AllAt responses calls indices →
    (serveAt connected responses i indices).1 = streamAt connected responses i (calls i) ∧
      AllAt responses (fun j => calls j + if j = i then 1 else 0)
        (serveAt connected responses i indices).2 ∧
      Frames (allObjects responses) indices (serveAt connected responses i indices).2
  | response :: rest, calls, 0, _, once, at_calls => by
      rw [allObjects] at once
      obtain ⟨onceHere, -, apart⟩ := List.nodup_append'.mp once
      obtain ⟨reply, next, frame⟩ := serve_at connected response (calls 0) onceHere at_calls.1
      refine ⟨reply, ⟨next, ?_⟩, ⟨fun other outside => ?_⟩⟩
      · exact AllAt.transport at_calls.2 fun other member =>
          frame.others other fun here => apart here member
      · rw [allObjects, List.mem_append, not_or] at outside
        exact frame.others other outside.1
  | response :: rest, calls, i + 1, within, once, at_calls => by
      rw [allObjects] at once
      obtain ⟨-, onceRest, apart⟩ := List.nodup_append'.mp once
      obtain ⟨reply, next, frame⟩ := serveAt_allAt connected rest (fun j => calls (j + 1)) i
        (Nat.lt_of_succ_lt_succ within) onceRest at_calls.2
      refine ⟨reply, ⟨?_, ?_⟩, ⟨fun other outside => ?_⟩⟩
      · exact At.transport at_calls.1 fun other member =>
          frame.others other fun there => apart member there
      · rw [serveAt]
        simpa using next
      · rw [allObjects, List.mem_append, not_or] at outside
        exact frame.others other outside.2

end

mutual

/-- Before the first call the positions are those of no call. -/
theorem at_zero {indices : Indices} : (response : MockResponse B) → response.Fresh indices →
    response.At 0 indices
  | .content _, _ => trivial
  | .raw _, _ => trivial
  | .disconnect, _ => trivial
  | .truncated _, _ => trivial
  | .latency wrapped _, fresh => at_zero wrapped fresh
  | .sequence object first rest onExhausted, fresh => by
      rw [Fresh, objects] at fresh
      have none (i : Nat) : onExhausted.taken (rest.length + 1) i 0 = 0 :=
        OnExhausted.taken_zero (Nat.zero_lt_succ _)
      have unmoved : (placesOf rest.length onExhausted 0).after 0 =
          placesOf rest.length onExhausted 0 := SequenceResponse.after_zero rfl
      refine ⟨?_, ?_, (allAt_congr fun i _ => none (i + 1)).mpr (allAt_zero rest ?_)⟩
      · rw [unmoved, fresh object (List.mem_cons_self ..)]
        rfl
      · rw [none]
        exact at_zero first fun other member =>
          fresh other (List.mem_cons_of_mem _ (List.mem_append_left _ member))
      · exact fun other member =>
          fresh other (List.mem_cons_of_mem _ (List.mem_append_right _ member))

theorem allAt_zero {indices : Indices} : (responses : List (MockResponse B)) →
    (∀ object ∈ allObjects responses, indices object = 0) →
    AllAt responses (fun _ => 0) indices
  | [], _ => trivial
  | response :: rest, fresh => by
      rw [allObjects] at fresh
      exact ⟨at_zero response fun other member => fresh other (List.mem_append_left _ member),
        allAt_zero rest fun other member => fresh other (List.mem_append_right _ member)⟩

end

/-- Calls one after the other get what the stream has from their first number on. -/
theorem replies_at {response : MockResponse B} (once : response.objects.Nodup) {k : Nat}
    {indices : Indices} (at_k : response.At k indices) (calls : List Bool) :
    response.replies indices calls =
      calls.mapIdx fun i connected => response.stream connected (k + i) := by
  induction calls generalizing k indices with
  | nil => rfl
  | cons connected rest ih =>
      obtain ⟨reply, next, -⟩ := serve_at connected response k once at_k
      rw [replies, List.mapIdx_cons]
      dsimp only
      rw [reply, ih next]
      simp only [Nat.add_zero, Nat.add_assoc, Nat.add_comm 1]

end MockResponse

/-! ### What is sent -/

/-- The number of bytes written to the connection. -/
def written : List WireEffect → Nat
  | [] => 0
  | .write body :: rest => body.length + written rest
  | _ :: rest => written rest

/-- What a handler sends itself is never complete: it writes less than it has declared, and
nothing where it cuts the connection. -/
structure FallsShort (reply : Handling (Returned B)) : Prop where
  declared : ∀ before status headers length later,
    reply.log = before ++ .prepare status headers length :: later → (written later : Int) < length
  aborted : .abort ∈ reply.log → ∀ effect ∈ reply.log,
    effect = .abort ∨ ∃ seconds, effect = .sleep seconds

/-- A handler that sends nothing itself. -/
theorem fallsShort_of_silent {reply : Handling (Returned B)} (silent : reply.log = []) :
    FallsShort reply := by
  refine ⟨fun before _ _ _ _ sent => ?_, fun cut => ?_⟩
  · rw [silent] at sent
    exact absurd sent.symm (List.append_ne_nil_of_right_ne_nil before nofun)
  · rw [silent] at cut
    exact absurd cut List.not_mem_nil

theorem fallsShort_disconnect (connected : Bool) :
    FallsShort (disconnectReply connected : Handling (Returned B)) := by
  cases connected with
  | false => exact fallsShort_of_silent rfl
  | true =>
      refine ⟨fun before _ _ _ _ sent => ?_, fun _ effect member => ?_⟩
      · change [WireEffect.abort] = _ at sent
        rcases before with _ | ⟨effect, _ | ⟨_, _⟩⟩ <;> cases sent
      · exact .inl (List.mem_singleton.mp member)

/-- After the headers come the bytes there are, and the end of the connection. -/
theorem log_truncated (truncated : TruncatedResponse) (connected : Bool) :
    ∃ rest, (truncated.reply connected : Handling (Returned B)).log =
        .prepare truncated.status truncated.headers truncated.declaredLength :: rest ∧
      (∀ effect ∈ rest, effect = .write truncated.body ∨ effect = .close) ∧
      written rest = truncated.body.length := by
  obtain ⟨body, declaredLength, status, headers, longer⟩ := truncated
  cases body with
  | nil =>
      cases connected with
      | true => exact ⟨[.close], rfl, by simp, rfl⟩
      | false => exact ⟨[], rfl, by simp, rfl⟩
  | cons byte bytes =>
      cases connected with
      | true => exact ⟨[.write (byte :: bytes), .close], rfl, by simp, rfl⟩
      | false => exact ⟨[.write (byte :: bytes)], rfl, by simp, rfl⟩

theorem fallsShort_truncated (truncated : TruncatedResponse) (connected : Bool) :
    FallsShort (truncated.reply connected : Handling (Returned B)) := by
  obtain ⟨rest, log, kinds, count⟩ := log_truncated (B := B) truncated connected
  refine ⟨fun before status headers length later sent => ?_, fun cut => ?_⟩
  · rw [log] at sent
    cases before with
    | nil =>
        obtain ⟨⟨-, -, rfl⟩, rfl⟩ := List.cons.inj sent
        rw [count]
        exact truncated.longer
    | cons effect before =>
        obtain ⟨-, rfl⟩ := List.cons.inj sent
        rcases kinds _ (List.mem_append_right before (List.mem_cons_self ..)) with write | close
        · cases write
        · cases close
  · rw [log] at cut
    rcases kinds _ ((List.mem_cons.mp cut).resolve_left nofun) with write | close
    · cases write
    · cases close

theorem fallsShort_delay (seconds : Binary64) {reply : Handling (Returned B)}
    (short : FallsShort reply) : FallsShort (delay seconds reply) := by
  have log : (delay seconds reply).log = .sleep seconds :: reply.log := rfl
  refine ⟨fun before status headers length later sent => ?_, fun cut effect member => ?_⟩
  · rw [log] at sent
    cases before with
    | nil => cases sent
    | cons effect before => exact short.declared _ _ _ _ _ (List.cons.inj sent).2
  · rw [log] at cut member
    rcases List.mem_cons.mp member with slept | later
    · exact .inr ⟨seconds, slept⟩
    · exact short.aborted ((List.mem_cons.mp cut).resolve_left nofun) effect later

namespace MockResponse

mutual

theorem fallsShort_stream (connected : Bool) : (response : MockResponse B) → (k : Nat) →
    FallsShort (response.stream connected k)
  | .content _, _ => fallsShort_of_silent rfl
  | .raw _, _ => fallsShort_of_silent rfl
  | .disconnect, _ => fallsShort_disconnect connected
  | .truncated given, _ => fallsShort_truncated given connected
  | .latency wrapped seconds, k =>
      fallsShort_delay seconds (fallsShort_stream connected wrapped k)
  | .sequence _ first rest onExhausted, k => by
      rw [stream]
      rcases onExhausted.turn (rest.length + 1) k with _ | ⟨_ | i, j⟩
      · exact fallsShort_of_silent rfl
      · exact fallsShort_stream connected first j
      · exact fallsShort_streamAt connected rest i j

theorem fallsShort_streamAt (connected : Bool) : (responses : List (MockResponse B)) →
    (i k : Nat) → FallsShort (streamAt connected responses i k)
  | [], _, _ => fallsShort_of_silent rfl
  | response :: _, 0, k => fallsShort_stream connected response k
  | _ :: rest, i + 1, k => fallsShort_streamAt connected rest i k

end

/-- Whatever responses a mock response is made of, as long as no sequence stands there twice,
calls on it one after the other get the replies of its stream, and none of them is sent in
full by its handler. -/
theorem replies_eq_stream {response : MockResponse B} {indices : Indices}
    (once : response.objects.Nodup) (fresh : response.Fresh indices) (calls : List Bool) :
    (response.replies indices calls =
        calls.mapIdx fun k connected => response.stream connected k) ∧
      ∀ reply ∈ response.replies indices calls, FallsShort reply := by
  have served := replies_at once (at_zero response fresh) calls
  simp only [Nat.zero_add] at served
  refine ⟨served, fun reply member => ?_⟩
  rw [served] at member
  obtain ⟨k, within, rfl⟩ := List.mem_mapIdx.mp member
  exact fallsShort_stream _ response k

/-- A cycle of a slow response that breaks off and of a sequence that stays with its last
response; the transport of the third call is gone. -/
theorem replies_eq_stream_sample :
    let truncated : TruncatedResponse := ⟨[0x7B], 2, 200, [], by decide⟩
    let busy : MockResponse String :=
      .sequence 1 (.raw ⟨"busy", 503, none⟩) [.raw ⟨"done", 200, none⟩] .last
    let response : MockResponse String :=
      .sequence 0 (.latency (.truncated truncated) (.finite (1 / 2))) [busy] .cycle
    let calls := [true, true, false, true]
    (response.replies (fun _ => 0) calls =
        calls.mapIdx fun k connected => response.stream connected k) ∧
      ∀ reply ∈ response.replies (fun _ => 0) calls, FallsShort reply := by
  intro truncated busy response calls
  have once : response.objects = [0, 1] := rfl
  exact replies_eq_stream (by rw [once]; decide) (fun _ _ => rfl) calls

/-- One sequence in two places of a cycle: its second call gets its second response, where a
stream of its own would begin again. -/
example :
    let busy : MockResponse Nat := .sequence 1 (.raw ⟨0, 503, none⟩) [.raw ⟨7, 200, none⟩] .last
    let response : MockResponse Nat := .sequence 0 busy [busy] .cycle
    response.replies (fun _ => 0) [true, true] =
        [pure (.response ⟨503, 0, []⟩), pure (.response ⟨200, 7, []⟩)] ∧
      response.stream true 1 = pure (.response ⟨503, 0, []⟩) :=
  ⟨rfl, rfl⟩

end MockResponse

end Asyncly
