import Asyncly.Lib.Runs
import Asyncly.Lib.Stateful
import Asyncly.Python.Exceptions

/-!
# A sequence of responses

A call on a `SequenceResponse` picks its response before it awaits anything. What the
response does then, and how long it takes, does not touch the sequence: the calls are
served in the order in which they have picked.
-/

namespace Asyncly

variable {R S : Type}

def Exn.sequenceExhausted (text : String) : Exn :=
  .raised {
    mro := [.other "SequenceExhausted", .other "SrvMockerError", .exception, .baseException]
    text := text }

inductive OnExhausted
  | raise | cycle | last
  deriving DecidableEq

structure SequenceResponse (R : Type) where
  responses : List R
  nonempty : responses ≠ []
  onExhausted : OnExhausted
  index : Nat

namespace SequenceResponse

/-- `SequenceResponse(responses, on_exhausted)` -/
def init (responses : List R) (onExhausted : OnExhausted := .raise) :
    Except Exn (SequenceResponse R) :=
  if nonempty : responses ≠ [] then .ok ⟨responses, nonempty, onExhausted, 0⟩
  else .error (.valueError "SequenceResponse requires at least one response")

/-- The `SequenceExhausted` of a sequence. -/
def exhausted (sequence : SequenceResponse R) : Exn :=
  .sequenceExhausted s!"SequenceResponse exhausted after {sequence.responses.length} response(s)"

/-- `responses[index % len(responses)]` -/
def wrapped (sequence : SequenceResponse R) (index : Nat) : R :=
  sequence.responses.get
    ⟨index % sequence.responses.length,
      Nat.mod_lt _ (List.length_pos_iff.mpr sequence.nonempty)⟩

/-- `_pick` -/
def pick : Stateful (SequenceResponse R) Exn R := do
  let sequence ← get
  if within : sequence.index < sequence.responses.length then
    set { sequence with index := sequence.index + 1 }
    pure (sequence.responses.get ⟨sequence.index, within⟩)
  else
    match sequence.onExhausted with
    | .raise => throw sequence.exhausted
    | .cycle => do
        set { sequence with index := sequence.index + 1 }
        pure (sequence.wrapped sequence.index)
    | .last => pure (sequence.responses.getLast sequence.nonempty)

/-- What is due to the call of a number, the first of which is zero. -/
def due (sequence : SequenceResponse R) (k : Nat) : Except Exn R :=
  if within : k < sequence.responses.length then .ok (sequence.responses.get ⟨k, within⟩)
  else
    match sequence.onExhausted with
    | .raise => .error sequence.exhausted
    | .cycle => .ok (sequence.wrapped k)
    | .last => .ok (sequence.responses.getLast sequence.nonempty)

/-- What the call of a number uses of the responses a sequence is made with: the one of its own
number, and after the last of them what the mode says. -/
structure Uses (responses : List R) (onExhausted : OnExhausted) (k : Nat)
    (picked : Except Exn R) : Prop where
  direct : k < responses.length → responses[k]?.map .ok = some picked
  raises : responses.length ≤ k → onExhausted = .raise → picked = .error (.sequenceExhausted
    s!"SequenceResponse exhausted after {responses.length} response(s)")
  cycles : responses.length ≤ k → onExhausted = .cycle →
    responses[k % responses.length]?.map .ok = some picked
  last : responses.length ≤ k → onExhausted = .last →
    responses[responses.length - 1]?.map .ok = some picked

/-- What is due to a call is what its number says. -/
theorem uses_due (sequence : SequenceResponse R) (k : Nat) :
    Uses sequence.responses sequence.onExhausted k (sequence.due k) := by
  obtain ⟨responses, nonempty, onExhausted, index⟩ := sequence
  have positive : 0 < responses.length := List.length_pos_iff.mpr nonempty
  refine ⟨fun within => ?_, fun beyond mode => ?_, fun beyond mode => ?_, fun beyond mode => ?_⟩
  · rw [due, dif_pos within, List.getElem?_eq_getElem within]
    rfl
  · obtain rfl : onExhausted = .raise := mode
    rw [due, dif_neg (Nat.not_lt.mpr beyond)]
    rfl
  · obtain rfl : onExhausted = .cycle := mode
    rw [due, dif_neg (Nat.not_lt.mpr beyond), List.getElem?_eq_getElem (Nat.mod_lt k positive)]
    rfl
  · obtain rfl : onExhausted = .last := mode
    rw [due, dif_neg (Nat.not_lt.mpr beyond), List.getLast_eq_getElem,
      List.getElem?_eq_getElem (Nat.sub_lt positive Nat.zero_lt_one)]
    rfl

/-- The sequence after a number of calls: it goes on counting only where it cycles. -/
def after (sequence : SequenceResponse R) (calls : Nat) : SequenceResponse R :=
  { sequence with
    index :=
      match sequence.onExhausted with
      | .cycle => calls
      | _ => min calls sequence.responses.length }

theorem after_zero {sequence : SequenceResponse R} (fresh : sequence.index = 0) :
    sequence.after 0 = sequence := by
  obtain ⟨responses, nonempty, onExhausted, index⟩ := sequence
  subst fresh
  cases onExhausted <;> simp [after]

theorem call_pick_within {sequence : SequenceResponse R}
    (within : sequence.index < sequence.responses.length) :
    pick.call sequence = (.ok (sequence.responses.get ⟨sequence.index, within⟩),
      { sequence with index := sequence.index + 1 }) := by
  rw [pick, Stateful.call_get_bind, dif_pos within]
  rfl

theorem call_pick_beyond {sequence : SequenceResponse R}
    (beyond : ¬ sequence.index < sequence.responses.length) :
    pick.call sequence =
      match sequence.onExhausted with
      | .raise => (.error sequence.exhausted, sequence)
      | .cycle => (.ok (sequence.wrapped sequence.index),
          { sequence with index := sequence.index + 1 })
      | .last => (.ok (sequence.responses.getLast sequence.nonempty), sequence) := by
  rw [pick, Stateful.call_get_bind, dif_neg beyond]
  cases sequence.onExhausted <;> rfl

/-- The next call picks what is due to it. -/
theorem call_pick_after (sequence : SequenceResponse R) (calls : Nat) :
    pick.call (sequence.after calls) = (sequence.due calls, sequence.after (calls + 1)) := by
  obtain ⟨responses, nonempty, onExhausted, index⟩ := sequence
  by_cases within : calls < responses.length
  · have stay : min calls responses.length = calls := min_eq_left within.le
    have next : min (calls + 1) responses.length = calls + 1 := min_eq_left within
    cases onExhausted with
    | cycle =>
        rw [call_pick_within within, due, dif_pos within]
        rfl
    | raise | last =>
        simp only [after, due, stay, next, dif_pos within]
        exact call_pick_within within
  · have stay : min calls responses.length = responses.length := by omega
    have next : min (calls + 1) responses.length = responses.length := by omega
    cases onExhausted with
    | cycle =>
        rw [call_pick_beyond within, due, dif_neg within]
        rfl
    | raise | last =>
        simp only [after, due, stay, next, dif_neg within]
        exact call_pick_beyond (lt_irrefl _)

end SequenceResponse

/-! ### Concurrent calls -/

/-- A call of `response`: what it has picked, and its end once it has one. -/
structure SequenceCall (R S : Type) where
  picked : Except Exn R
  ended : Option (Except Exn S)

/-- A sequence and the calls on it, in the order in which they have picked. -/
structure SequenceServer (R S : Type) where
  sequence : SequenceResponse R
  calls : List (SequenceCall R S)

inductive SequenceEvent (S : Type)
  /-- A request enters `response`, which runs up to the wrapped response. -/
  | call
  /-- The wrapped response of a call goes on: it waits again, or it has returned, has
  failed or was cancelled. -/
  | resume (i : Nat) (ended : Option (Except Exn S))

namespace SequenceCall

/-- A call that has picked; it ends at once when there was nothing to pick. -/
def ofPicked (picked : Except Exn R) : SequenceCall R S where
  picked := picked
  ended :=
    match picked with
    | .ok _ => none
    | .error exc => some (.error exc)

/-- The wrapped response goes on, unless the call has ended. -/
def resume (ended : Option (Except Exn S)) (call : SequenceCall R S) : SequenceCall R S :=
  { call with ended := call.ended <|> ended }

end SequenceCall

def SequenceEvent.isCall : SequenceEvent S → Bool
  | call => true
  | resume _ _ => false

namespace SequenceServer

/-- A step of the server. -/
def step (s : SequenceServer R S) : SequenceEvent S → SequenceServer R S
  | .call =>
      let (picked, sequence) := SequenceResponse.pick.call s.sequence
      ⟨sequence, s.calls ++ [.ofPicked picked]⟩
  | .resume i ended => { s with calls := s.calls.modify i (SequenceCall.resume ended) }

/-- All calls have picked what was due to them, and the sequence has counted them. -/
structure Serves (sequence : SequenceResponse R) (s : SequenceServer R S) : Prop where
  counted : s.sequence = sequence.after s.calls.length
  picked : s.calls.map SequenceCall.picked = (List.range s.calls.length).map sequence.due

open SequenceResponse (Uses)

variable {sequence : SequenceResponse R} {s : SequenceServer R S}

theorem Serves.step (h : s.Serves sequence) (event : SequenceEvent S) :
    (s.step event).Serves sequence := by
  cases event with
  | call =>
      rw [SequenceServer.step, h.counted, sequence.call_pick_after]
      refine ⟨?_, ?_⟩
      · rw [List.length_append, List.length_singleton]
      · rw [List.map_append, h.picked, List.length_append, List.length_singleton,
          List.range_succ, List.map_append]
        rfl
  | resume i ended =>
      have keeps : ∀ call : SequenceCall R S, (call.resume ended).picked = call.picked :=
        fun _ => rfl
      have kept : (s.calls.modify i (SequenceCall.resume ended)).map SequenceCall.picked =
          s.calls.map SequenceCall.picked :=
        Runs.map_modify keeps i
      refine ⟨?_, ?_⟩
      · rw [SequenceServer.step, List.length_modify]
        exact h.counted
      · rw [SequenceServer.step, List.length_modify, kept]
        exact h.picked

theorem length_calls_run (s : SequenceServer R S) (events : List (SequenceEvent S)) :
    (Runs.run SequenceServer.step s events).calls.length =
      s.calls.length + events.countP SequenceEvent.isCall := by
  induction events generalizing s with
  | nil => rfl
  | cons event rest ih =>
      rw [Runs.run, List.foldl_cons, ← Runs.run, ih]
      cases event with
      | call =>
          rw [SequenceServer.step, List.length_append, List.countP_cons_of_pos rfl]
          exact Nat.add_right_comm s.calls.length 1 _
      | resume i ended =>
          rw [SequenceServer.step, List.length_modify, List.countP_cons_of_neg Bool.false_ne_true]

theorem index_of_init {responses : List R} {onExhausted : OnExhausted}
    (made : SequenceResponse.init responses onExhausted = .ok sequence) :
    sequence.responses = responses ∧ sequence.onExhausted = onExhausted ∧ sequence.index = 0 := by
  rw [SequenceResponse.init] at made
  split at made
  · rw [← Except.ok.inj made]
    exact ⟨rfl, rfl, rfl⟩
  · cases made

/-- However the calls on a sequence are interleaved and whatever becomes of them, each uses of
the responses the sequence was made with what its number says. -/
theorem run_picks {responses : List R} (nonempty : responses ≠ []) (onExhausted : OnExhausted)
    (events : List (SequenceEvent S)) :
    ∃ sequence, SequenceResponse.init responses onExhausted = .ok sequence ∧
      let calls := (Runs.run SequenceServer.step ⟨sequence, []⟩ events).calls
      calls.length = events.countP SequenceEvent.isCall ∧
        ∀ k call, calls[k]? = some call → Uses responses onExhausted k call.picked := by
  obtain ⟨sequence, made⟩ : ∃ sequence, SequenceResponse.init responses onExhausted =
      .ok sequence := ⟨_, dif_pos nonempty⟩
  refine ⟨sequence, made, ?_⟩
  intro calls
  obtain ⟨rfl, rfl, fresh⟩ := index_of_init made
  have start : Serves sequence (⟨sequence, []⟩ : SequenceServer R S) :=
    ⟨(SequenceResponse.after_zero fresh).symm, rfl⟩
  have preserved : ∀ (s : SequenceServer R S) event, s.Serves sequence →
      (SequenceServer.step s event).Serves sequence :=
    fun _ event served => served.step event
  have served := Runs.run_invariant preserved start events
  have count := length_calls_run (⟨sequence, []⟩ : SequenceServer R S) events
  rw [List.length_nil, Nat.zero_add] at count
  refine ⟨count, fun k call at_k => ?_⟩
  have within : k < calls.length := (List.getElem?_eq_some_iff.mp at_k).1
  have picked : (calls.map SequenceCall.picked)[k]? = some call.picked := by
    rw [List.getElem?_map, at_k, Option.map_some]
  rw [served.picked, List.getElem?_map, List.getElem?_range within, Option.map_some,
    Option.some.injEq] at picked
  exact picked ▸ sequence.uses_due k

/-- Two responses, the first of which fails after the second call has picked. -/
theorem run_picks_sample :
    ∃ sequence, SequenceResponse.init ["503", "200"] .cycle = .ok sequence ∧
      let calls := (Runs.run SequenceServer.step (⟨sequence, []⟩ : SequenceServer String String)
        [.call, .call, .resume 0 (some (.error (.runtimeError "cut"))), .call]).calls
      calls.length = 3 ∧
        ∀ k call, calls[k]? = some call → Uses ["503", "200"] .cycle k call.picked :=
  run_picks (by decide) .cycle
    [.call, .call, .resume 0 (some (.error (.runtimeError "cut"))), .call]

end SequenceServer

end Asyncly
