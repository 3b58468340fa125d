import Asyncly.Client.Middlewares
import Asyncly.Client.RetryDecision

/-!
# Bodies that can be sent once

Whether a `data` argument may be sent again is decided by a walk over its mappings and
pairs. The walk is compared with the leaves of the argument, and the loop is shown to
stop after the first attempt when one of them is used up by it, whatever the attempt
comes to.
-/

namespace Asyncly

variable {B V : Type}

/-- The kinds of values that give the same bytes each time they are read. -/
def reusableKinds : List LeafKind :=
  [.none, .str, .bytes, .bytearray, .memoryview, .int, .float, .bool]

/-- The leaves of a `data` argument: the argument itself, or what the values of its
mappings and the second components of its pairs lead to. -/
inductive Payload.Leaf : Payload → LeafKind → Prop
  | self (kind : LeafKind) : Leaf (.leaf kind) kind
  | value {values : List Payload} {value : Payload} {kind : LeafKind}
      (member : value ∈ values) (below : Leaf value kind) : Leaf (.mapping values) kind
  | second {items : List Payload} {first second : Payload} {kind : LeafKind}
      (member : .sequence [first, second] ∈ items) (below : Leaf second kind) :
      Leaf (.sequence items) kind

/-! ### The walk over the leaves -/

theorem LeafKind.replayable_iff (kind : LeafKind) :
    kind.replayable = true ↔ kind ∈ reusableKinds := by
  cases kind <;> decide

theorem isReplayableData_of_mem {values : List Payload} {value : Payload}
    (member : value ∈ values) (replayable : allReplayable values = true) :
    isReplayableData value = true := by
  induction values with
  | nil => cases member
  | cons head rest ih =>
      simp only [allReplayable, Bool.and_eq_true] at replayable
      rcases List.mem_cons.mp member with rfl | later
      · exact replayable.1
      · exact ih later replayable.2

theorem isReplayableData_of_pair {items : List Payload} {first second : Payload}
    (member : .sequence [first, second] ∈ items) (replayable : allPairsReplayable items = true) :
    isReplayableData second = true := by
  induction items with
  | nil => cases member
  | cons head rest ih =>
      rcases List.mem_cons.mp member with rfl | later
      · simp only [allPairsReplayable, Bool.and_eq_true] at replayable
        exact replayable.1
      · apply ih later
        rw [allPairsReplayable.eq_def] at replayable
        split at replayable
        · rename_i none
          cases none
        · rename_i same
          cases same
          exact ((Bool.and_eq_true _ _).mp replayable).2
        · cases replayable

/-- A replayable argument has reusable leaves only. -/
theorem Payload.Leaf.reusable {data : Payload} {kind : LeafKind} (leaf : data.Leaf kind)
    (replayable : isReplayableData data = true) : kind ∈ reusableKinds := by
  induction leaf with
  | self kind => exact kind.replayable_iff.mp (by simpa [isReplayableData] using replayable)
  | value member below ih =>
      rw [isReplayableData] at replayable
      exact ih (isReplayableData_of_mem member replayable)
  | second member below ih =>
      rw [isReplayableData] at replayable
      exact ih (isReplayableData_of_pair member replayable)

/-! ### The loop -/

namespace RetrySeries

variable {s : RetrySeries B V}

/-- A body that is not replayable ends the loop with the first attempt. -/
theorem loop_of_not_replayable (single : s.replayable = false) :
    attemptsMade s.loop = 1 := by
  have budget : 1 ≤ s.policy.maxAttempts := s.policy.maxAttempts_pos
  obtain ⟨r, leaves⟩ : ∃ r, (s.iteration 1).exit? = some r := by
    rw [← Option.ne_none_iff_exists']
    intro continues
    obtain ⟨context, same, -, should⟩ := shouldRetry_of_continues (Nat.le_refl 1) budget continues
    simp [RetryPolicy.shouldRetry, same, single] at should
  have none (j : Nat) (h₁ : 1 ≤ j) (before : j < 1) : (s.iteration j).exit? = none := by omega
  exact attemptsMade_of_exit (Nat.le_refl 1) budget none leaves

end RetrySeries

/-! ### The calls of a client -/

theorem normalizeAuthKwargs_data {rt : Runtime} {kwargs out : Kwargs}
    {defaultProxyAuth : Option BasicAuth}
    (prepared : normalizeAuthKwargs rt kwargs defaultProxyAuth = .ok out) :
    out.data = kwargs.data := by
  obtain ⟨headers, -, branches⟩ := normalizeAuthKwargs_branches prepared
  rcases branches with
    ⟨-, -, rfl⟩ | ⟨value, -, rfl⟩ | ⟨auth, value, -, -, -, rfl⟩ |
      ⟨auth, encoded, -, -, -, -, rfl⟩
  · rfl
  · rfl
  · rfl
  · rfl

/-- A call whose body has a leaf that is used up by reading it makes at most one attempt,
and a body that is called replayable has none. -/
theorem BaseHttpClient.makeReq_singleUse (rt : Runtime) (client : BaseHttpClient)
    (world : World B) (call : CallArgs B V) {data : Payload}
    (given : call.kwargs.data = some data) :
    ((∃ kind, data.Leaf kind ∧ kind ∉ reusableKinds) →
      attemptsMade (client.makeReq rt world call) ≤ 1) ∧
    (isReplayableData data = true → ∀ kind, data.Leaf kind → kind ∈ reusableKinds) := by
  refine ⟨?_, fun replayable kind leaf => leaf.reusable replayable⟩
  rintro ⟨kind, leaf, used⟩
  have single : isReplayableData data = false := by
    by_contra replayable
    exact used (leaf.reusable (by simpa using replayable))
  cases prepared : normalizeAuthKwargs rt (client.injectProxy call.kwargs) client.proxyAuth with
  | error exc =>
      rw [BaseHttpClient.makeReq_of_refused rt prepared]
      exact Nat.zero_le 1
  | ok kwargs =>
      have kept : kwargs.data = some data := by
        obtain ⟨proxy, injected⟩ := client.injectProxy_eq call.kwargs
        rw [normalizeAuthKwargs_data prepared, injected]
        exact given
      cases retry : call.retry with
      | none =>
          have one : client.makeReq rt world call =
              baseAttempt world client.clientName (call.requestArgs kwargs) := by
            simp only [BaseHttpClient.makeReq, Asyncly.makeReq, prepared, retry,
              Traced.ofExcept_ok_bind]
          rw [one, attemptsMade, baseAttempt,
            filterMap_requestOnce fun _ => Effect.request?_eq_none]
          exact Nat.le_refl 1
      | some policy =>
          rw [BaseHttpClient.makeReq_eq_loop prepared retry]
          refine Nat.le_of_eq (RetrySeries.loop_of_not_replayable ?_)
          simp [BaseHttpClient.series, isRequestReplayable, kept, single]

/-- A form whose second field is an open file. -/
def Sample.upload : Payload :=
  .sequence [.sequence [.leaf .str, .leaf .str], .sequence [.leaf .str, .leaf .other]]

theorem BaseHttpClient.makeReq_singleUse_sample :
    let call : CallArgs Unit Nat :=
      { Sample.retried with
        retry := some (Sample.policy 2), kwargs := { data := some Sample.upload } }
    attemptsMade (Sample.client.makeReq Sample.runtime
      (Sample.world fun _ => .ok (Sample.response 503)) call) ≤ 1 := by
  intro call
  have file : Sample.upload.Leaf .other :=
    .second (List.mem_cons_of_mem _ (List.mem_singleton_self _)) (.self .other)
  exact (BaseHttpClient.makeReq_singleUse _ _ _ call rfl).1 ⟨.other, file, by decide⟩

end Asyncly
