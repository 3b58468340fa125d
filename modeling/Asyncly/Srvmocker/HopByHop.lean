import Asyncly.Srvmocker.Proxy

/-!
# Fields for a single connection

Which fields of a message are for its connection alone depends on the message: besides the
ones that always are, the options of its `Connection` fields name others. The proxy drops
a fixed list of names, which is what it ought to drop for the messages whose options name
no field beyond that list.
-/

namespace Asyncly

/-- A text without the blanks and tabs around it. -/
def trimOws (text : List Char) : List Char :=
  let blank (c : Char) : Bool := c = ' ' || c = '\t'
  ((text.dropWhile blank).reverse.dropWhile blank).reverse

/-- The elements of a comma-separated list, in lower case; empty elements are no elements. -/
def listElements (value : String) : List String :=
  ((value.toList.splitOn ',').map fun part => lower (String.ofList (trimOws part))).filter
    fun element => element ≠ ""

/-- The options of all `Connection` fields, in lower case. -/
def connectionOptions (headers : Headers) : List String :=
  (headers.getAll "Connection").flatMap listElements

/-- The field is named by an option of a `Connection` field. -/
def Nominated (headers : Headers) (name : String) : Prop := lower name ∈ connectionOptions headers

instance (headers : Headers) (name : String) : Decidable (Nominated headers name) :=
  inferInstanceAs (Decidable (_ ∈ _))

/-- A field is for the connection it arrives on, and not to be passed on. -/
def HopByHop (headers : Headers) (name : String) : Prop :=
  lower name ∈ hopByHop ∨ Nominated headers name

instance (headers : Headers) (name : String) : Decidable (HopByHop headers name) :=
  inferInstanceAs (Decidable (_ ∨ _))

/-- No field of the connection is relayed, and all other pairs are, in order, those whose
names are free apart. -/
structure RelaysEndToEnd (free : List String) (received relayed : Headers) : Prop where
  removed : ∀ item ∈ relayed, ¬ HopByHop received item.1
  kept : keptHeaders relayed free =
    received.filter fun item => ¬ HopByHop received item.1 ∧ lower item.1 ∉ free

/-- What is relayed is right exactly when the options name nothing beyond the list. -/
theorem relaysEndToEnd_iff (free : List String) (received : Headers) :
    RelaysEndToEnd free received (relayHeaders received (hopByHop ++ free)) ↔
      ∀ item ∈ received, Nominated received item.1 → lower item.1 ∈ hopByHop ++ free := by
  rw [relayHeaders_eq]
  constructor
  · intro right item member nominated
    by_contra beyond
    have relayed : item ∈ keptHeaders received (hopByHop ++ free) :=
      List.mem_filter.mpr ⟨member, decide_eq_true beyond⟩
    exact right.removed item relayed (.inr nominated)
  · intro within
    have listed : ∀ item ∈ received, HopByHop received item.1 →
        lower item.1 ∈ hopByHop ++ free := by
      rintro item member (fixed | nominated)
      · exact List.mem_append_left free fixed
      · exact within item member nominated
    constructor
    · intro item member hop
      obtain ⟨member, relayed⟩ := List.mem_filter.mp member
      exact of_decide_eq_true relayed (listed item member hop)
    · rw [keptHeaders, keptHeaders, List.filter_filter]
      refine List.filter_congr fun item member => ?_
      rw [Bool.eq_iff_iff]
      simp only [Bool.and_eq_true, decide_eq_true_eq]
      constructor
      · rintro ⟨apart, beyond⟩
        exact ⟨fun hop => beyond (listed item member hop), apart⟩
      · rintro ⟨endToEnd, apart⟩
        refine ⟨apart, fun dropped => ?_⟩
        rcases List.mem_append.mp dropped with fixed | exempt
        · exact endToEnd (.inl fixed)
        · exact apart exempt

/-- The proxy passes on what is not for a single connection, on requests and on responses,
exactly when their `Connection` options name no other field than it drops anyway. -/
theorem relay_dropsHopByHop_iff (request : Request) (body : Bytes) (upstream : HttpResponse) :
    (RelaysEndToEnd [] request.headers (forward request body).headers ↔
      ∀ item ∈ request.headers, Nominated request.headers item.1 → lower item.1 ∈ hopByHop) ∧
    (RelaysEndToEnd ["content-length"] upstream.headers (relayResponse upstream).headers ↔
      ∀ item ∈ upstream.headers, Nominated upstream.headers item.1 →
        lower item.1 ∈ hopByHopResponse) := by
  constructor
  · rw [forward]
    simpa only [List.append_nil] using relaysEndToEnd_iff [] request.headers
  · exact relaysEndToEnd_iff ["content-length"] upstream.headers

/-- A secret for the connection is sent on. -/
theorem relay_dropsHopByHop_fails :
    ¬ RelaysEndToEnd [] [("Connection", "X-Secret"), ("X-Secret", "1")]
      (forward (Sample.proxyRequest [("Connection", "X-Secret"), ("X-Secret", "1")]) []).headers ∧
    ¬ RelaysEndToEnd ["content-length"] [("Connection", "X-Secret"), ("X-Secret", "1")]
      (relayResponse ⟨200, "OK", [("Connection", "X-Secret"), ("X-Secret", "1")], []⟩).headers := by
  constructor
  · intro right
    exact right.removed ("X-Secret", "1") (by decide) (by decide)
  · intro right
    exact right.removed ("X-Secret", "1") (by decide) (by decide)

end Asyncly
