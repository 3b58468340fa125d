import Asyncly.Lib.Runs
import Asyncly.Srvmocker.Assertions
import Mathlib.Data.List.Forall2

/-!
# The mock proxy

The proxy records each request it reads, checks its credentials and relays it. Requests
wait for their bodies and for the answers of their targets, in any order; what the proxy
has recorded, sent and answered is compared with what has arrived. All requests share one
client session, which has a cookie jar and an idea of its own of what a request is.
-/

namespace Asyncly

/-- `_HOP_BY_HOP` -/
def hopByHop : List String :=
  ["connection", "keep-alive", "proxy-authenticate", "proxy-authorization", "proxy-connection",
    "te", "trailer", "transfer-encoding", "upgrade", "host"].map lower

/-- `_HOP_BY_HOP_RESPONSE` -/
def hopByHopResponse : List String := hopByHop ++ ["content-length"]

/-- `_relay_headers` -/
def relayHeaders (source : Headers) (drop : List String) : Headers :=
  source.foldl (fun relayed item =>
    if lower item.1 ∉ drop then relayed ++ [item] else relayed) []

/-- The request `forward_session.request` is called with. -/
structure Forwarded where
  method : String
  url : Url
  headers : Headers
  data : Option Bytes
  allowRedirects : Bool
  deriving DecidableEq

/-- A response before its body has come. -/
structure ResponseHead where
  status : Nat
  reason : String
  headers : Headers
  deriving DecidableEq

/-- A response, as the proxy reads it from a target or returns it itself. -/
structure HttpResponse where
  status : Nat
  reason : String
  headers : Headers
  body : Bytes
  deriving DecidableEq

def HttpResponse.head (response : HttpResponse) : ResponseHead :=
  ⟨response.status, response.reason, response.headers⟩

/-- What a target receives. -/
structure Delivered where
  method : String
  url : Url
  headers : Headers
  body : Bytes
  deriving DecidableEq

/-- `forward_session`, a client session of aiohttp: the cookies its jar has for a URL, each as
`name=value`; the jar after the head of a response; the URLs it requests as they stand; and what
goes to a target for a call of `request` with these cookies, or is raised before that. -/
structure ForwardSession (J : Type) where
  cookies : J → Url → List String
  store : J → Url → ResponseHead → J
  verbatim : Url → Bool
  send : List String → Forwarded → Except Exn Delivered

/-- `expected_auth` of `start_proxy` -/
def expectedAuth (rt : Runtime) (auth : Option BasicAuth) : Except Exn (Option String) :=
  match auth with
  | none => .ok none
  | some auth => (rt.encodeBasicAuth auth).map some

def proxyAuthenticationRequired : HttpResponse where
  status := 407
  reason := "Proxy Authentication Required"
  headers := [("Proxy-Authenticate", "Basic")]
  body := []

def forward (request : Request) (body : Bytes) : Forwarded where
  method := request.method
  url := request.url
  headers := relayHeaders request.headers hopByHop
  data := if body.isEmpty then none else some body
  allowRedirects := false

def relayResponse (upstream : HttpResponse) : HttpResponse where
  status := upstream.status
  reason := upstream.reason
  headers := relayHeaders upstream.headers hopByHopResponse
  body := upstream.body

/-- How far the handler of a request has come. -/
inductive ProxyStage
  /-- Waiting for the body. -/
  | reading
  /-- The body could not be read. -/
  | failed (exc : Exn)
  /-- Answered without a request to the target. -/
  | refused (body : Bytes) (response : HttpResponse)
  /-- The session has refused to send the request. -/
  | unsent (body : Bytes) (exc : Exn)
  /-- Waiting for the head of the answer. -/
  | forwarding (body : Bytes) (delivered : Delivered)
  /-- Waiting for the body of the answer. -/
  | receiving (body : Bytes) (delivered : Delivered) (head : ResponseHead)
  /-- The target did not answer. -/
  | broken (body : Bytes) (delivered : Delivered) (exc : Exn)
  /-- The answer of the target was passed on. -/
  | relayed (body : Bytes) (delivered : Delivered) (upstream response : HttpResponse)
  deriving DecidableEq

structure ProxiedRequest where
  request : Request
  stage : ProxyStage
  deriving DecidableEq

/-- The proxy: the jar of its session, the calls of `forward_session.request`, what went to
targets for them with the number of the request each is for, and the requests it is handling. -/
structure ProxyServer (J : Type) where
  expectedAuth : Option String
  jar : J
  service : MockProxyService := {}
  upstream : List Forwarded := []
  delivered : List (Nat × Delivered) := []
  requests : List ProxiedRequest := []

inductive ProxyEvent
  | arrive (request : Request)
  /-- The end of `request.read()`. -/
  | read (i : Nat) (body : Except Exn Bytes)
  /-- The end of entering `forward_session.request`. -/
  | head (i : Nat) (head : Except Exn ResponseHead)
  /-- The end of `upstream.read()`. -/
  | payload (i : Nat) (payload : Except Exn Bytes)

namespace ProxiedRequest

/-- The head of the answer has come, or none does. -/
def answer (head : Except Exn ResponseHead) (r : ProxiedRequest) : ProxiedRequest :=
  match r.stage, head with
  | .forwarding body delivered, .ok head => { r with stage := .receiving body delivered head }
  | .forwarding body delivered, .error exc => { r with stage := .broken body delivered exc }
  | _, _ => r

/-- The body of the answer has come, or does not. -/
def relay (payload : Except Exn Bytes) (r : ProxiedRequest) : ProxiedRequest :=
  match r.stage, payload with
  | .receiving body delivered head, .ok payload =>
      let upstream := ⟨head.status, head.reason, head.headers, payload⟩
      { r with stage := .relayed body delivered upstream (relayResponse upstream) }
  | .receiving body delivered _, .error exc => { r with stage := .broken body delivered exc }
  | _, _ => r

end ProxiedRequest

namespace ProxyServer

variable {J : Type} (session : ForwardSession J)

/-- `_handler` from the body up to its next `await`. -/
def handleBody (s : ProxyServer J) (i : Nat) (request : Request) (body : Bytes) : ProxyServer J :=
  let recorded := RecordedRequest.ofRequest request [] body "proxy"
  let s := { s with service := { s.service with history := s.service.history ++ [recorded] } }
  let moved (stage : ProxyStage) := s.requests.modify i fun r => { r with stage := stage }
  if s.expectedAuth.any fun expected =>
      request.headers.get? "Proxy-Authorization" ≠ some expected then
    { s with requests := moved (.refused body proxyAuthenticationRequired) }
  else
    let s := { s with upstream := s.upstream ++ [forward request body] }
    match session.send (session.cookies s.jar request.url) (forward request body) with
    | .error exc => { s with requests := moved (.unsent body exc) }
    | .ok delivered =>
        { s with
          delivered := s.delivered ++ [(i, delivered)]
          requests := moved (.forwarding body delivered) }

/-- The jar once the head of an answer has come. -/
def stored (s : ProxyServer J) (i : Nat) (head : Except Exn ResponseHead) : J :=
  match s.requests[i]?, head with
  | some ⟨request, .forwarding _ _⟩, .ok head => session.store s.jar request.url head
  | _, _ => s.jar

/-- A step of the proxy; one that is not enabled leaves it as it is. -/
def step (s : ProxyServer J) : ProxyEvent → ProxyServer J
  | .arrive request => { s with requests := s.requests ++ [⟨request, .reading⟩] }
  | .read i body =>
      match s.requests[i]?, body with
      | some ⟨request, .reading⟩, .ok body => s.handleBody session i request body
      | some ⟨_, .reading⟩, .error exc =>
          { s with requests := s.requests.modify i fun r => { r with stage := .failed exc } }
      | _, _ => s
  | .head i head =>
      { s with
        jar := s.stored session i head
        requests := s.requests.modify i (ProxiedRequest.answer head) }
  | .payload i payload =>
      { s with requests := s.requests.modify i (ProxiedRequest.relay payload) }

/-- The proxy before its first request. -/
def start (expected : Option String) (jar : J) : ProxyServer J where
  expectedAuth := expected
  jar := jar

end ProxyServer

/-! ### What a request is due -/

/-- No credentials are required, or the first `Proxy-Authorization` header is their encoding. -/
def admits (rt : Runtime) (auth : Option BasicAuth) (headers : Headers) : Bool :=
  match auth with
  | none => true
  | some auth =>
      match headers.get? "Proxy-Authorization", rt.encodeBasicAuth auth with
      | some provided, .ok encoded => provided = encoded
      | _, _ => false

/-- The pairs whose lower-cased name is not to be dropped, in order. -/
def keptHeaders (headers : Headers) (drop : List String) : Headers :=
  headers.filter fun item => lower item.1 ∉ drop

/-- The names of the headers that a client of aiohttp gives a request without one. -/
def automaticHeaders : List String :=
  ["host", "accept", "accept-encoding", "user-agent", "content-type", "content-length",
    "transfer-encoding", "connection"]

/-- The headers that are not there just because none of their name was given. -/
def Delivered.relayedHeaders (delivered : Delivered) (given : Headers) : Headers :=
  delivered.headers.filter fun item =>
    lower item.1 ∉ automaticHeaders || given.contains item.1

/-- A request arrives with a method, a URL, headers and a body. -/
structure Delivered.Carries (delivered : Delivered) (method : String) (url : Url)
    (headers : Headers) (body : Bytes) : Prop where
  method : delivered.method = method
  url : delivered.url = url
  headers : delivered.relayedHeaders headers = headers
  body : delivered.body = body

/-- What is there to see of a request from outside: what arrived, and how its waits ended. -/
structure Exchange where
  request : Request
  read : Option (Except Exn Bytes) := none
  head : Option (Except Exn ResponseHead) := none
  payload : Option (Except Exn Bytes) := none

/-- The body, once it was read. -/
def Exchange.body (x : Exchange) : Option Bytes := x.read.bind Except.toOption

namespace Exchange

/-- The body is read, or cannot be. A wait ends once. -/
def endRead (read : Except Exn Bytes) (x : Exchange) : Exchange :=
  if x.read.isNone then { x with read := some read } else x

/-- The head of the answer comes, once the body was read. -/
def endHead (head : Except Exn ResponseHead) (x : Exchange) : Exchange :=
  if x.body.isSome && x.head.isNone then { x with head := some head } else x

/-- The body of the answer comes, once its head has. -/
def endPayload (payload : Except Exn Bytes) (x : Exchange) : Exchange :=
  if (x.head.bind Except.toOption).isSome && x.payload.isNone then
    { x with payload := some payload }
  else x

end Exchange

/-- What there is to see of an event. -/
def observeExchanges (xs : List Exchange) : ProxyEvent → List Exchange
  | .arrive request => xs ++ [{ request := request }]
  | .read i read => xs.modify i (Exchange.endRead read)
  | .head i head => xs.modify i (Exchange.endHead head)
  | .payload i payload => xs.modify i (Exchange.endPayload payload)

/-- What the proxy answered. -/
def ProxiedRequest.response (r : ProxiedRequest) : Option HttpResponse :=
  match r.stage with
  | .refused _ response | .relayed _ _ _ response => some response
  | _ => none

/-- The answer to the request of a number. -/
def ProxyServer.response {J : Type} (s : ProxyServer J) (i : Nat) : Option HttpResponse :=
  s.requests[i]?.bind ProxiedRequest.response

/-- The request of a number with its body, once that was read. -/
def received (xs : List Exchange) : Nat → Option (Request × Bytes) :=
  Runs.entries (fun x => x.body.map fun body => (x.request, body)) xs

/-- What its target has answered to the request of a number. -/
def targetAnswer (xs : List Exchange) : Nat → Option HttpResponse :=
  Runs.entries (fun x => do
    let head ← x.head.bind Except.toOption
    let payload ← x.payload.bind Except.toOption
    pure ⟨head.status, head.reason, head.headers, payload⟩) xs

def isToken (text : String) : Bool :=
  !text.isEmpty && text.toList.all fun c => c.isAlphanum || "!#$%&'*+-.^_`|~".toList.contains c

/-- A method and headers as a message on the wire can have them, and as they are once a server
has read one: no name is anything but a token, no value has the end of a line or a NUL in it,
and a length is a numeral. A request to connect has no URL. -/
structure WellFormed (method : String) (headers : Headers) : Prop where
  token : isToken method = true
  noConnect : method ≠ "CONNECT"
  names : ∀ item ∈ headers, isToken item.1 = true
  values : ∀ item ∈ headers, ∀ c ∈ item.2.toList, c ∉ ['\r', '\n', Char.ofNat 0]
  lengths : ∀ item ∈ headers, lower item.1 = "content-length" →
    item.2 ≠ "" ∧ item.2.toList.all Char.isDigit = true

/-- So it is with less headers. -/
theorem WellFormed.mono {method : String} {headers fewer : Headers}
    (h : WellFormed method headers) (among : ∀ item ∈ fewer, item ∈ headers) :
    WellFormed method fewer where
  token := h.token
  noConnect := h.noConnect
  names item member := h.names item (among item member)
  values item member := h.values item (among item member)
  lengths item member := h.lengths item (among item member)

namespace ForwardSession

variable {J : Type} (session : ForwardSession J)

/-- A call of `request` that has nothing about it that the session would change: it is well
formed, the session requests its URL as it stands, its method is in upper case, names that
repeat are spelled alike, a length is declared for its data only, and what belongs to the
connection is left to the session. -/
structure TakesAsGiven (call : Forwarded) : Prop where
  wellFormed : WellFormed call.method call.headers
  url : session.verbatim call.url = true
  method : upper call.method = call.method
  spelling : ∀ item ∈ call.headers, ∀ other ∈ call.headers,
    lower item.1 = lower other.1 → item.1 = other.1
  length : ∀ item ∈ call.headers, lower item.1 = "content-length" →
    Nat.ofDigitChars 10 item.2.toList 0 = (call.data.getD []).length
  connection : ∀ item ∈ call.headers,
    lower item.1 ∉ ["host", "connection", "transfer-encoding"]

/-- What aiohttp documents of its client: without cookies a call goes out as it is given, with
automatic headers where it has none of their name. -/
structure Documented : Prop where
  sends : ∀ call, session.TakesAsGiven call → ∃ delivered, session.send [] call = .ok delivered ∧
    delivered.Carries call.method call.url call.headers (call.data.getD [])

/-- The session will take a request that was read as it has arrived: there are no cookies for it
in the jar, it is well formed, its URL is one that is requested as it stands, its method is in
upper case, names of headers that repeat are spelled alike, and a declared length is that of the
body. -/
structure TakesRequest (jar : J) (request : Request) (body : Bytes) : Prop where
  noCookies : session.cookies jar request.url = []
  wellFormed : WellFormed request.method request.headers
  url : session.verbatim request.url = true
  method : upper request.method = request.method
  spelling : ∀ item ∈ request.headers, ∀ other ∈ request.headers,
    lower item.1 = lower other.1 → item.1 = other.1
  length : ∀ item ∈ request.headers, lower item.1 = "content-length" →
    Nat.ofDigitChars 10 item.2.toList 0 = body.length

end ForwardSession

/-- An admitted request that is read is one the session takes as it is. -/
def ProxyServer.TakenAsRead {J : Type} (session : ForwardSession J) (rt : Runtime)
    (auth : Option BasicAuth) (s : ProxyServer J) : ProxyEvent → Prop
  | .read i (.ok body) => ∀ request, s.requests[i]? = some ⟨request, .reading⟩ →
      admits rt auth request.headers = true → session.TakesRequest s.jar request body
  | _ => True

/-! ### What the proxy passes on -/

theorem relayHeaders_eq (source : Headers) (drop : List String) :
    relayHeaders source drop = keptHeaders source drop := by
  have go (relayed : Headers) : source.foldl (fun relayed item =>
      if lower item.1 ∉ drop then relayed ++ [item] else relayed) relayed =
        relayed ++ keptHeaders source drop := by
    induction source generalizing relayed with
    | nil => simp [keptHeaders]
    | cons item rest ih =>
        rw [List.foldl_cons, ih, keptHeaders, keptHeaders]
        by_cases dropped : lower item.1 ∈ drop
        · simp [dropped]
        · simp [dropped]
  exact (go []).trans (List.nil_append _)

/-- A request without `data` has an empty body. -/
theorem forward_data (request : Request) (body : Bytes) :
    (forward request body).data.getD [] = body := by
  cases body <;> rfl

theorem mem_of_mem_keptHeaders {headers : Headers} {drop : List String} {item : String × String}
    (member : item ∈ keptHeaders headers drop) : item ∈ headers ∧ lower item.1 ∉ drop := by
  obtain ⟨member, kept⟩ := List.mem_filter.mp member
  exact ⟨member, of_decide_eq_true kept⟩

theorem relayResponse_eq (upstream : HttpResponse) : relayResponse upstream =
    { upstream with headers := keptHeaders upstream.headers hopByHopResponse } := by
  rw [relayResponse, relayHeaders_eq]

/-- The comparison with the expected header is the gate. -/
theorem gate_eq {rt : Runtime} {auth : Option BasicAuth} {expected : Option String}
    (started : expectedAuth rt auth = .ok expected) (headers : Headers) :
    (expected.any fun expected => headers.get? "Proxy-Authorization" ≠ some expected) =
      !admits rt auth headers := by
  cases auth with
  | none =>
      obtain rfl := Except.ok.inj started
      rfl
  | some auth =>
      cases encoded : rt.encodeBasicAuth auth with
      | error exc => simp [expectedAuth, encoded, Except.map] at started
      | ok text =>
          have same : some text = expected := by
            simpa [expectedAuth, encoded, Except.map] using started
          subst same
          cases provided : headers.get? "Proxy-Authorization" with
          | none => simp [admits, encoded, provided]
          | some header => simp [admits, encoded, provided]

/-- What the session takes as it is, it delivers. -/
theorem ForwardSession.Documented.delivers {J : Type} {session : ForwardSession J}
    (documented : session.Documented) {jar : J} {request : Request} {body : Bytes}
    (takes : session.TakesRequest jar request body) :
    ∃ delivered, session.send (session.cookies jar request.url) (forward request body) =
        .ok delivered ∧
      delivered.Carries request.method request.url (keptHeaders request.headers hopByHop) body := by
  have passed (item : String × String) (member : item ∈ (forward request body).headers) :
      item ∈ request.headers ∧ lower item.1 ∉ hopByHop := by
    rw [forward, relayHeaders_eq] at member
    exact mem_of_mem_keptHeaders member
  have kept (item : String × String) (member : item ∈ (forward request body).headers) :
      item ∈ request.headers := (passed item member).1
  obtain ⟨delivered, sent, carries⟩ := documented.sends (forward request body) {
    wellFormed := takes.wellFormed.mono kept
    url := takes.url
    method := takes.method
    spelling := fun item member other member' => takes.spelling item (kept item member) other
      (kept other member')
    length := fun item member named => by
      rw [forward_data]
      exact takes.length item (kept item member) named
    connection := fun item member named => by
      have dropped : ["host", "connection", "transfer-encoding"] ⊆ hopByHop := by decide
      exact (passed item member).2 (dropped named) }
  rw [forward_data, forward, relayHeaders_eq] at carries
  rw [takes.noCookies]
  exact ⟨delivered, sent, carries⟩

/-! ### One step -/

section Step

variable {J : Type} {session : ForwardSession J} {rt : Runtime} {auth : Option BasicAuth}
  {s : ProxyServer J} {xs : List Exchange} {x : Exchange} {r : ProxiedRequest} {i : Nat}

/-- The stages a request may be in for what has come of it. -/
def Exchange.AtStage (rt : Runtime) (auth : Option BasicAuth) (x : Exchange) : ProxyStage → Prop
  | .reading => x.read = none ∧ x.head = none ∧ x.payload = none
  | .failed _ => x.read.isSome = true ∧ x.body = none
  | .refused body response => x.body = some body ∧ admits rt auth x.request.headers = false ∧
      response = proxyAuthenticationRequired
  | .unsent _ _ => False
  | .forwarding body _ => x.body = some body ∧ admits rt auth x.request.headers = true ∧
      x.head = none ∧ x.payload = none
  | .receiving body _ head => x.body = some body ∧ admits rt auth x.request.headers = true ∧
      x.head = some (.ok head) ∧ x.payload = none
  | .broken body _ _ => x.body = some body ∧ admits rt auth x.request.headers = true ∧
      ((∃ exc, x.head = some (.error exc)) ∨
        x.head.isSome = true ∧ ∃ exc, x.payload = some (.error exc))
  | .relayed body _ upstream response => x.body = some body ∧
      admits rt auth x.request.headers = true ∧ x.head = some (.ok upstream.head) ∧
      x.payload = some (.ok upstream.body) ∧ response = relayResponse upstream

/-- The proxy has got as far with a request as there is to see of it. -/
structure Exchange.Agrees (rt : Runtime) (auth : Option BasicAuth) (x : Exchange)
    (r : ProxiedRequest) : Prop where
  request : r.request = x.request
  stage : x.AtStage rt auth r.stage

theorem Exchange.body_of_read {read : Except Exn Bytes} {x : Exchange}
    (given : x.read = some read) : x.body = read.toOption := by
  rw [Exchange.body, given]
  rfl

/-- Whatever was read was read once and for all. -/
theorem Exchange.endRead_of_isSome {read : Except Exn Bytes} (ended : x.read.isSome = true) :
    x.endRead read = x := by
  rw [endRead, if_neg (by simpa using Option.isSome_iff_ne_none.mp ended)]

theorem Exchange.isSome_read_of_body {body : Bytes} (given : x.body = some body) :
    x.read.isSome = true := by
  cases ended : x.read with
  | none => simp [Exchange.body, ended] at given
  | some read => rfl

theorem Exchange.Agrees.read_isSome (agrees : x.Agrees rt auth r) (moved : r.stage ≠ .reading) :
    x.read.isSome = true := by
  obtain ⟨request, stage⟩ := r
  have at_stage := agrees.stage
  cases stage with
  | reading => exact absurd rfl moved
  | failed exc => exact at_stage.1
  | unsent body exc => exact at_stage.elim
  | refused | forwarding | receiving | broken | relayed =>
      exact isSome_read_of_body at_stage.1

theorem Exchange.Agrees.answer (agrees : x.Agrees rt auth r) (head : Except Exn ResponseHead) :
    (x.endHead head).Agrees rt auth (r.answer head) := by
  obtain ⟨request, stage⟩ := r
  obtain ⟨rfl, at_stage⟩ := agrees
  cases stage with
  | unsent body exc => exact at_stage.elim
  | reading =>
      have unread : x.body = none := by rw [Exchange.body, at_stage.1]; rfl
      rw [endHead, unread]
      exact ⟨rfl, at_stage⟩
  | failed exc =>
      rw [endHead, at_stage.2]
      exact ⟨rfl, at_stage⟩
  | refused body response =>
      rw [endHead]
      split <;> exact ⟨rfl, at_stage⟩
  | forwarding body delivered =>
      obtain ⟨given, admitted, noHead, noPayload⟩ := at_stage
      rw [endHead, given, noHead]
      cases head with
      | ok head => exact ⟨rfl, given, admitted, rfl, noPayload⟩
      | error exc => exact ⟨rfl, given, admitted, .inl ⟨exc, rfl⟩⟩
  | receiving body delivered before =>
      rw [endHead, at_stage.2.2.1]
      simp only [Option.isNone_some, Bool.and_false, Bool.false_eq_true, if_false]
      exact ⟨rfl, at_stage⟩
  | broken body delivered exc =>
      have there : x.head.isNone = false := by
        obtain ⟨exc, failed⟩ | ⟨there, -⟩ := at_stage.2.2
        · rw [failed]
          rfl
        · simpa using there
      rw [endHead, there, Bool.and_false, if_neg Bool.false_ne_true]
      exact ⟨rfl, at_stage⟩
  | relayed body delivered upstream response =>
      rw [endHead, at_stage.2.2.1]
      simp only [Option.isNone_some, Bool.and_false, Bool.false_eq_true, if_false]
      exact ⟨rfl, at_stage⟩

theorem Exchange.Agrees.relay (agrees : x.Agrees rt auth r) (payload : Except Exn Bytes) :
    (x.endPayload payload).Agrees rt auth (r.relay payload) := by
  obtain ⟨request, stage⟩ := r
  obtain ⟨rfl, at_stage⟩ := agrees
  cases stage with
  | unsent body exc => exact at_stage.elim
  | reading =>
      have still : x.endPayload payload = x := by rw [endPayload, at_stage.2.1]; rfl
      rw [still]
      exact ⟨rfl, at_stage⟩
  | failed exc | refused body response =>
      rw [endPayload]
      split <;> exact ⟨rfl, at_stage⟩
  | forwarding body delivered =>
      have still : x.endPayload payload = x := by rw [endPayload, at_stage.2.2.1]; rfl
      rw [still]
      exact ⟨rfl, at_stage⟩
  | receiving body delivered head =>
      obtain ⟨given, admitted, gotHead, noPayload⟩ := at_stage
      rw [endPayload, if_pos (by rw [gotHead, noPayload]; rfl)]
      cases payload with
      | ok payload => exact ⟨rfl, given, admitted, gotHead, rfl, rfl⟩
      | error exc => exact ⟨rfl, given, admitted, .inr ⟨by rw [gotHead]; rfl, exc, rfl⟩⟩
  | broken body delivered exc =>
      have still : x.endPayload payload = x := by
        obtain ⟨exc, failed⟩ | ⟨there, exc, failed⟩ := at_stage.2.2
        · rw [endPayload, failed]
          rfl
        · rw [endPayload, failed, Option.isNone_some, Bool.and_false, if_neg Bool.false_ne_true]
      rw [still]
      exact ⟨rfl, at_stage⟩
  | relayed body delivered upstream response =>
      rw [endPayload, at_stage.2.2.2.1, Option.isNone_some, Bool.and_false,
        if_neg Bool.false_ne_true]
      exact ⟨rfl, at_stage⟩

/-- Seeing more of the answer of a request takes nothing back. -/
theorem received_endHead (head : Except Exn ResponseHead) (i : Nat) :
    received (xs.modify i (Exchange.endHead head)) = received xs := by
  refine Runs.entries_modify _ fun x _ => ?_
  rw [Exchange.endHead]
  split <;> rfl

theorem received_endPayload (payload : Except Exn Bytes) (i : Nat) :
    received (xs.modify i (Exchange.endPayload payload)) = received xs := by
  refine Runs.entries_modify _ fun x _ => ?_
  rw [Exchange.endPayload]
  split <;> rfl

namespace ProxyServer

/-- What the proxy has recorded and delivered is what has been received, and its requests are
where there is to see. -/
structure Follows (rt : Runtime) (auth : Option BasicAuth) (s : ProxyServer J)
    (xs : List Exchange) : Prop where
  started : Asyncly.expectedAuth rt auth = .ok s.expectedAuth
  stages : List.Forall₂ (Exchange.Agrees rt auth) xs s.requests
  recorded : Runs.LoggedOnce
    (fun i => (received xs i).map fun (request, body) =>
      (request.method, request.url, request.headers, body))
    (s.service.history.map fun call => (call.method, call.url, call.headers, call.body))
  forwardedOnce : (s.delivered.map Prod.fst).Nodup
  forwarded : ∀ i, i ∈ s.delivered.map Prod.fst ↔ ∃ request body,
    received xs i = some (request, body) ∧ admits rt auth request.headers = true
  carried : ∀ i delivered, (i, delivered) ∈ s.delivered → ∃ request body,
    received xs i = some (request, body) ∧ delivered.Carries request.method request.url
      (keptHeaders request.headers hopByHop) body

/-- Steps that receive nothing keep it so. -/
theorem Follows.of_same (h : s.Follows rt auth xs) {s' : ProxyServer J} {xs' : List Exchange}
    (expected : s'.expectedAuth = s.expectedAuth)
    (stages : List.Forall₂ (Exchange.Agrees rt auth) xs' s'.requests)
    (history : s'.service.history = s.service.history) (delivered : s'.delivered = s.delivered)
    (same : received xs' = received xs) : s'.Follows rt auth xs' := by
  refine ⟨expected ▸ h.started, stages, ?_, ?_, ?_, ?_⟩
  · rw [same, history]
    exact h.recorded
  · rw [delivered]
    exact h.forwardedOnce
  · rw [same, delivered]
    exact h.forwarded
  · rw [same, delivered]
    exact h.carried

/-- What is to be seen of a request, and where the proxy has got with it. -/
theorem Follows.agrees (h : s.Follows rt auth xs) (at_x : xs[i]? = some x) :
    ∃ r, s.requests[i]? = some r ∧ x.Agrees rt auth r := by
  obtain ⟨within, rfl⟩ := List.getElem?_eq_some_iff.mp at_x
  have within' : i < s.requests.length := h.stages.length_eq ▸ within
  exact ⟨_, List.getElem?_eq_getElem within', h.stages.get within within'⟩

theorem Follows.seen (h : s.Follows rt auth xs) (at_r : s.requests[i]? = some r) :
    ∃ x, xs[i]? = some x ∧ x.Agrees rt auth r := by
  obtain ⟨within, rfl⟩ := List.getElem?_eq_some_iff.mp at_r
  have within' : i < xs.length := h.stages.length_eq ▸ within
  exact ⟨_, List.getElem?_eq_getElem within', h.stages.get within' within⟩

section Read

variable {request : Request} {body : Bytes}

/-- A request that is being read has nothing received of it. -/
theorem Follows.reading (h : s.Follows rt auth xs)
    (at_i : s.requests[i]? = some ⟨request, .reading⟩) :
    ∃ x, xs[i]? = some x ∧ x.request = request ∧ x.read = none ∧ x.head = none ∧
      x.payload = none := by
  obtain ⟨x, at_x, agrees⟩ := h.seen at_i
  exact ⟨x, at_x, agrees.request.symm, agrees.stage⟩

/-- Once it was read, it is received, and no other. -/
theorem received_endRead (body : Bytes) {x : Exchange} (at_x : xs[i]? = some x)
    (unread : x.read = none) :
    received xs i = none ∧
      received (xs.modify i (Exchange.endRead (.ok body))) i = some (x.request, body) ∧
      ∀ j, j ≠ i → received (xs.modify i (Exchange.endRead (.ok body))) j = received xs j := by
  refine ⟨?_, ?_, fun j other => Runs.entries_modify_ne _ other⟩
  · rw [received, Runs.entries, at_x, Option.bind_some, Exchange.body, unread]
    rfl
  · rw [received, Runs.entries_modify_eq, at_x, Option.bind_some, Exchange.endRead, unread]
    rfl

/-- What has been received stays so. -/
theorem received_endRead_of_some (body : Bytes) {x : Exchange} (at_x : xs[i]? = some x)
    (unread : x.read = none) {j : Nat} {arrived : Request × Bytes}
    (before : received xs j = some arrived) :
    received (xs.modify i (Exchange.endRead (.ok body))) j = some arrived := by
  obtain ⟨fresh, -, others⟩ := received_endRead body at_x unread
  rw [others j, before]
  rintro rfl
  rw [fresh] at before
  cases before

/-- The stage of a request that was read is the one it is given. -/
theorem Follows.stages_read (h : s.Follows rt auth xs)
    (at_i : s.requests[i]? = some ⟨request, .reading⟩) {stage : ProxyStage}
    {read : Except Exn Bytes}
    (reached : ∀ x : Exchange, x.request = request → x.read = some read → x.head = none →
      x.payload = none → x.AtStage rt auth stage) :
    List.Forall₂ (Exchange.Agrees rt auth) (xs.modify i (Exchange.endRead read))
      (s.requests.modify i fun r => { r with stage := stage }) := by
  refine Runs.forall₂_modify h.stages fun x r at_x at_r agrees => ?_
  obtain rfl := Option.some.inj (at_i.symm.trans at_r)
  obtain ⟨unread, noHead, noPayload⟩ := agrees.stage
  rw [Exchange.endRead, unread]
  exact ⟨agrees.request, reached _ agrees.request.symm rfl noHead noPayload⟩

/-- A request that was read is recorded. -/
theorem Follows.recorded_read (h : s.Follows rt auth xs) {x : Exchange} (at_x : xs[i]? = some x)
    (unread : x.read = none) (body : Bytes) :
    Runs.LoggedOnce
      (fun j => (received (xs.modify i (Exchange.endRead (.ok body))) j).map
        fun (request, body) => (request.method, request.url, request.headers, body))
      ((s.service.history ++ [RecordedRequest.ofRequest x.request [] body "proxy"]).map
        fun call => (call.method, call.url, call.headers, call.body)) := by
  obtain ⟨fresh, written, others⟩ := received_endRead body at_x unread
  rw [List.map_append]
  refine h.recorded.append (i := i) ?_ ?_ fun j other => ?_
  · rw [fresh, Option.map_none]
  · rw [written]
    rfl
  · rw [others j other]

/-- What was forwarded before is still due. -/
theorem Follows.carried_read (h : s.Follows rt auth xs) {x : Exchange} (at_x : xs[i]? = some x)
    (unread : x.read = none) (body : Bytes) {j : Nat} {delivered : Delivered}
    (member : (j, delivered) ∈ s.delivered) : ∃ request body',
      received (xs.modify i (Exchange.endRead (.ok body))) j = some (request, body') ∧
        delivered.Carries request.method request.url (keptHeaders request.headers hopByHop)
          body' := by
  obtain ⟨request, body', before, carries⟩ := h.carried j delivered member
  exact ⟨request, body', received_endRead_of_some body at_x unread before, carries⟩

/-- A request is due to be forwarded if it was before, or if it is the one that was read and is
admitted. -/
theorem Follows.forwarded_read (h : s.Follows rt auth xs) {x : Exchange} (at_x : xs[i]? = some x)
    (unread : x.read = none) (body : Bytes) (j : Nat) :
    (∃ request body', received (xs.modify i (Exchange.endRead (.ok body))) j =
        some (request, body') ∧ admits rt auth request.headers = true) ↔
      j ∈ s.delivered.map Prod.fst ∨ (j = i ∧ admits rt auth x.request.headers = true) := by
  obtain ⟨-, written, others⟩ := received_endRead body at_x unread
  rw [h.forwarded]
  constructor
  · rintro ⟨request, body', after, admits⟩
    by_cases same : j = i
    · subst same
      obtain ⟨rfl, rfl⟩ := Prod.mk.inj (Option.some.inj (written.symm.trans after))
      exact .inr ⟨rfl, admits⟩
    · exact .inl ⟨request, body', (others j same).symm.trans after, admits⟩
  · rintro (⟨request, body', before, admits⟩ | ⟨rfl, admits⟩)
    · exact ⟨request, body', received_endRead_of_some body at_x unread before, admits⟩
    · exact ⟨x.request, body, written, admits⟩

/-- A request that was read is recorded, and sent to its target when it is admitted. -/
theorem Follows.handleBody (h : s.Follows rt auth xs) (documented : session.Documented)
    (at_i : s.requests[i]? = some ⟨request, .reading⟩)
    (takes : admits rt auth request.headers = true → session.TakesRequest s.jar request body) :
    (s.handleBody session i request body).Follows rt auth
      (xs.modify i (Exchange.endRead (.ok body))) := by
  obtain ⟨x, at_x, rfl, unread, -, -⟩ := h.reading at_i
  have due := h.forwarded_read at_x unread body
  rw [ProxyServer.handleBody]
  dsimp only
  rw [gate_eq h.started]
  cases admitted : admits rt auth x.request.headers with
  | false =>
      rw [Bool.not_false, if_pos rfl]
      refine ⟨h.started, h.stages_read at_i fun x' same read _ _ => ?_,
        h.recorded_read at_x unread body, h.forwardedOnce, fun j => ?_,
        fun j delivered => h.carried_read at_x unread body⟩
      · exact ⟨Exchange.body_of_read read, by rw [same, admitted], rfl⟩
      · rw [due, admitted]
        simp
  | true =>
      obtain ⟨delivered, sent, carries⟩ := documented.delivers (takes admitted)
      obtain ⟨fresh, written, -⟩ := received_endRead body at_x unread
      rw [Bool.not_true, if_neg Bool.false_ne_true, sent]
      have new : i ∉ s.delivered.map Prod.fst := by
        rw [h.forwarded]
        rintro ⟨request, body, before, -⟩
        rw [fresh] at before
        cases before
      refine ⟨h.started, h.stages_read at_i fun x' same read noHead noPayload => ?_,
        h.recorded_read at_x unread body, ?_, fun j => ?_, fun j delivered' member => ?_⟩
      · exact ⟨Exchange.body_of_read read, by rw [same, admitted], noHead, noPayload⟩
      · rw [List.map_append]
        refine List.nodup_append.mpr ⟨h.forwardedOnce, List.nodup_singleton i,
          fun j old k one => ?_⟩
        rw [List.mem_singleton.mp one]
        exact ne_of_mem_of_not_mem old new
      · rw [List.map_append, List.mem_append, due, admitted]
        simp
      · obtain old | one := List.mem_append.mp member
        · exact h.carried_read at_x unread body old
        · obtain ⟨rfl, rfl⟩ := Prod.mk.inj (List.mem_singleton.mp one)
          exact ⟨x.request, body, written, carries⟩

end Read

/-- Every step follows what there is to see. -/
theorem Follows.step (h : s.Follows rt auth xs) (documented : session.Documented)
    {event : ProxyEvent} (taken : s.TakenAsRead session rt auth event) :
    (s.step session event).Follows rt auth (observeExchanges xs event) := by
  cases event with
  | arrive request =>
      refine h.of_same rfl ?_ rfl rfl (Runs.entries_concat rfl)
      exact List.rel_append h.stages (.cons ⟨rfl, rfl, rfl, rfl⟩ .nil)
  | head i head =>
      refine h.of_same rfl ?_ rfl rfl (received_endHead head i)
      exact Runs.forall₂_modify h.stages fun x r _ _ agrees => agrees.answer head
  | payload i payload =>
      refine h.of_same rfl ?_ rfl rfl (received_endPayload payload i)
      exact Runs.forall₂_modify h.stages fun x r _ _ agrees => agrees.relay payload
  | read i read =>
      rw [ProxyServer.step.eq_def, observeExchanges]
      dsimp only
      split
      · next request body at_i => exact h.handleBody documented at_i (taken request at_i)
      · next request exc at_i =>
          obtain ⟨x, at_x, -, unread, -, -⟩ := h.reading at_i
          refine h.of_same rfl (h.stages_read at_i fun x _ ended _ _ => ?_) rfl rfl ?_
          · exact ⟨by rw [ended]; rfl, Exchange.body_of_read ended⟩
          · refine Runs.entries_modify _ fun x' at_x' => ?_
            obtain rfl := Option.some.inj (at_x.symm.trans at_x')
            rw [Exchange.endRead, unread]
            simp [Exchange.body, unread, Except.toOption]
      · next result _ _ notReading notFailing =>
          have still : xs.modify i (Exchange.endRead result) = xs := by
            refine Runs.modify_of_fixed fun x at_x => Exchange.endRead_of_isSome ?_
            obtain ⟨r, at_r, agrees⟩ := h.agrees at_x
            refine agrees.read_isSome fun reading => ?_
            obtain ⟨request, stage⟩ := r
            obtain rfl : stage = .reading := reading
            cases result with
            | ok body => exact notReading request body at_r rfl
            | error exc => exact notFailing request exc at_r rfl
          rw [still]
          exact h

/-- How far a request has come that was received. -/
theorem Follows.stage (h : s.Follows rt auth xs) {request : Request} {body : Bytes}
    (arrived : received xs i = some (request, body)) :
    ∃ x stage, xs[i]? = some x ∧ s.requests[i]? = some ⟨request, stage⟩ ∧
      x.AtStage rt auth stage ∧ x.request = request ∧ x.body = some body := by
  obtain ⟨x, at_x, given⟩ := Option.bind_eq_some_iff.mp arrived
  obtain ⟨body', read, same⟩ := Option.map_eq_some_iff.mp given
  obtain ⟨rfl, rfl⟩ := Prod.mk.inj same
  obtain ⟨⟨_, stage⟩, at_r, rfl, at_stage⟩ := h.agrees at_x
  exact ⟨x, stage, at_x, at_r, at_stage, rfl, read⟩

/-- A request that is not admitted has been refused. -/
theorem Follows.refused (h : s.Follows rt auth xs) {request : Request} {body : Bytes}
    (arrived : received xs i = some (request, body))
    (notAdmitted : admits rt auth request.headers = false) :
    s.response i = some proxyAuthenticationRequired := by
  obtain ⟨x, stage, -, at_r, at_stage, rfl, read⟩ := h.stage arrived
  rw [ProxyServer.response, at_r]
  cases stage with
  | refused body response => exact congrArg some at_stage.2.2
  | unsent body exc => exact at_stage.elim
  | reading => simp [Exchange.body, at_stage.1] at read
  | failed exc => simp [at_stage.2] at read
  | forwarding | receiving | broken | relayed =>
      rw [at_stage.2.1] at notAdmitted
      cases notAdmitted

/-- What the target has answered to an admitted request is passed on. -/
theorem Follows.relayed (h : s.Follows rt auth xs) {request : Request} {body : Bytes}
    {upstream : HttpResponse} (arrived : received xs i = some (request, body))
    (admitted : admits rt auth request.headers = true)
    (gave : targetAnswer xs i = some upstream) :
    s.response i = some
      { upstream with headers := keptHeaders upstream.headers hopByHopResponse } := by
  obtain ⟨x, stage, at_x, at_r, at_stage, rfl, read⟩ := h.stage arrived
  rw [targetAnswer, Runs.entries, at_x, Option.bind_some] at gave
  rw [ProxyServer.response, at_r]
  cases stage with
  | relayed body delivered upstream' response =>
      obtain ⟨-, -, head, payload, rfl⟩ := at_stage
      rw [head, payload] at gave
      obtain rfl : upstream' = upstream := Option.some.inj gave
      exact congrArg some (relayResponse_eq upstream')
  | unsent body exc => exact at_stage.elim
  | reading => simp [Exchange.body, at_stage.1] at read
  | failed exc => simp [at_stage.2] at read
  | refused body response =>
      rw [at_stage.2.1] at admitted
      cases admitted
  | forwarding => simp [at_stage.2.2.1] at gave
  | receiving => simp [at_stage.2.2.2] at gave
  | broken body delivered exc =>
      obtain ⟨exc, failed⟩ | ⟨-, exc, failed⟩ := at_stage.2.2
      · simp [failed, Except.toOption] at gave
      · simp [failed, Except.toOption] at gave

/-- No request is answered before it was read, and an admitted one not before its target has
answered. -/
theorem Follows.answered (h : s.Follows rt auth xs) {response : HttpResponse}
    (given : s.response i = some response) : ∃ request body,
      received xs i = some (request, body) ∧
        (admits rt auth request.headers = true → (targetAnswer xs i).isSome = true) := by
  obtain ⟨⟨request, stage⟩, at_r, given⟩ := Option.bind_eq_some_iff.mp given
  obtain ⟨x, at_x, agrees⟩ := h.seen at_r
  have at_stage := agrees.stage
  cases stage with
  | refused body response' =>
      refine ⟨x.request, body, ?_, fun admitted => ?_⟩
      · rw [received, Runs.entries, at_x, Option.bind_some, at_stage.1]
        rfl
      · rw [at_stage.2.1] at admitted
        cases admitted
  | relayed body delivered upstream response' =>
      obtain ⟨read, -, head, payload, -⟩ := at_stage
      refine ⟨x.request, body, ?_, fun _ => ?_⟩
      · rw [received, Runs.entries, at_x, Option.bind_some, read]
        rfl
      · rw [targetAnswer, Runs.entries, at_x, Option.bind_some, head, payload]
        rfl
  | reading | failed | unsent | forwarding | receiving | broken => cases given

end ProxyServer

end Step

namespace Sample

def proxyAuth : BasicAuth := ⟨"proxy", "secret", "latin1"⟩

/-- `encode` of the credentials above, by base64. -/
def proxyRuntime : Runtime where
  unicode := .latin1
  parsedateToDatetime _ := .error (.valueError "Invalid date value or format")
  encodeBasicAuth _ := .ok "Basic cHJveHk6c2VjcmV0"

def proxyRequest (headers : Headers) : Request where
  method := "GET"
  url := ⟨"http://api/items", "http", "/items"⟩
  path := "/items"
  headers := headers
  query := []
  matchInfo := []

/-- The scheme and the authority of a URL. -/
def site (url : Url) : List Char :=
  url.text.toList.take (url.text.toList.length - url.path.toList.length)

/-- The body as far as its declared length goes. -/
def cut (call : Forwarded) : Bytes :=
  match call.headers.get? "Content-Length" with
  | none => call.data.getD []
  | some length => (call.data.getD []).take (Nat.ofDigitChars 10 length.toList 0)

def ownHeaders (headers : Headers) : Headers :=
  if headers.contains "User-Agent" then [] else [("User-Agent", "aiohttp")]

/-- The cookies stand behind those that were given, at the end. -/
def withCookies (headers : Headers) : List String → Headers
  | [] => headers
  | cookies => headers.popAll "Cookie" ++
      [("Cookie", "; ".intercalate (headers.getAll "Cookie" ++ cookies))]

/-- A session whose jar keeps the cookies of each site. -/
def forwardSession : ForwardSession (List (List Char × String)) where
  cookies jar url := (jar.filter fun entry => entry.1 = site url).map Prod.snd
  store jar url head := jar ++ (head.headers.getAll "Set-Cookie").map fun cookie =>
    (site url, String.ofList (cookie.toList.takeWhile (· ≠ ';')))
  verbatim url := url.scheme = "http"
  send cookies call := .ok {
    method := upper call.method
    url := call.url
    headers := ownHeaders call.headers ++ withCookies call.headers cookies
    body := cut call }

theorem relayed_ownHeaders (headers : Headers) : ((ownHeaders headers).filter fun item =>
    lower item.1 ∉ automaticHeaders || headers.contains item.1) = [] := by
  rw [ownHeaders]
  cases given : headers.contains "User-Agent" with
  | true => rfl
  | false =>
      refine List.filter_cons_of_neg ?_
      rw [given]
      decide

theorem cut_of_length {call : Forwarded} (length : ∀ item ∈ call.headers,
    lower item.1 = "content-length" →
      Nat.ofDigitChars 10 item.2.toList 0 = (call.data.getD []).length) :
    cut call = call.data.getD [] := by
  rw [cut]
  cases given : call.headers.get? "Content-Length" with
  | none => rfl
  | some value =>
      obtain ⟨item, member, named, rfl⟩ :=
        MultiDict.mem_getAll_iff.mp (MultiDict.mem_getAll_of_get? given)
      dsimp only
      rw [length item member (named.trans (by decide)), List.take_length]

theorem forwardSession_documented : forwardSession.Documented where
  sends call takes := by
    refine ⟨_, rfl, takes.method, rfl, ?_, cut_of_length takes.length⟩
    rw [Delivered.relayedHeaders, List.filter_append, relayed_ownHeaders, List.nil_append]
    refine List.filter_eq_self.mpr fun item member => ?_
    rw [Bool.or_eq_true]
    exact .inr (List.any_eq_true.mpr ⟨item, member, decide_eq_true rfl⟩)

/-- The session takes a request with the credentials of the proxy as it is. -/
theorem takes_admitted (body : Bytes) : forwardSession.TakesRequest []
    (proxyRequest [("proxy-authorization", "Basic cHJveHk6c2VjcmV0")]) body := by
  have unlike {item : String × String}
      (member : item ∈ [("proxy-authorization", "Basic cHJveHk6c2VjcmV0")]) :
      lower item.1 ≠ "content-length" := by
    rw [List.mem_singleton.mp member]
    decide
  refine ⟨rfl, ⟨by decide, by decide, by decide, ?_, fun item member named => ?_⟩, rfl, by decide,
    by simp [proxyRequest], fun item member named => ?_⟩
  · simp [proxyRequest]
  · exact absurd named (unlike member)
  · exact absurd named (unlike member)

end Sample

end Asyncly
