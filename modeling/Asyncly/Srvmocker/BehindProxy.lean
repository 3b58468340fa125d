import Asyncly.Srvmocker.Proxy
import Asyncly.Srvmocker.Serving

/-!
# A mock service behind the mock proxy

A proxy and its target take their own steps and meet over connections. A connection may fail
at any time, and the session of the proxy may then open another one for the same request.
-/

namespace Asyncly

variable {R J : Type}

/-- A request as aiohttp gives it to the dispatcher of its method and path. -/
structure Routed where
  method : String
  path : String
  request : Request

/-- What aiohttp does at the target: how a request is routed, the body that is read of it there,
and the responses it sends for what a request has come to, and for one without a route. -/
structure TargetWire (R : Type) where
  routed : Delivered → Routed
  body : Delivered → Bytes
  answers : Nat → Except Exn R → HttpResponse
  unrouted : Delivered → HttpResponse

/-- What the session of the proxy has sent for a request, and the number it has at the target,
if there is a route for it. -/
structure Connection where
  proxied : Nat
  served : Option Nat
  sent : Delivered
  failed : Bool := false

structure ProxiedService (R J : Type) where
  proxy : ProxyServer J
  target : MockServer R
  connections : List Connection := []

inductive ProxiedEvent (R : Type)
  /-- A request of a client arrives at the proxy. -/
  | arrive (request : Request)
  | read (i : Nat) (body : Except Exn Bytes)
  /-- What the session has sent reaches the target. -/
  | connect (i : Nat)
  /-- The connection fails; the request may still be sent on another one. -/
  | disconnect (i : Nat)
  /-- The head of the answer reaches the proxy. -/
  | answer (i : Nat)
  /-- And so does its body. -/
  | payload (i : Nat)
  /-- The request to the target fails, before the head of the answer has come. -/
  | giveUp (i : Nat) (exc : Exn)
  /-- Or after it. -/
  | breakOff (i : Nat) (exc : Exn)
  /-- A step of the target alone, such as the arrival of a request of another client. -/
  | target (event : ServerEvent R)

namespace ServedRequest

/-- The body that was read. -/
def bodyRead (r : ServedRequest R) : Option Bytes :=
  match r.stage with
  | .ready body | .dispatched body _ | .responded body _ _ => some body
  | _ => none

/-- What a request has come to in the end: an exception, or the response that was sent. -/
def ended (r : ServedRequest R) : Option (Except Exn R) :=
  match r.stage with
  | .dispatched _ (.error exc) => some (.error exc)
  | .responded _ _ (.error exc) => some (.error exc)
  | .responded _ outcome (.ok ⟨⟩) => some outcome
  | _ => none

end ServedRequest

/-- The body of a request that was read. -/
def ProxiedRequest.body (r : ProxiedRequest) : Option Bytes :=
  match r.stage with
  | .reading | .failed _ => none
  | .refused body _ | .unsent body _ | .forwarding body _ | .receiving body _ _
  | .broken body _ _ | .relayed body _ _ _ => some body

namespace ProxiedService

variable (wire : TargetWire R) (session : ForwardSession J) (loads : JsonLoads)
  (routes : List MockRoute)

/-- The connection of a request that has not failed. -/
def live (s : ProxiedService R J) (i : Nat) : Option Connection :=
  s.connections.find? fun c => c.proxied = i ∧ c.failed = false

/-- The response to what was sent on a connection, once the target has come to one. -/
def answerTo (s : ProxiedService R J) (c : Connection) : Option HttpResponse :=
  match c.served with
  | none => some (wire.unrouted c.sent)
  | some j => (s.target.requests[j]?.bind ServedRequest.ended).map (wire.answers j)

/-- On a connection the body is read that was sent. -/
def carry (s : ProxiedService R J) : ServerEvent R → ServerEvent R
  | .read j (.ok body) =>
      .read j (.ok (((s.connections.find? fun c => c.served = some j).map fun c =>
        wire.body c.sent).getD body))
  | event => event

/-- What was sent arrives at the target, if it has a route for it. -/
def deliver (s : ProxiedService R J) (i : Nat) (sent : Delivered) : ProxiedService R J :=
  let routed := wire.routed sent
  match (groupRoutes routes).get? (routed.method, routed.path) with
  | some _ =>
      { s with
        target := s.target.step loads routes (.arrive routed.method routed.path routed.request)
        connections := s.connections ++ [⟨i, some s.target.requests.length, sent, false⟩] }
  | none => { s with connections := s.connections ++ [⟨i, none, sent, false⟩] }

/-- A step of the proxy alone. -/
def proxyStep (s : ProxiedService R J) (event : ProxyEvent) : ProxiedService R J :=
  { s with proxy := s.proxy.step session event }

/-- After a failed connection the session makes the request anew, with the cookies it has now. -/
def sendAgain (s : ProxiedService R J) (i : Nat) (request : Request) (body : Bytes) :
    ProxiedService R J :=
  match session.send (session.cookies s.proxy.jar request.url) (forward request body) with
  | .error exc => s.proxyStep session (.head i (.error exc))
  | .ok sent => s.deliver wire loads routes i sent

/-- A step of the two; one that is not enabled leaves them as they are. -/
def step (s : ProxiedService R J) : ProxiedEvent R → ProxiedService R J
  | .arrive request => s.proxyStep session (.arrive request)
  | .read i body => s.proxyStep session (.read i body)
  | .connect i =>
      match s.proxy.requests[i]?, s.live i with
      | some ⟨request, .forwarding body sent⟩, none =>
          if s.connections.all fun c => c.proxied ≠ i then s.deliver wire loads routes i sent
          else s.sendAgain wire session loads routes i request body
      | _, _ => s
  | .disconnect i =>
      { s with connections := s.connections.map fun c =>
          if c.proxied = i then { c with failed := true } else c }
  | .answer i =>
      match (s.live i).bind (s.answerTo wire) with
      | none => s
      | some response => s.proxyStep session (.head i (.ok response.head))
  | .payload i =>
      match (s.live i).bind (s.answerTo wire) with
      | none => s
      | some response => s.proxyStep session (.payload i (.ok response.body))
  | .giveUp i exc => s.proxyStep session (.head i (.error exc))
  | .breakOff i exc => s.proxyStep session (.payload i (.error exc))
  | .target event => { s with target := s.target.step loads routes (s.carry wire event) }

/-- Before the first request, with what the proxy requires. -/
def start (expected : Option String) (jar : J) : ProxiedService R J where
  proxy := .start expected jar
  target := .start routes

/-- What is sent for a request of a number: it was read and admitted, and `made` says how what
is sent comes from it. -/
def SentFor (made : Request → Bytes → Delivered → Prop) (rt : Runtime) (auth : Option BasicAuth)
    (s : ProxiedService R J) (i : Nat) (sent : Delivered) : Prop :=
  ∃ r body, s.proxy.requests[i]? = some r ∧ r.body = some body ∧
    admits rt auth r.request.headers = true ∧ made r.request body sent

/-- What goes over a connection was sent for its request, and the request at the target is the
one it arrives as there, with its body. -/
structure Carries (made : Request → Bytes → Delivered → Prop) (rt : Runtime)
    (auth : Option BasicAuth) (s : ProxiedService R J) (c : Connection) : Prop where
  sent : s.SentFor made rt auth c.proxied c.sent
  unrouted : c.served = none → (groupRoutes routes).get?
    ((wire.routed c.sent).method, (wire.routed c.sent).path) = none
  arrived : ∀ j, c.served = some j → ∃ t, s.target.requests[j]? = some t ∧
    t.request = (wire.routed c.sent).request ∧ ∀ read ∈ t.bodyRead, read = wire.body c.sent

/-- The answer is that to a connection of the very request. -/
def AnsweredBy (s : ProxiedService R J) (i : Nat) (upstream : HttpResponse) : Prop :=
  ∃ c ∈ s.connections, c.proxied = i ∧ s.answerTo wire c = some upstream

/-- Requests and answers get through the proxy to each other: what reaches the target is what
was sent for an admitted request and is at no time on two connections, what is refused never
reaches it, and no request is given the answer of another one. -/
structure EndToEnd (made : Request → Bytes → Delivered → Prop) (rt : Runtime)
    (auth : Option BasicAuth) (s : ProxiedService R J) : Prop where
  carried : ∀ c ∈ s.connections, Carries wire routes made rt auth s c
  live : ((s.connections.filter fun c => !c.failed).map Connection.proxied).Nodup
  served : (s.connections.filterMap Connection.served).Nodup
  forwarding : ∀ (i : Nat) request body sent,
    s.proxy.requests[i]? = some ⟨request, .forwarding body sent⟩ →
      admits rt auth request.headers = true ∧ made request body sent
  receiving : ∀ (i : Nat) request body sent head,
    s.proxy.requests[i]? = some ⟨request, .receiving body sent head⟩ →
      ∀ c ∈ s.connections, c.proxied = i → c.failed = false →
        ∃ response, s.answerTo wire c = some response ∧ head = response.head
  refused : ∀ (i : Nat) request body response,
    s.proxy.requests[i]? = some ⟨request, .refused body response⟩ →
      admits rt auth request.headers = false ∧ response = proxyAuthenticationRequired ∧
        ∀ c ∈ s.connections, c.proxied ≠ i
  relayed : ∀ (i : Nat) request body sent upstream response,
    s.proxy.requests[i]? = some ⟨request, .relayed body sent upstream response⟩ →
      s.AnsweredBy wire i upstream ∧
        response = { upstream with headers := keptHeaders upstream.headers hopByHopResponse }

/-- A step at which the session makes a request: what it makes is as it should be. -/
structure Makes (made : Request → Bytes → Delivered → Prop) (rt : Runtime)
    (auth : Option BasicAuth) (s : ProxiedService R J) (event : ProxiedEvent R) : Prop where
  first : ∀ (i : Nat) body request, event = .read i (.ok body) →
    s.proxy.requests[i]? = some ⟨request, .reading⟩ → admits rt auth request.headers = true →
      ∀ sent, session.send (session.cookies s.proxy.jar request.url) (forward request body) =
        .ok sent → made request body sent
  again : ∀ (i : Nat) body request sent, event = .connect i →
    s.proxy.requests[i]? = some ⟨request, .forwarding body sent⟩ →
      ∀ sent, session.send (session.cookies s.proxy.jar request.url) (forward request body) =
        .ok sent → made request body sent

/-- It is what the session sends with the cookies of some time. -/
def SentWithCookies (request : Request) (body : Bytes) (sent : Delivered) : Prop :=
  ∃ jar, session.send (session.cookies jar request.url) (forward request body) = .ok sent

/-- It is what was received, with the headers the proxy keeps. -/
def SentAsReceived (request : Request) (body : Bytes) (sent : Delivered) : Prop :=
  sent.Carries request.method request.url (keptHeaders request.headers hopByHop) body

/-- The session takes each request it makes as it was received. -/
def TakenAsMade (rt : Runtime) (auth : Option BasicAuth) (s : ProxiedService R J) :
    ProxiedEvent R → Prop
  | .read i body => s.proxy.TakenAsRead session rt auth (.read i body)
  | .connect i => ∀ request body sent,
      s.proxy.requests[i]? = some ⟨request, .forwarding body sent⟩ →
        session.TakesRequest s.proxy.jar request body
  | _ => True

end ProxiedService

/-! ### A step of the proxy -/

section Proxy

variable {session : ForwardSession J} {rt : Runtime} {auth : Option BasicAuth}
  {s : ProxyServer J} {event : ProxyEvent} {i j : Nat} {request : Request}

/-- What a step of the proxy does to one of its requests. -/
inductive ProxyMove (session : ForwardSession J) (jar : J) (rt : Runtime) (auth : Option BasicAuth)
    (event : ProxyEvent) (i : Nat) (request : Request) : ProxyStage → ProxyStage → Prop
  | stays (stage : ProxyStage) : ProxyMove session jar rt auth event i request stage stage
  | fails (exc : Exn) : ProxyMove session jar rt auth event i request .reading (.failed exc)
  | refuses (body : Bytes) (refused : admits rt auth request.headers = false) :
      ProxyMove session jar rt auth event i request .reading
        (.refused body proxyAuthenticationRequired)
  | holds (body : Bytes) (exc : Exn) :
      ProxyMove session jar rt auth event i request .reading (.unsent body exc)
  | forwards (body : Bytes) (sent : Delivered) (admitted : admits rt auth request.headers = true)
      (given : event = .read i (.ok body))
      (send : session.send (session.cookies jar request.url) (forward request body) = .ok sent) :
      ProxyMove session jar rt auth event i request .reading (.forwarding body sent)
  | receives (body : Bytes) (sent : Delivered) (head : ResponseHead)
      (given : event = .head i (.ok head)) :
      ProxyMove session jar rt auth event i request (.forwarding body sent)
        (.receiving body sent head)
  | breaks (body : Bytes) (sent : Delivered) (exc : Exn) {stage : ProxyStage}
      (before : stage = .forwarding body sent ∨ ∃ head, stage = .receiving body sent head) :
      ProxyMove session jar rt auth event i request stage (.broken body sent exc)
  | relays (body : Bytes) (sent : Delivered) (head : ResponseHead) (payload : Bytes)
      (given : event = .payload i (.ok payload)) :
      ProxyMove session jar rt auth event i request (.receiving body sent head)
        (.relayed body sent ⟨head.status, head.reason, head.headers, payload⟩
          (relayResponse ⟨head.status, head.reason, head.headers, payload⟩))

/-- A request that was read stays read, with its body. -/
theorem ProxyMove.body {jar : J} {stage stage' : ProxyStage}
    (move : ProxyMove session jar rt auth event i request stage stage') {body : Bytes}
    (read : (⟨request, stage⟩ : ProxiedRequest).body = some body) :
    (⟨request, stage'⟩ : ProxiedRequest).body = some body := by
  cases move with
  | stays => exact read
  | fails | refuses | holds | forwards => cases read
  | receives | relays => exact read
  | breaks body' sent exc before =>
      obtain rfl | ⟨head, rfl⟩ := before
      · exact read
      · exact read

/-- Where one request alone moves, the others stay. -/
theorem ProxyServer.moved_of_modify {move : ProxiedRequest → ProxiedRequest} {r : ProxiedRequest}
    (moves : ∀ r, s.requests[j]? = some r → (move r).request = r.request ∧
      ProxyMove session s.jar rt auth event j r.request r.stage (move r).stage)
    (at_i : (s.requests.modify j move)[i]? = some r) :
    ∃ stage, s.requests[i]? = some ⟨r.request, stage⟩ ∧
      ProxyMove session s.jar rt auth event i r.request stage r.stage := by
  by_cases same : j = i
  · subst same
    rw [List.getElem?_modify_eq] at at_i
    obtain ⟨r', at_j, rfl⟩ := Option.map_eq_some_iff.mp at_i
    obtain ⟨request, moved⟩ := moves r' at_j
    rw [request]
    exact ⟨r'.stage, at_j, moved⟩
  · rw [List.getElem?_modify_ne _ _ same] at at_i
    exact ⟨r.stage, at_i, .stays r.stage⟩

/-- The move of the one request whose stage is known. -/
theorem ProxyServer.moved_to {before after : ProxyStage} {r : ProxiedRequest}
    (at_j : s.requests[j]? = some ⟨request, before⟩)
    (move : ProxyMove session s.jar rt auth event j request before after)
    (at_i : (s.requests.modify j fun r => { r with stage := after })[i]? = some r) :
    ∃ stage, s.requests[i]? = some ⟨r.request, stage⟩ ∧
      ProxyMove session s.jar rt auth event i r.request stage r.stage := by
  refine moved_of_modify (fun r at_r => ?_) at_i
  obtain rfl := Option.some.inj (at_j.symm.trans at_r)
  exact ⟨rfl, move⟩

/-- After a step a request has just arrived, or it has moved. -/
theorem ProxyServer.moved_of_step (started : Asyncly.expectedAuth rt auth = .ok s.expectedAuth)
    {r : ProxiedRequest} (at_i : (s.step session event).requests[i]? = some r) :
    (i = s.requests.length ∧ r.stage = .reading) ∨
      ∃ stage, s.requests[i]? = some ⟨r.request, stage⟩ ∧
        ProxyMove session s.jar rt auth event i r.request stage r.stage := by
  cases event with
  | arrive request =>
      rw [ProxyServer.step] at at_i
      dsimp only at at_i
      rw [List.getElem?_append] at at_i
      split at at_i
      · exact .inr ⟨r.stage, at_i, .stays r.stage⟩
      · have first : i - s.requests.length < 1 := (List.getElem?_eq_some_iff.mp at_i).1
        refine .inl ⟨by omega, ?_⟩
        rw [List.mem_singleton.mp (List.mem_of_getElem? at_i)]
  | read j read =>
      rw [ProxyServer.step.eq_def] at at_i
      dsimp only at at_i
      split at at_i
      · next request body at_j =>
          rw [handleBody] at at_i
          dsimp only at at_i
          rw [gate_eq started] at at_i
          cases admitted : admits rt auth request.headers with
          | false =>
              rw [admitted, Bool.not_false, if_pos rfl] at at_i
              exact .inr (moved_to at_j (.refuses body admitted) at_i)
          | true =>
              rw [admitted, Bool.not_true, if_neg Bool.false_ne_true] at at_i
              split at at_i
              · next exc _ => exact .inr (moved_to at_j (.holds body exc) at_i)
              · next sent send =>
                  exact .inr (moved_to at_j (.forwards body sent admitted rfl send) at_i)
      · next request exc at_j => exact .inr (moved_to at_j (.fails exc) at_i)
      · exact .inr ⟨r.stage, at_i, .stays r.stage⟩
  | head j head =>
      refine .inr (moved_of_modify (fun r _ => ?_) at_i)
      obtain ⟨request, stage⟩ := r
      cases stage with
      | forwarding body sent =>
          cases head with
          | ok head => exact ⟨rfl, .receives body sent head rfl⟩
          | error exc => exact ⟨rfl, .breaks body sent exc (.inl rfl)⟩
      | _ => exact ⟨rfl, .stays _⟩
  | payload j payload =>
      refine .inr (moved_of_modify (fun r _ => ?_) at_i)
      obtain ⟨request, stage⟩ := r
      cases stage with
      | receiving body sent head =>
          cases payload with
          | ok payload => exact ⟨rfl, .relays body sent head payload rfl⟩
          | error exc => exact ⟨rfl, .breaks body sent exc (.inr ⟨head, rfl⟩)⟩
      | _ => exact ⟨rfl, .stays _⟩

theorem ProxyServer.length_le_step (session : ForwardSession J) (s : ProxyServer J)
    (event : ProxyEvent) : s.requests.length ≤ (s.step session event).requests.length := by
  cases event with
  | arrive request => simp [ProxyServer.step]
  | read j read =>
      rw [ProxyServer.step.eq_def]
      dsimp only
      split
      · rw [handleBody]
        dsimp only
        split
        · simp
        · split <;> simp
      · simp
      · exact Nat.le_refl _
  | head j head => simp [ProxyServer.step]
  | payload j payload => simp [ProxyServer.step]

theorem ProxyServer.step_expectedAuth (session : ForwardSession J) (s : ProxyServer J)
    (event : ProxyEvent) : (s.step session event).expectedAuth = s.expectedAuth := by
  cases event with
  | read j read =>
      rw [ProxyServer.step.eq_def]
      dsimp only
      split
      · rw [handleBody]
        dsimp only
        split
        · rfl
        · split <;> rfl
      · rfl
      · rfl
  | arrive request => rfl
  | head j head => rfl
  | payload j payload => rfl

/-- So a request that was read is there with its body ever after. -/
theorem ProxyServer.read_step (session : ForwardSession J)
    (started : Asyncly.expectedAuth rt auth = .ok s.expectedAuth) (event : ProxyEvent)
    {r : ProxiedRequest} {body : Bytes} (at_i : s.requests[i]? = some r)
    (read : r.body = some body) :
    ∃ r', (s.step session event).requests[i]? = some r' ∧ r'.request = r.request ∧
      r'.body = some body := by
  have within : i < s.requests.length := (List.getElem?_eq_some_iff.mp at_i).1
  have later := within.trans_le (s.length_le_step session event)
  obtain ⟨r', at_i'⟩ : ∃ r', (s.step session event).requests[i]? = some r' :=
    ⟨_, List.getElem?_eq_getElem later⟩
  obtain ⟨beyond, -⟩ | ⟨stage, before, move⟩ := moved_of_step started at_i'
  · omega
  · obtain rfl := Option.some.inj (at_i.symm.trans before)
    exact ⟨r', at_i', rfl, move.body read⟩

end Proxy

/-! ### A step of the target -/

section Target

variable {loads : JsonLoads} {routes : List MockRoute} {s : MockServer R}
  {event : ServerEvent R} {j : Nat} {request : Request} {group : List MockRoute}
  {stage stage' : Stage R}

/-- A request that has come to its end stays there. -/
theorem ServedMove.ended (move : ServedMove loads s.service event j request group stage stage')
    {outcome : Except Exn R}
    (before : (⟨request, group, stage⟩ : ServedRequest R).ended = some outcome) :
    (⟨request, group, stage'⟩ : ServedRequest R).ended = some outcome := by
  cases move with
  | stays => exact before
  | reads | fails | dispatches | responds => cases before

/-- The body of a request is the one a step has read. -/
theorem ServedMove.bodyRead (move : ServedMove loads s.service event j request group stage stage')
    {body : Bytes} (after : (⟨request, group, stage'⟩ : ServedRequest R).bodyRead = some body) :
    (⟨request, group, stage⟩ : ServedRequest R).bodyRead = some body ∨
      event = .read j (.ok body) := by
  cases move with
  | stays | dispatches | responds => exact .inl after
  | reads body' given =>
      obtain rfl := Option.some.inj after
      exact .inr given
  | fails => cases after

theorem MockServer.length_le_step (s : MockServer R) (event : ServerEvent R) :
    s.requests.length ≤ (s.step loads routes event).requests.length := by
  cases event with
  | arrive method path request =>
      rw [MockServer.step]
      split <;> simp
  | dispatch k =>
      rw [MockServer.step]
      split <;> simp
  | _ => simp [MockServer.step]

/-- So a request goes on from where it is. -/
theorem MockServer.step_continues (loads : JsonLoads) (routes : List MockRoute)
    (event : ServerEvent R) {t : ServedRequest R} (at_j : s.requests[j]? = some t) :
    ∃ t', (s.step loads routes event).requests[j]? = some t' ∧ t'.request = t.request ∧
      (∀ outcome, t.ended = some outcome → t'.ended = some outcome) ∧
      ∀ body, t'.bodyRead = some body → t.bodyRead = some body ∨ event = .read j (.ok body) := by
  have within : j < s.requests.length := (List.getElem?_eq_some_iff.mp at_j).1
  have later : j < (s.step loads routes event).requests.length :=
    within.trans_le (s.length_le_step event)
  obtain ⟨t', at_j'⟩ : ∃ t', (s.step loads routes event).requests[j]? = some t' :=
    ⟨_, List.getElem?_eq_getElem later⟩
  obtain ⟨_, _, -, beyond, -⟩ | ⟨stage, before, move⟩ := MockServer.moved_of_step at_j'
  · omega
  · obtain rfl := Option.some.inj (at_j.symm.trans before)
    exact ⟨t', at_j', rfl, fun _ => move.ended, fun _ => move.bodyRead⟩

end Target

/-! ### A step of the two -/

namespace ProxiedService

variable {wire : TargetWire R} {session : ForwardSession J} {loads : JsonLoads}
  {made : Request → Bytes → Delivered → Prop}
  {routes : List MockRoute} {rt : Runtime} {auth : Option BasicAuth} {s : ProxiedService R J}
  {i : Nat} {c : Connection}

theorem mem_of_live (found : s.live i = some c) :
    c ∈ s.connections ∧ c.proxied = i ∧ c.failed = false := by
  have holds := List.find?_some found
  rw [decide_eq_true_eq] at holds
  exact ⟨List.mem_of_find?_eq_some found, holds⟩

/-- A request has one live connection. -/
theorem EndToEnd.eq_of_live (h : s.EndToEnd wire routes made rt auth) {c' : Connection}
    (member : c ∈ s.connections) (up : c.failed = false) (member' : c' ∈ s.connections)
    (up' : c'.failed = false) (same : c.proxied = c'.proxied) : c = c' :=
  List.inj_on_of_nodup_map h.live (List.mem_filter.mpr ⟨member, by simp [up]⟩)
    (List.mem_filter.mpr ⟨member', by simp [up']⟩) same

/-- What was sent for a request stays so. -/
theorem SentFor.proxyStep {sent : Delivered} (h : s.SentFor made rt auth i sent)
    (started : expectedAuth rt auth = .ok s.proxy.expectedAuth) (event : ProxyEvent) :
    (s.proxyStep session event).SentFor made rt auth i sent := by
  obtain ⟨r, body, at_i, read, admitted, made⟩ := h
  obtain ⟨r', at_i', request, read'⟩ := s.proxy.read_step session started event at_i
    read
  refine ⟨r', body, at_i', read', ?_, ?_⟩
  · rw [request]
    exact admitted
  · rw [request]
    exact made

/-- The proxy takes a step, and what it is given for a request is its answer. -/
theorem EndToEnd.proxyStep (h : s.EndToEnd wire routes made rt auth)
    (started : expectedAuth rt auth = .ok s.proxy.expectedAuth) (event : ProxyEvent)
    (heads : ∀ i head, event = .head i (.ok head) → ∀ c ∈ s.connections, c.proxied = i →
      c.failed = false → ∃ response, s.answerTo wire c = some response ∧ head = response.head)
    (payloads : ∀ i payload request body sent head, event = .payload i (.ok payload) →
      s.proxy.requests[i]? = some (⟨request, .receiving body sent head⟩ : ProxiedRequest) →
        s.AnsweredBy wire i ⟨head.status, head.reason, head.headers, payload⟩)
    (makes : ∀ i body request, event = .read i (.ok body) →
      s.proxy.requests[i]? = some (⟨request, .reading⟩ : ProxiedRequest) →
        admits rt auth request.headers = true → ∀ sent, session.send
          (session.cookies s.proxy.jar request.url) (forward request body) = .ok sent →
            made request body sent) :
    (s.proxyStep session event).EndToEnd wire routes made rt auth where
  carried c member := by
    obtain ⟨sent, unrouted, arrived⟩ := h.carried c member
    exact ⟨sent.proxyStep started event, unrouted, arrived⟩
  live := h.live
  served := h.served
  forwarding i request body sent at_i := by
    obtain ⟨-, arrived⟩ | ⟨stage, before, move⟩ := ProxyServer.moved_of_step started at_i
    · cases arrived
    · dsimp only at before move
      cases move with
      | stays => exact h.forwarding i request body sent before
      | forwards _ _ admitted given send =>
          exact ⟨admitted, makes i body request given before admitted sent send⟩
  receiving i request body sent head at_i := by
    obtain ⟨-, arrived⟩ | ⟨stage, before, move⟩ := ProxyServer.moved_of_step started at_i
    · cases arrived
    · dsimp only at before move
      cases move with
      | stays => exact h.receiving i request body sent head before
      | receives _ _ _ given => exact heads i head given
  refused i request body response at_i := by
    obtain ⟨-, arrived⟩ | ⟨stage, before, move⟩ := ProxyServer.moved_of_step started at_i
    · cases arrived
    · dsimp only at before move
      cases move with
      | stays => exact h.refused i request body response before
      | refuses _ refused =>
          refine ⟨refused, rfl, fun c member same => ?_⟩
          -- A request on a connection has been read.
          obtain ⟨r, body', at_c, read, -⟩ := (h.carried c member).sent
          rw [same] at at_c
          obtain rfl := Option.some.inj (before.symm.trans at_c)
          cases read
  relayed i request body sent upstream response at_i := by
    obtain ⟨-, arrived⟩ | ⟨stage, before, move⟩ := ProxyServer.moved_of_step started at_i
    · cases arrived
    · dsimp only at before move
      cases move with
      | stays => exact h.relayed i request body sent upstream response before
      | relays _ _ head payload given =>
          exact ⟨payloads i payload request body sent head given before, relayResponse_eq _⟩

/-- An answer stays an answer while the target goes on. -/
theorem answerTo_targetStep (event : ServerEvent R) {response : HttpResponse}
    (given : s.answerTo wire c = some response) :
    answerTo wire { s with target := s.target.step loads routes event } c = some response := by
  rw [answerTo] at given ⊢
  cases served : c.served with
  | none =>
      rw [served] at given
      exact given
  | some j =>
      rw [served] at given
      obtain ⟨outcome, ended, same⟩ := Option.map_eq_some_iff.mp given
      obtain ⟨t, at_j, ended⟩ := Option.bind_eq_some_iff.mp ended
      obtain ⟨t', at_j', -, still, -⟩ := MockServer.step_continues loads routes event at_j
      dsimp only
      rw [at_j', Option.bind_some, still outcome ended, Option.map_some, same]

/-- The target takes a step that reads on each connection what was sent. -/
theorem EndToEnd.targetStep (h : s.EndToEnd wire routes made rt auth) (loads : JsonLoads)
    (event : ServerEvent R)
    (carries : ∀ j body, event = .read j (.ok body) → ∀ c ∈ s.connections, c.served = some j →
      body = wire.body c.sent) :
    EndToEnd wire routes made rt auth
      { s with target := s.target.step loads routes event } where
  carried c member := by
    obtain ⟨sent, unrouted, arrived⟩ := h.carried c member
    refine ⟨sent, unrouted, fun j served => ?_⟩
    obtain ⟨t, at_j, request, reads⟩ := arrived j served
    obtain ⟨t', at_j', same, -, news⟩ := MockServer.step_continues loads routes event at_j
    refine ⟨t', at_j', same.trans request, fun other given => ?_⟩
    obtain old | new := news other given
    · exact reads other old
    · exact carries j other new c member served
  live := h.live
  served := h.served
  forwarding := h.forwarding
  receiving i request body sent head at_i c member same up := by
    obtain ⟨response, given, heads⟩ := h.receiving i request body sent head at_i c member same up
    exact ⟨response, answerTo_targetStep event given, heads⟩
  refused := h.refused
  relayed i request body sent upstream response at_i := by
    obtain ⟨⟨c, member, same, given⟩, passed⟩ :=
      h.relayed i request body sent upstream response at_i
    exact ⟨⟨c, member, same, answerTo_targetStep event given⟩, passed⟩

/-- A connection is opened for a request that is on none. -/
theorem EndToEnd.connected (h : s.EndToEnd wire routes made rt auth) {request : Request}
    {body : Bytes} {before sent : Delivered} {n : Option Nat}
    (at_i : s.proxy.requests[i]? = some ⟨request, .forwarding body before⟩)
    (idle : s.live i = none) (fresh : ∀ j ∈ n, j ∉ s.connections.filterMap Connection.served)
    (carries : Carries wire routes made rt auth s ⟨i, n, sent, false⟩) :
    EndToEnd wire routes made rt auth
      { s with connections := s.connections ++ [⟨i, n, sent, false⟩] } where
  carried c member := by
    obtain old | new := List.mem_append.mp member
    · obtain ⟨sent, unrouted, arrived⟩ := h.carried c old
      exact ⟨sent, unrouted, arrived⟩
    · obtain rfl := List.mem_singleton.mp new
      obtain ⟨sent, unrouted, arrived⟩ := carries
      exact ⟨sent, unrouted, arrived⟩
  live := by
    rw [List.filter_append, List.map_append]
    refine List.nodup_append.mpr ⟨h.live, List.nodup_singleton i, fun j old k new => ?_⟩
    obtain rfl := List.mem_singleton.mp new
    obtain ⟨c, member, rfl⟩ := List.mem_map.mp old
    obtain ⟨member, up⟩ := List.mem_filter.mp member
    rintro same
    rw [ProxiedService.live, List.find?_eq_none] at idle
    refine idle c member (decide_eq_true ⟨same, ?_⟩)
    simpa using up
  served := by
    rw [List.filterMap_append]
    refine List.nodup_append.mpr ⟨h.served, ?_, fun j old k new => ?_⟩
    · cases n with
      | none => exact List.nodup_nil
      | some n => exact List.nodup_singleton n
    · obtain ⟨c, member, served⟩ := List.mem_filterMap.mp new
      rw [List.mem_singleton.mp member] at served
      rintro rfl
      exact fresh j served old
  forwarding := h.forwarding
  receiving j request' body' sent' head at_j c member same up := by
    obtain old | new := List.mem_append.mp member
    · exact h.receiving j request' body' sent' head at_j c old same up
    · -- a request that waits for the body of its answer is not forwarded again
      rw [List.mem_singleton.mp new] at same
      obtain rfl : i = j := same
      cases at_i.symm.trans at_j
  refused j request' body' response at_j := by
    obtain ⟨refused, same, away⟩ := h.refused j request' body' response at_j
    refine ⟨refused, same, fun c member => ?_⟩
    obtain old | new := List.mem_append.mp member
    · exact away c old
    · rw [List.mem_singleton.mp new]
      rintro rfl
      cases at_i.symm.trans at_j
  relayed j request' body' sent' upstream response at_j := by
    obtain ⟨⟨c, member, same, given⟩, passed⟩ :=
      h.relayed j request' body' sent' upstream response at_j
    exact ⟨⟨c, List.mem_append_left _ member, same, given⟩, passed⟩

/-- Connections fail. -/
theorem EndToEnd.fail (h : s.EndToEnd wire routes made rt auth) (i : Nat) :
    EndToEnd wire routes made rt auth
      { s with connections := s.connections.map fun c =>
          if c.proxied = i then { c with failed := true } else c } := by
  generalize failing : (fun c : Connection =>
    if c.proxied = i then { c with failed := true } else c) = f
  have kept (c : Connection) : (f c).proxied = c.proxied ∧ (f c).served = c.served ∧
      (f c).sent = c.sent ∧ (c.failed = true → (f c).failed = true) := by
    rw [← failing]
    dsimp only
    split
    · exact ⟨rfl, rfl, rfl, fun _ => rfl⟩
    · exact ⟨rfl, rfl, rfl, id⟩
  have answers (c : Connection) : s.answerTo wire (f c) = s.answerTo wire c := by
    rw [answerTo, answerTo, (kept c).2.1, (kept c).2.2.1]
  refine ⟨fun c member => ?_, ?_, ?_, h.forwarding, ?_, ?_, ?_⟩
  · obtain ⟨before, was, rfl⟩ := List.mem_map.mp member
    obtain ⟨proxied, served, sent, -⟩ := kept before
    obtain ⟨given, unrouted, arrived⟩ := h.carried before was
    constructor
    · rw [proxied, sent]
      exact given
    · rw [served, sent]
      exact unrouted
    · rw [served, sent]
      exact arrived
  · have same : Connection.proxied ∘ f = Connection.proxied := funext fun c => (kept c).1
    rw [List.filter_map, List.map_map, same]
    refine h.live.sublist (List.Sublist.map _ (List.monotone_filter_right _ fun c up => ?_))
    have still := (kept c).2.2.2
    revert up
    cases failed : c.failed with
    | false => simp
    | true => simp [still failed]
  · have same : Connection.served ∘ f = Connection.served := funext fun c => (kept c).2.1
    rw [List.filterMap_map, same]
    exact h.served
  · intro j request body sent head at_j c member same up
    obtain ⟨before, was, rfl⟩ := List.mem_map.mp member
    rw [(kept before).1] at same
    have upBefore : before.failed = false := by
      cases failed : before.failed with
      | false => rfl
      | true => rw [(kept before).2.2.2 failed] at up; cases up
    obtain ⟨response, given, heads⟩ :=
      h.receiving j request body sent head at_j before was same upBefore
    exact ⟨response, (answers before).trans given, heads⟩
  · intro j request body response at_j
    obtain ⟨refused, same, away⟩ := h.refused j request body response at_j
    refine ⟨refused, same, fun c member => ?_⟩
    obtain ⟨before, was, rfl⟩ := List.mem_map.mp member
    rw [(kept before).1]
    exact away before was
  · intro j request body sent upstream response at_j
    obtain ⟨⟨c, member, same, given⟩, passed⟩ :=
      h.relayed j request body sent upstream response at_j
    exact ⟨⟨f c, List.mem_map_of_mem member, (kept c).1.trans same, (answers c).trans given⟩,
      passed⟩

/-- A request of the target is on one connection. -/
theorem EndToEnd.eq_of_served (h : s.EndToEnd wire routes made rt auth) {c' : Connection}
    {j : Nat} (member : c ∈ s.connections) (member' : c' ∈ s.connections)
    (served : c.served = some j) (served' : c'.served = some j) : c = c' := by
  have apart := List.pairwise_filterMap.mp h.served
  have : Std.Symm fun c c' : Connection =>
      ∀ k, c.served = some k → ∀ l, c'.served = some l → k ≠ l :=
    ⟨fun _ _ differ k here l there => (differ l there k here).symm⟩
  by_contra other
  exact apart.forall member member' other j served j served' rfl

/-- What the target reads on a connection was sent on it. -/
theorem EndToEnd.carry (h : s.EndToEnd wire routes made rt auth) {event : ServerEvent R} {j : Nat}
    {body : Bytes} (reads : s.carry wire event = .read j (.ok body)) :
    ∀ c ∈ s.connections, c.served = some j → body = wire.body c.sent := by
  intro c member same
  cases event with
  | read k read =>
      cases read with
      | error exc => cases reads
      | ok given =>
          obtain ⟨rfl, read⟩ := ServerEvent.read.inj reads
          have found : s.connections.find? (fun c => c.served = some k) = some c := by
            cases first : s.connections.find? (fun c => c.served = some k) with
            | none =>
                rw [List.find?_eq_none] at first
                exact absurd (decide_eq_true same) (first c member)
            | some other =>
                have there := List.find?_some first
                rw [decide_eq_true_eq] at there
                rw [h.eq_of_served (List.mem_of_find?_eq_some first) member there same]
          rw [found] at read
          exact (Except.ok.inj read).symm
  | _ => cases reads

/-- A request that waits for its answer reaches the target. -/
theorem EndToEnd.deliver (h : s.EndToEnd wire routes made rt auth) {request : Request}
    {body : Bytes} {before sent : Delivered}
    (at_i : s.proxy.requests[i]? = some ⟨request, .forwarding body before⟩)
    (idle : s.live i = none) (right : made request body sent) :
    (s.deliver wire loads routes i sent).EndToEnd wire routes made rt auth := by
  have sentFor : s.SentFor made rt auth i sent :=
    ⟨_, body, at_i, rfl, (h.forwarding i request body before at_i).1, right⟩
  rw [ProxiedService.deliver]
  cases grouped : (groupRoutes routes).get?
      ((wire.routed sent).method, (wire.routed sent).path) with
  | none => exact h.connected at_i idle (fun j given => by cases given) ⟨sentFor, fun _ => grouped,
      fun j served => by cases served⟩
  | some group =>
      have arrived := h.targetStep loads
        (.arrive (wire.routed sent).method (wire.routed sent).path (wire.routed sent).request)
        (fun j body reads => by cases reads)
      have added : (s.target.step loads routes (.arrive (wire.routed sent).method
          (wire.routed sent).path
          (wire.routed sent).request)).requests[s.target.requests.length]? =
            some ⟨(wire.routed sent).request, group, .reading⟩ := by
        rw [MockServer.step, grouped]
        exact List.getElem?_concat_length
      refine arrived.connected at_i idle (fun j given there => ?_) ⟨sentFor, fun none => ?_,
        fun j served => ?_⟩
      · -- the number of a request that has just arrived is on no connection
        obtain rfl := Option.some.inj given
        obtain ⟨c, member, served⟩ := List.mem_filterMap.mp there
        obtain ⟨t, at_c, -⟩ := (h.carried c member).arrived _ served
        rw [List.getElem?_eq_none (Nat.le_refl _)] at at_c
        cases at_c
      · cases none
      · obtain rfl := Option.some.inj served
        exact ⟨_, added, rfl, fun read unread => by cases unread⟩

/-- The answer that reaches the proxy is that to the live connection. -/
theorem EndToEnd.answered (h : s.EndToEnd wire routes made rt auth) {response : HttpResponse}
    (given : (s.live i).bind (s.answerTo wire) = some response) (member : c ∈ s.connections)
    (same : c.proxied = i) (up : c.failed = false) : s.answerTo wire c = some response := by
  obtain ⟨c', found, given⟩ := Option.bind_eq_some_iff.mp given
  obtain ⟨member', same', up'⟩ := mem_of_live found
  rw [h.eq_of_live member up member' up' (same.trans same'.symm)]
  exact given

/-- Every step keeps requests and answers together. -/
theorem EndToEnd.step (h : s.EndToEnd wire routes made rt auth)
    (started : expectedAuth rt auth = .ok s.proxy.expectedAuth) {event : ProxiedEvent R}
    (makes : s.Makes session made rt auth event) :
    (s.step wire session loads routes event).EndToEnd wire routes made rt auth := by
  -- a step of the proxy that is no answer and reads nothing
  have alone (own : ProxyEvent) (noHead : ∀ i head, own ≠ .head i (.ok head))
      (noPayload : ∀ i payload, own ≠ .payload i (.ok payload))
      (noRead : ∀ i body, own ≠ .read i (.ok body)) :
      (s.proxyStep session own).EndToEnd wire routes made rt auth :=
    h.proxyStep started own (fun i head given => absurd given (noHead i head))
      (fun i payload _ _ _ _ given => absurd given (noPayload i payload))
      (fun i body _ given => absurd given (noRead i body))
  cases event with
  | arrive request => exact alone (.arrive request) (by simp) (by simp) (by simp)
  | giveUp i exc => exact alone (.head i (.error exc)) (by simp) (by simp) (by simp)
  | breakOff i exc => exact alone (.payload i (.error exc)) (by simp) (by simp) (by simp)
  | disconnect i => exact h.fail i
  | target event => exact h.targetStep loads _ fun j body reads => h.carry reads
  | read i read =>
      refine h.proxyStep started _ (fun _ _ given => by cases given)
        (fun _ _ _ _ _ _ given => by cases given) fun j body request given => ?_
      obtain ⟨rfl, rfl⟩ := ProxyEvent.read.inj given
      exact makes.first i body request rfl
  | connect i =>
      rw [ProxiedService.step.eq_def]
      dsimp only
      split
      · next request body sent at_i idle =>
          split
          · exact h.deliver at_i idle (h.forwarding i request body sent at_i).2
          · rw [ProxiedService.sendAgain]
            split
            · next exc _ => exact alone (.head i (.error exc)) (by simp) (by simp) (by simp)
            · next again send =>
                exact h.deliver at_i idle (makes.again i body request sent rfl at_i again send)
      · exact h
  | answer i =>
      rw [ProxiedService.step.eq_def]
      dsimp only
      split
      · exact h
      · next response given =>
          refine h.proxyStep started _ (fun j head same => ?_)
            (fun _ _ _ _ _ _ same => by cases same) fun _ _ _ same => by cases same
          obtain ⟨rfl, head⟩ := ProxyEvent.head.inj same
          obtain rfl := Except.ok.inj head
          exact fun c member same up => ⟨response, h.answered given member same up, rfl⟩
  | payload i =>
      rw [ProxiedService.step.eq_def]
      dsimp only
      split
      · exact h
      · next response given =>
          obtain ⟨c, found, answer⟩ := Option.bind_eq_some_iff.mp given
          obtain ⟨member, at_c, up⟩ := mem_of_live found
          refine h.proxyStep started _ (fun _ _ same => by cases same)
            (fun j payload request body sent head same at_j => ?_) fun _ _ _ same => by cases same
          obtain ⟨rfl, payload⟩ := ProxyEvent.payload.inj same
          obtain rfl := Except.ok.inj payload
          -- its head has come before
          obtain ⟨response', answer', rfl⟩ :=
            h.receiving i request body sent head at_j c member at_c up
          obtain rfl := Option.some.inj (answer.symm.trans answer')
          exact ⟨c, member, at_c, answer⟩

/-- The two parts take steps of their own only. -/
theorem step_parts (wire : TargetWire R) (session : ForwardSession J) (loads : JsonLoads)
    (routes : List MockRoute) (s : ProxiedService R J) (event : ProxiedEvent R) :
    (∃ own, (s.step wire session loads routes event).proxy =
        Runs.run (ProxyServer.step session) s.proxy own) ∧
      ∃ own, (s.step wire session loads routes event).target =
        Runs.run (MockServer.step loads routes) s.target own := by
  have proxyOne (own : ProxyEvent) : ∃ events, s.proxy.step session own =
      Runs.run (ProxyServer.step session) s.proxy events := ⟨[own], rfl⟩
  have targetOne (own : ServerEvent R) : ∃ events, s.target.step loads routes own =
      Runs.run (MockServer.step loads routes) s.target events := ⟨[own], rfl⟩
  have none : (∃ own, s.proxy = Runs.run (ProxyServer.step session) s.proxy own) ∧
      ∃ own, s.target = Runs.run (MockServer.step loads routes) s.target own :=
    ⟨⟨[], rfl⟩, [], rfl⟩
  have delivered (i : Nat) (sent : Delivered) :
      (∃ own, (s.deliver wire loads routes i sent).proxy =
          Runs.run (ProxyServer.step session) s.proxy own) ∧
        ∃ own, (s.deliver wire loads routes i sent).target =
          Runs.run (MockServer.step loads routes) s.target own := by
    rw [ProxiedService.deliver]
    split
    · exact ⟨none.1, targetOne (.arrive (wire.routed sent).method (wire.routed sent).path
        (wire.routed sent).request)⟩
    · exact none
  cases event with
  | arrive request => exact ⟨proxyOne (.arrive request), none.2⟩
  | read i body => exact ⟨proxyOne (.read i body), none.2⟩
  | giveUp i exc => exact ⟨proxyOne (.head i (.error exc)), none.2⟩
  | breakOff i exc => exact ⟨proxyOne (.payload i (.error exc)), none.2⟩
  | disconnect i => exact none
  | target event => exact ⟨none.1, targetOne (s.carry wire event)⟩
  | connect i =>
      rw [ProxiedService.step.eq_def]
      dsimp only
      split
      · next request body sent at_i idle =>
          split
          · exact delivered i sent
          · rw [ProxiedService.sendAgain]
            split
            · next exc _ => exact ⟨proxyOne (.head i (.error exc)), none.2⟩
            · next again _ => exact delivered i again
      · exact none
  | answer i =>
      rw [ProxiedService.step.eq_def]
      dsimp only
      split
      · exact none
      · next response _ => exact ⟨proxyOne (.head i (.ok response.head)), none.2⟩
  | payload i =>
      rw [ProxiedService.step.eq_def]
      dsimp only
      split
      · exact none
      · next response _ => exact ⟨proxyOne (.payload i (.ok response.body)), none.2⟩

theorem step_expectedAuth (s : ProxiedService R J) (event : ProxiedEvent R) :
    (s.step wire session loads routes event).proxy.expectedAuth = s.proxy.expectedAuth := by
  obtain ⟨⟨own, moved⟩, -⟩ := step_parts wire session loads routes s event
  rw [moved]
  have kept (t : ProxyServer J) (e : ProxyEvent) (h : t.expectedAuth = s.proxy.expectedAuth) :
      (t.step session e).expectedAuth = s.proxy.expectedAuth :=
    (t.step_expectedAuth session e).trans h
  exact Runs.run_invariant kept rfl own

theorem endToEnd_start (expected : Option String) (jar : J) :
    (start (R := R) routes expected jar).EndToEnd wire routes made rt auth where
  carried _ none := by cases none
  live := List.nodup_nil
  served := List.nodup_nil
  forwarding _ _ _ _ none := by cases none
  receiving _ _ _ _ _ none := by cases none
  refused _ _ _ _ none := by cases none
  relayed _ _ _ _ _ _ none := by cases none

/-- Where the session makes each request as it should, requests and answers are together in
every state the two come to. -/
theorem endToEnd_of_makes {expected : Option String}
    (started : expectedAuth rt auth = .ok expected) {jar : J} {events : List (ProxiedEvent R)}
    (makes : Runs.EveryStep (step wire session loads routes) (Makes session made rt auth)
      (start routes expected jar) events) :
    (Runs.run (step wire session loads routes) (start routes expected jar) events).EndToEnd wire
      routes made rt auth := by
  have kept (s : ProxiedService R J) (event : ProxiedEvent R)
      (h : s.proxy.expectedAuth = expected ∧ s.EndToEnd wire routes made rt auth)
      (makes : s.Makes session made rt auth event) :
      (s.step wire session loads routes event).proxy.expectedAuth = expected ∧
        (s.step wire session loads routes event).EndToEnd wire routes made rt auth := by
    obtain ⟨same, together⟩ := h
    exact ⟨(s.step_expectedAuth event).trans same, together.step (same ▸ started) makes⟩
  exact (makes.run_invariant kept ⟨rfl, endToEnd_start expected jar⟩).2

/-- A session that takes each request it makes as it was received makes it so. -/
theorem TakenAsMade.makes (documented : session.Documented) {event : ProxiedEvent R}
    (taken : s.TakenAsMade session rt auth event) :
    s.Makes session SentAsReceived rt auth event where
  first i body request given at_i admitted sent send := by
    subst given
    obtain ⟨delivered, made, carries⟩ := documented.delivers (taken request at_i admitted)
    obtain rfl := Except.ok.inj (made.symm.trans send)
    exact carries
  again i body request before given at_i sent send := by
    subst given
    obtain ⟨delivered, made, carries⟩ := documented.delivers (taken request body before at_i)
    obtain rfl := Except.ok.inj (made.symm.trans send)
    exact carries

/-- Whatever the order of their steps and whichever connections fail, in every state a proxy
and its target can come to requests and answers are together: what is sent is what the session
makes of a request with the cookies of some time, and what was received if the session takes
each request so. Each of the two is in a state it can come to by itself. -/
theorem run_endToEnd (wire : TargetWire R) (session : ForwardSession J) (loads : JsonLoads)
    (routes : List MockRoute) {expected : Option String}
    (started : expectedAuth rt auth = .ok expected) (jar : J) (events : List (ProxiedEvent R)) :
    let s := Runs.run (step wire session loads routes) (start routes expected jar) events
    s.EndToEnd wire routes (SentWithCookies session) rt auth ∧
      (session.Documented → Runs.EveryStep (step wire session loads routes)
          (TakenAsMade session rt auth) (start routes expected jar) events →
        s.EndToEnd wire routes SentAsReceived rt auth) ∧
      (∃ own, s.proxy = Runs.run (ProxyServer.step session) (.start expected jar) own) ∧
      ∃ own, s.target = Runs.run (MockServer.step loads routes) (.start routes) own := by
  intro s
  refine ⟨?_, fun documented taken => ?_, ?_, ?_⟩
  · refine endToEnd_of_makes started (Runs.everyStep_of_forall (fun s event => ?_) _ events)
    exact ⟨fun _ _ _ _ _ _ _ send => ⟨s.proxy.jar, send⟩, fun _ _ _ _ _ _ _ send =>
      ⟨s.proxy.jar, send⟩⟩
  · exact endToEnd_of_makes started (taken.mono fun s event => TakenAsMade.makes documented)
  · exact Runs.exists_run_part (fun s event => (step_parts wire session loads routes s event).1) _
      events
  · exact Runs.exists_run_part (fun s event => (step_parts wire session loads routes s event).2) _
      events

end ProxiedService

/-- A request with the credentials of the proxy and one without; the first connection fails
before the target has answered. -/
def Sample.proxiedEvents : List (ProxiedEvent Nat) :=
  [.target (.register "empty" 1),
    .arrive (Sample.proxyRequest []),
    .arrive (Sample.proxyRequest [("proxy-authorization", "Basic cHJveHk6c2VjcmV0")]),
    .read 1 (.ok [0x7B, 0x7D]), .read 0 (.ok []), .connect 1, .target (.read 0 (.ok [])),
    .disconnect 1, .connect 1, .target (.read 1 (.ok [])), .target (.dispatch 1),
    .target (.respond 1 (.ok ⟨⟩)), .answer 1, .payload 1]

/-- Everything is posted to the items; a response is its status. -/
def Sample.targetWire : TargetWire Nat where
  routed _ := ⟨"POST", "/items", Sample.postedItem⟩
  body := Delivered.body
  answers _ outcome := ⟨outcome.toOption.elim 500 (200 + ·), "", [("Connection", "close")], []⟩
  unrouted _ := ⟨404, "Not Found", [], []⟩

theorem ProxiedService.run_endToEnd_sample :
    let s := Runs.run (step Sample.targetWire Sample.forwardSession Sample.loads Sample.routes)
      (start Sample.routes (some "Basic cHJveHk6c2VjcmV0") []) Sample.proxiedEvents
    s.EndToEnd Sample.targetWire Sample.routes (SentWithCookies Sample.forwardSession)
        Sample.proxyRuntime (some Sample.proxyAuth) ∧
      s.EndToEnd Sample.targetWire Sample.routes SentAsReceived Sample.proxyRuntime
        (some Sample.proxyAuth) := by
  have started : expectedAuth Sample.proxyRuntime (some Sample.proxyAuth) =
      .ok (some "Basic cHJveHk6c2VjcmV0") := rfl
  obtain ⟨together, asReceived, -⟩ := run_endToEnd Sample.targetWire Sample.forwardSession
    Sample.loads Sample.routes started [] Sample.proxiedEvents
  refine ⟨together, asReceived Sample.forwardSession_documented ?_⟩
  refine ⟨trivial, trivial, trivial, fun request at_1 _ => ?_, fun request at_0 admitted => ?_,
    fun request body sent at_1 => ?_, trivial, trivial, fun request body sent at_1 => ?_, trivial,
    trivial, trivial, trivial, trivial, trivial⟩
  · cases at_1
    exact Sample.takes_admitted _
  · cases at_0
    exact absurd admitted (by decide)
  · cases at_1
    exact Sample.takes_admitted _
  · cases at_1
    exact Sample.takes_admitted _

/-- The request is on two connections, one after the other, and gets the second answer. -/
example :
    let s := Runs.run (ProxiedService.step Sample.targetWire Sample.forwardSession Sample.loads
      Sample.routes) (.start Sample.routes (some "Basic cHJveHk6c2VjcmV0") []) Sample.proxiedEvents
    s.connections.map (fun c => (c.proxied, c.served, c.failed)) =
        [(1, some 0, true), (1, some 1, false)] ∧
      s.proxy.requests.map ProxiedRequest.response =
        [some proxyAuthenticationRequired, some ⟨201, "", [], []⟩] := by
  decide

end Asyncly
