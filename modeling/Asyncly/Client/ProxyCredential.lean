import Asyncly.Client.Middlewares

/-!
# The credential a proxy receives

A plain-HTTP proxy is sent the headers of the request itself, a tunnelling one the
proxy headers on `CONNECT`. The middlewares run on whole requests; what they do to the
credential is followed on a view of the request that keeps only its entries.
-/

namespace Asyncly

/-! ### Running a chain -/

/-- A middleware by what it makes of the request, given what the caller's do. -/
def runMiddleware (user : String → ClientRequest → ClientRequest) :
    Middleware → ClientRequest → ClientRequest
  | .forwardPlainHttpProxyAuth => forwardPlainHttpProxyAuth
  | .exposeAiohttpTransportErrors => id
  | .user name => user name

/-- The request that reaches the connection, the first middleware being outermost. -/
def runChain (user : String → ClientRequest → ClientRequest) (chain : List Middleware)
    (request : ClientRequest) : ClientRequest :=
  chain.foldl (fun request middleware => runMiddleware user middleware request) request

/-- What a request says about its proxy credential. -/
@[ext] structure CredentialView where
  scheme : String
  proxied : Bool
  own : List String
  onConnect : List String

namespace CredentialView

def ofRequest (request : ClientRequest) : CredentialView where
  scheme := request.url.scheme
  proxied := request.proxy.isSome
  own := request.headers.getAll "Proxy-Authorization"
  onConnect := (request.proxyHeaders.getD []).getAll "Proxy-Authorization"

/-- The entries the proxy is sent. -/
def received (view : CredentialView) : List String :=
  if view.scheme = "http" then view.own else view.onConnect

/-- A middleware on views: forwarding copies the first entry for the tunnel. -/
def step (view : CredentialView) (middleware : Middleware) : CredentialView :=
  if middleware = .forwardPlainHttpProxyAuth ∧ view.scheme = "http" ∧ view.proxied = true ∧
      view.own = [] then
    { view with own := view.onConnect.head?.toList }
  else view

/-- Middlewares of the caller that leave proxy credentials alone. -/
def Transparent (user : String → ClientRequest → ClientRequest) : Prop :=
  ∀ name request, ofRequest (user name request) = ofRequest request

variable {user : String → ClientRequest → ClientRequest}

theorem own_eq_nil_iff (request : ClientRequest) :
    (ofRequest request).own = [] ↔ request.headers.contains "proxy-authorization" = false := by
  rw [← Bool.not_eq_true, ofRequest, Headers.getAll_congr lower_proxyAuthorization]
  exact not_not.symm.trans (not_congr MultiDict.contains_iff_getAll_ne_nil).symm

theorem ofRequest_forward (request : ClientRequest) :
    ofRequest (forwardPlainHttpProxyAuth request) =
      step (ofRequest request) .forwardPlainHttpProxyAuth := by
  have applies : (ofRequest request).scheme = "http" ∧ (ofRequest request).proxied = true ∧
      (ofRequest request).own = [] ↔
        (request.url.scheme = "http" ∧ request.proxy ≠ none) ∧
          request.headers.contains "proxy-authorization" = false := by
    rw [own_eq_nil_iff, and_assoc]
    exact and_congr_right fun _ => and_congr_left fun _ => Option.isSome_iff_ne_none
  have first : (request.proxyHeaders.getD []).get? "Proxy-Authorization" =
      (ofRequest request).onConnect.head? := rfl
  rw [forwardPlainHttpProxyAuth, step, first]
  simp only [true_and, applies]
  by_cases plain : request.url.scheme = "http" ∧ request.proxy ≠ none
  · rw [if_pos plain]
    cases held : request.headers.contains "proxy-authorization" with
    | true => cases (ofRequest request).onConnect.head? <;> simp
    | false =>
        rw [if_pos ⟨plain, rfl⟩]
        cases entry : (ofRequest request).onConnect.head? with
        | none => exact CredentialView.ext rfl rfl ((own_eq_nil_iff request).mpr held) rfl
        | some value => exact CredentialView.ext rfl rfl MultiDict.getAll_set_self rfl
  · simp [plain]

/-- Requests and views run in step. -/
theorem ofRequest_runChain (transparent : Transparent user) (chain : List Middleware)
    (request : ClientRequest) :
    ofRequest (runChain user chain request) = chain.foldl step (ofRequest request) := by
  induction chain generalizing request with
  | nil => rfl
  | cons middleware rest ih =>
      have first : ofRequest (runMiddleware user middleware request) =
          step (ofRequest request) middleware := by
        cases middleware with
        | forwardPlainHttpProxyAuth => exact ofRequest_forward request
        | exposeAiohttpTransportErrors => simp [runMiddleware, step]
        | user name => simp [runMiddleware, step, transparent name request]
      rw [List.foldl_cons, ← first, ← ih]
      rfl

/-- A tunnelled request keeps its view. -/
theorem foldl_step_of_tunnel {view : CredentialView} (tunnel : view.scheme ≠ "http")
    (chain : List Middleware) : chain.foldl step view = view :=
  List.foldl_fixed' (fun _ => by simp [step, tunnel]) chain

theorem foldl_step_of_own {view : CredentialView} (own : view.own ≠ [])
    (chain : List Middleware) : chain.foldl step view = view :=
  List.foldl_fixed' (fun _ => by simp [step, own]) chain

theorem foldl_step_scheme (view : CredentialView) (chain : List Middleware) :
    (chain.foldl step view).scheme = view.scheme := by
  induction chain generalizing view with
  | nil => rfl
  | cons middleware rest ih =>
      rw [List.foldl_cons, ih, step]
      split <;> rfl

/-- A plain request without a credential of its own gets the one for the tunnel exactly
when the forwarding middleware is in the chain. -/
theorem foldl_step_of_plain {view : CredentialView} (plain : view.scheme = "http")
    (proxied : view.proxied = true) (own : view.own = []) (chain : List Middleware) :
    (chain.foldl step view).own =
      if .forwardPlainHttpProxyAuth ∈ chain then view.onConnect.head?.toList else [] := by
  induction chain with
  | nil => simpa using own
  | cons middleware rest ih =>
      by_cases forwards : middleware = .forwardPlainHttpProxyAuth
      · subst forwards
        have first : step view .forwardPlainHttpProxyAuth =
            { view with own := view.onConnect.head?.toList } := by
          simp [step, plain, proxied, own]
        rw [List.foldl_cons, first]
        cases entry : view.onConnect.head? with
        | none =>
            have back : ({ view with own := Option.toList none } : CredentialView) = view :=
              CredentialView.ext rfl rfl own.symm rfl
            rw [back, ih, entry]
            simp
        | some value =>
            rw [foldl_step_of_own (by simp)]
            simp
      · have same : step view middleware = view := by simp [step, forwards]
        have elsewhere : Middleware.forwardPlainHttpProxyAuth ∈ middleware :: rest ↔
            .forwardPlainHttpProxyAuth ∈ rest := by simp [Ne.symm forwards]
        rw [List.foldl_cons, same, ih]
        simp only [elsewhere]

end CredentialView

/-! ### From the arguments of a call to the proxy -/

/-- The request a call sends. -/
def clientRequest (url : Url) (kwargs : Kwargs) : ClientRequest where
  url := url
  proxy := kwargs.proxy.join
  headers := kwargs.headers.getD []
  proxyHeaders := kwargs.proxyHeaders

/-- The `Proxy-Authorization` entries the proxy is sent. -/
def receivedCredentials (request : ClientRequest) : List String :=
  if request.url.scheme = "http" then request.headers.getAll "Proxy-Authorization"
  else (request.proxyHeaders.getD []).getAll "Proxy-Authorization"

/-- The first credential present: the entry of `headers`, that of `proxy_headers`, the
encoded effective `proxy_auth`. -/
def preferredCredential (rt : Runtime) (kwargs : Kwargs) (defaultProxyAuth : Option BasicAuth) :
    Option String :=
  ((kwargs.headers.getD []).get? "Proxy-Authorization").or
    (((kwargs.proxyHeaders.getD []).get? "Proxy-Authorization").or
      (match effectiveProxyAuth kwargs defaultProxyAuth with
        | .basic auth => (rt.encodeBasicAuth auth).toOption
        | _ => none))

/-- The proxy is sent the preferred credential first, and nothing else when the caller
gave at most one entry in each place. -/
structure DeliversCredential (rt : Runtime) (kwargs : Kwargs)
    (defaultProxyAuth : Option BasicAuth) (request : ClientRequest) : Prop where
  first : (receivedCredentials request).head? = preferredCredential rt kwargs defaultProxyAuth
  only : ((kwargs.headers.getD []).getAll "Proxy-Authorization").length ≤ 1 →
    ((kwargs.proxyHeaders.getD []).getAll "Proxy-Authorization").length ≤ 1 →
      (receivedCredentials request).length ≤ 1

/-- A plain target, the credential in `proxy_headers` only, no `proxy_auth`, and nobody
else to forward it. -/
structure StrandedCredential (url : Url) (session : List Middleware) (kwargs : Kwargs)
    (defaultProxyAuth : Option BasicAuth) : Prop where
  plain : url.scheme = "http"
  noHeader : (kwargs.headers.getD []).get? "Proxy-Authorization" = none
  held : (kwargs.proxyHeaders.getD []).get? "Proxy-Authorization" ≠ none
  noAuth : effectiveProxyAuth kwargs defaultProxyAuth = .pyNone
  notForwarded : .forwardPlainHttpProxyAuth ∉ effectiveChain session kwargs

section Delivery

variable {rt : Runtime} {kwargs out : Kwargs} {defaultProxyAuth : Option BasicAuth}
  {user : String → ClientRequest → ClientRequest} {session : List Middleware} {url : Url}

theorem receivedCredentials_runChain (transparent : CredentialView.Transparent user)
    (chain : List Middleware) (request : ClientRequest) :
    receivedCredentials (runChain user chain request) =
      (chain.foldl CredentialView.step (.ofRequest request)).received := by
  rw [← CredentialView.ofRequest_runChain transparent]
  rfl

/-- What normalization leaves for the middlewares: either it found no credential of its
own and changed neither the proxy headers nor the chain, or the preferred credential is
the first proxy header and the forwarding middleware is installed. -/
theorem normalizeAuthKwargs_view (session : List Middleware)
    (prepared : normalizeAuthKwargs rt kwargs defaultProxyAuth = .ok out) :
    (out.headers.getD []).getAll "Proxy-Authorization" =
        (kwargs.headers.getD []).getAll "Proxy-Authorization" ∧
      out.proxy = kwargs.proxy ∧
      ((effectiveProxyAuth kwargs defaultProxyAuth = .pyNone ∧
          (kwargs.headers.getD []).get? "Proxy-Authorization" = none ∧
          out.proxyHeaders = kwargs.proxyHeaders ∧ out.middlewares = kwargs.middlewares) ∨
        (¬ (effectiveProxyAuth kwargs defaultProxyAuth = .pyNone ∧
            (kwargs.headers.getD []).get? "Proxy-Authorization" = none) ∧
          .forwardPlainHttpProxyAuth ∈ effectiveChain session out ∧
          ((out.proxyHeaders.getD []).getAll "Proxy-Authorization").head? =
            preferredCredential rt kwargs defaultProxyAuth ∧
          (((kwargs.proxyHeaders.getD []).getAll "Proxy-Authorization").length ≤ 1 →
            ((out.proxyHeaders.getD []).getAll "Proxy-Authorization").length ≤ 1))) := by
  obtain ⟨headers, same, branches⟩ := normalizeAuthKwargs_branches prepared
  have kept (proxyHeaders : Headers) :
      Headers.getAll "Proxy-Authorization" (proxyHeaders.popAll "Authorization") =
        proxyHeaders.getAll "Proxy-Authorization" :=
    MultiDict.getAll_popAll (by decide)
  have written (value : String) (proxyHeaders : Headers) :
      Headers.getAll "Proxy-Authorization" (proxyHeaders.set "Proxy-Authorization" value) =
        [value] := MultiDict.getAll_set_self
  rcases branches with
    ⟨none, absent, rfl⟩ | ⟨value, present, rfl⟩ | ⟨auth, value, basic, absent, held, rfl⟩ |
      ⟨auth, encoded, basic, absent, free, encodes, rfl⟩
  · exact ⟨same, rfl, .inl ⟨none, absent, rfl, rfl⟩⟩
  · refine ⟨same, rfl, .inr ⟨by simp [present], by simp [effectiveChain, addProxyAuthMiddleware],
      ?_, ?_⟩⟩
    · simp [addProxyAuthMiddleware, kept, written, preferredCredential, present]
    · simp [addProxyAuthMiddleware, kept, written]
  · refine ⟨same, rfl, .inr ⟨by simp [basic], by simp [effectiveChain, addProxyAuthMiddleware],
      ?_, ?_⟩⟩
    · simp only [addProxyAuthMiddleware, Option.getD_some, kept, preferredCredential, absent, held]
      exact held
    · simp [addProxyAuthMiddleware, kept]
  · refine ⟨same, rfl, .inr ⟨by simp [basic], by simp [effectiveChain, addProxyAuthMiddleware],
      ?_, ?_⟩⟩
    · simp [addProxyAuthMiddleware, written, preferredCredential, absent, free, basic, encodes,
        Except.toOption]
    · simp [addProxyAuthMiddleware, written]

theorem preferredCredential_of_own {value : String}
    (own : (kwargs.headers.getD []).get? "Proxy-Authorization" = some value) :
    preferredCredential rt kwargs defaultProxyAuth = some value := by
  simp [preferredCredential, own]

theorem Headers.get?_eq_head? (name : String) (headers : Headers) :
    headers.get? name = (headers.getAll name).head? := rfl

section Sent

variable (transparent : CredentialView.Transparent user)
  (prepared : normalizeAuthKwargs rt kwargs defaultProxyAuth = .ok out)
include transparent prepared

/-- What the proxy is sent, in terms of the view of the normalized call. -/
theorem receivedCredentials_sent {proxy : Url} (routed : kwargs.proxy = some (some proxy)) :
    receivedCredentials (runChain user (effectiveChain session out) (clientRequest url out)) =
      ((effectiveChain session out).foldl CredentialView.step
        ⟨url.scheme, true, (kwargs.headers.getD []).getAll "Proxy-Authorization",
          (out.proxyHeaders.getD []).getAll "Proxy-Authorization"⟩).received := by
  obtain ⟨own, sameProxy, -⟩ := normalizeAuthKwargs_view session prepared
  have view : CredentialView.ofRequest (clientRequest url out) =
      ⟨url.scheme, true, (kwargs.headers.getD []).getAll "Proxy-Authorization",
        (out.proxyHeaders.getD []).getAll "Proxy-Authorization"⟩ :=
    CredentialView.ext rfl (by simp [CredentialView.ofRequest, clientRequest, sameProxy, routed])
      own rfl
  rw [receivedCredentials_runChain transparent, view]

/-- Through a tunnel the proxy is sent the normalized proxy headers. -/
theorem delivers_of_tunnel {proxy : Url} (routed : kwargs.proxy = some (some proxy))
    (tunnel : url.scheme ≠ "http") :
    DeliversCredential rt kwargs defaultProxyAuth
      (runChain user (effectiveChain session out) (clientRequest url out)) := by
  have received : receivedCredentials
      (runChain user (effectiveChain session out) (clientRequest url out)) =
      (out.proxyHeaders.getD []).getAll "Proxy-Authorization" := by
    rw [receivedCredentials_sent transparent prepared routed,
      CredentialView.foldl_step_of_tunnel tunnel]
    simp only [CredentialView.received, tunnel, if_false]
  obtain ⟨-, -, outcome⟩ := normalizeAuthKwargs_view session prepared
  rcases outcome with ⟨noAuth, absent, sameHeaders, -⟩ | ⟨-, -, first, only⟩
  · refine ⟨?_, fun _ single => by rwa [received, sameHeaders]⟩
    rw [received, sameHeaders, preferredCredential, absent, noAuth, Headers.get?_eq_head?]
    simp
  · exact ⟨by rw [received, first], fun _ single => by rw [received]; exact only single⟩

/-- A plain request with an entry of its own keeps it. -/
theorem delivers_of_own {proxy : Url} (routed : kwargs.proxy = some (some proxy))
    (plain : url.scheme = "http") {value : String}
    (present : (kwargs.headers.getD []).get? "Proxy-Authorization" = some value) :
    DeliversCredential rt kwargs defaultProxyAuth
      (runChain user (effectiveChain session out) (clientRequest url out)) := by
  have own : (kwargs.headers.getD []).getAll "Proxy-Authorization" ≠ [] := by
    intro none
    rw [Headers.get?_eq_head?, none] at present
    cases present
  have received : receivedCredentials
      (runChain user (effectiveChain session out) (clientRequest url out)) =
      (kwargs.headers.getD []).getAll "Proxy-Authorization" := by
    rw [receivedCredentials_sent transparent prepared routed,
      CredentialView.foldl_step_of_own own]
    simp only [CredentialView.received, plain, if_true]
  refine ⟨?_, fun single _ => by rwa [received]⟩
  rw [received, preferredCredential_of_own present, ← present, Headers.get?_eq_head?]

/-- A plain request without one is sent what the forwarding middleware finds, if it is
there. -/
theorem receivedCredentials_of_plain (session : List Middleware) {proxy : Url}
    (routed : kwargs.proxy = some (some proxy))
    (plain : url.scheme = "http")
    (absent : (kwargs.headers.getD []).get? "Proxy-Authorization" = none) :
    receivedCredentials (runChain user (effectiveChain session out) (clientRequest url out)) =
      if .forwardPlainHttpProxyAuth ∈ effectiveChain session out then
        ((out.proxyHeaders.getD []).getAll "Proxy-Authorization").head?.toList
      else [] := by
  rw [Headers.get?_eq_head?, List.head?_eq_none_iff] at absent
  rw [receivedCredentials_sent transparent prepared routed, CredentialView.received,
    CredentialView.foldl_step_scheme, if_pos plain]
  exact CredentialView.foldl_step_of_plain plain rfl absent _

/-- On a plain request without an entry of its own, the credential is forwarded unless it
is stranded. -/
theorem delivers_iff_of_plain {proxy : Url} (routed : kwargs.proxy = some (some proxy))
    (plain : url.scheme = "http")
    (absent : (kwargs.headers.getD []).get? "Proxy-Authorization" = none) :
    DeliversCredential rt kwargs defaultProxyAuth
        (runChain user (effectiveChain session out) (clientRequest url out)) ↔
      ¬ StrandedCredential url session kwargs defaultProxyAuth := by
  have received := receivedCredentials_of_plain transparent prepared session routed plain absent
  have delivered (first : receivedCredentials
      (runChain user (effectiveChain session out) (clientRequest url out)) =
      (preferredCredential rt kwargs defaultProxyAuth).toList) :
      DeliversCredential rt kwargs defaultProxyAuth
        (runChain user (effectiveChain session out) (clientRequest url out)) :=
    ⟨by rw [first, Option.head?_toList], fun _ _ => by rw [first]; exact Option.length_toList_le⟩
  obtain ⟨-, -, outcome⟩ := normalizeAuthKwargs_view session prepared
  rcases outcome with ⟨noAuth, -, sameHeaders, sameChain⟩ | ⟨inPlay, installed, first, -⟩
  · have preferred : preferredCredential rt kwargs defaultProxyAuth =
        (kwargs.proxyHeaders.getD []).get? "Proxy-Authorization" := by
      rw [preferredCredential, absent, noAuth]
      simp
    have chain : effectiveChain session out = effectiveChain session kwargs := by
      rw [effectiveChain, effectiveChain, sameChain]
    rw [sameHeaders, chain, ← Headers.get?_eq_head?, ← preferred] at received
    rw [← chain] at received
    by_cases other : .forwardPlainHttpProxyAuth ∈ effectiveChain session out
    · rw [if_pos other] at received
      exact iff_of_true (delivered received) fun stranded => stranded.notForwarded (chain ▸ other)
    · rw [if_neg other] at received
      constructor
      · rintro ⟨first, -⟩ stranded
        rw [received, preferred] at first
        exact stranded.held first.symm
      · intro notStranded
        have nothing : (kwargs.proxyHeaders.getD []).get? "Proxy-Authorization" = none := by
          by_contra held
          exact notStranded ⟨plain, absent, held, noAuth, chain ▸ other⟩
        exact delivered (by rw [received, preferred, nothing]; rfl)
  · rw [if_pos installed, first] at received
    exact iff_of_true (delivered received) fun stranded => inPlay ⟨stranded.noAuth, absent⟩

end Sent

/-- The proxy is sent the preferred credential exactly when it is not stranded. -/
theorem delivers_iff_not_stranded (transparent : CredentialView.Transparent user)
    (prepared : normalizeAuthKwargs rt kwargs defaultProxyAuth = .ok out)
    {proxy : Url} (routed : kwargs.proxy = some (some proxy)) :
    DeliversCredential rt kwargs defaultProxyAuth
        (runChain user (effectiveChain session out) (clientRequest url out)) ↔
      ¬ StrandedCredential url session kwargs defaultProxyAuth := by
  by_cases plain : url.scheme = "http"
  · cases own : (kwargs.headers.getD []).get? "Proxy-Authorization" with
    | some value =>
        apply iff_of_true (delivers_of_own transparent prepared routed plain own)
        intro stranded
        cases own.symm.trans stranded.noHeader
    | none => exact delivers_iff_of_plain transparent prepared routed plain own
  · exact iff_of_true (delivers_of_tunnel transparent prepared routed plain)
      fun stranded => plain stranded.plain

end Delivery

/-- Routed through a proxy that is to be sent `proxy_headers`. -/
def Sample.proxied (proxyHeaders : Headers) (headers : Headers) : Kwargs where
  headers := some headers
  proxyHeaders := some proxyHeaders
  proxy := some (some ⟨"http://proxy:3128", "http", ""⟩)

theorem delivers_iff_not_stranded_sample :
    let kwargs := Sample.proxied [("Proxy-Authorization", "Basic a")]
      [("proxy-authorization", "Basic b")]
    let out := addProxyAuthMiddleware
      (Sample.proxied [("Proxy-Authorization", "Basic b")] [("proxy-authorization", "Basic b")])
    DeliversCredential Sample.runtime kwargs none
        (runChain (fun _ request => request) (effectiveChain [] out)
          (clientRequest Sample.url out)) ↔
      ¬ StrandedCredential Sample.url [] kwargs none := by
  exact delivers_iff_not_stranded (fun _ _ => rfl) rfl rfl

/-- A credential given in `proxy_headers` alone does not reach a plain-HTTP proxy. -/
theorem delivers_fails :
    let kwargs := Sample.proxied [("Proxy-Authorization", "Basic a")] []
    normalizeAuthKwargs Sample.runtime kwargs none = .ok kwargs ∧
      ¬ DeliversCredential Sample.runtime kwargs none
        (runChain (fun _ request => request) (effectiveChain [] kwargs)
          (clientRequest Sample.url kwargs)) := by
  refine ⟨rfl, ?_⟩
  rintro ⟨first, -⟩
  revert first
  decide

/-! ### The origin behind a tunnel -/

section Tunnel

variable {B V : Type} {rt : Runtime} {client : BaseHttpClient} {world : World B}
  {call : CallArgs B V} {user : String → ClientRequest → ClientRequest}

/-- No attempt hands the origin a `Proxy-Authorization` header, in any letter case. Through
a tunnel the origin is sent the headers of the request itself. -/
def KeepsOutOfTunnel {R : Type} (user : String → ClientRequest → ClientRequest)
    (session : List Middleware) (url : Url) (run : Async B R) : Prop :=
  ∀ sent ∈ run.log.filterMap Effect.request?,
    (runChain user (effectiveChain session sent) (clientRequest url sent)).headers.contains
      "proxy-authorization" = false

/-- Through a tunnel the origin is sent the entries the caller put into `headers`. -/
theorem tunnelled_own (transparent : CredentialView.Transparent user) (session : List Middleware)
    (tunnel : call.url.scheme = "https") {kwargs : Kwargs}
    (prepared : normalizeAuthKwargs rt (client.injectProxy call.kwargs) client.proxyAuth =
      .ok kwargs) :
    let sent := sessionKwargs call.retry kwargs
    (CredentialView.ofRequest
        (runChain user (effectiveChain session sent) (clientRequest call.url sent))).own =
      (call.kwargs.headers.getD []).getAll "Proxy-Authorization" := by
  intro sent
  have encrypted : (CredentialView.ofRequest (clientRequest call.url sent)).scheme ≠ "http" := by
    change call.url.scheme ≠ "http"
    rw [tunnel]
    decide
  have headers : sent.headers = kwargs.headers := by
    cases retry : call.retry <;> simp [sent, sessionKwargs, retry]
  obtain ⟨proxy, injected⟩ := client.injectProxy_eq call.kwargs
  obtain ⟨own, -, -⟩ := normalizeAuthKwargs_view session prepared
  rw [injected] at own
  rw [CredentialView.ofRequest_runChain transparent, CredentialView.foldl_step_of_tunnel encrypted,
    CredentialView.ofRequest, clientRequest, headers]
  exact own

/-- The credential stays out of the tunnel exactly when the caller did not put it into
`headers`, or the call is refused before its first attempt. -/
theorem BaseHttpClient.makeReq_keepsOutOfTunnel_iff
    (transparent : CredentialView.Transparent user) (session : List Middleware)
    (tunnel : call.url.scheme = "https") :
    KeepsOutOfTunnel user session call.url (client.makeReq rt world call) ↔
      (∀ kwargs, normalizeAuthKwargs rt (client.injectProxy call.kwargs) client.proxyAuth ≠
        .ok kwargs) ∨
      (call.kwargs.headers.getD []).contains "proxy-authorization" = false := by
  cases prepared : normalizeAuthKwargs rt (client.injectProxy call.kwargs) client.proxyAuth with
  | error exc =>
      refine iff_of_true ?_ (.inl fun kwargs same => by cases same)
      simp [KeepsOutOfTunnel, BaseHttpClient.makeReq_of_refused rt prepared]
  | ok kwargs =>
      obtain ⟨k, positive, requests⟩ := BaseHttpClient.makeReq_requests prepared
      have made : ¬ ∀ other, (.ok kwargs : Except Exn Kwargs) ≠ .ok other :=
        fun refused => refused kwargs rfl
      have own := tunnelled_own transparent session tunnel prepared
      have absent : (call.kwargs.headers.getD []).getAll "Proxy-Authorization" = [] ↔
          (call.kwargs.headers.getD []).contains "proxy-authorization" = false :=
        CredentialView.own_eq_nil_iff (clientRequest call.url call.kwargs)
      rw [or_iff_right made, ← absent, ← own, CredentialView.own_eq_nil_iff, KeepsOutOfTunnel,
        requests]
      constructor
      · intro kept
        exact kept _ (List.mem_replicate.mpr ⟨by omega, rfl⟩)
      · intro kept sent member
        rwa [List.eq_of_mem_replicate member]

end Tunnel

/-- An HTTPS target behind a proxy, the credential in `headers`. -/
def Sample.tunnelled : CallArgs Unit Nat where
  method := "GET"
  url := ⟨"https://api/items", "https", "/items"⟩
  handlers := Sample.handlers [(.status 200, Sample.handler (.ok 7))]
  kwargs := Sample.proxied [] [("Proxy-Authorization", "Basic a")]

theorem BaseHttpClient.makeReq_keepsOutOfTunnel_iff_sample :
    KeepsOutOfTunnel (fun _ request => request) [] Sample.tunnelled.url
        (Sample.client.makeReq Sample.runtime
          (Sample.world fun _ => .ok (Sample.response 200)) Sample.tunnelled) ↔
      (∀ kwargs, normalizeAuthKwargs Sample.runtime
        (Sample.client.injectProxy Sample.tunnelled.kwargs) none ≠ .ok kwargs) ∨
      (Sample.tunnelled.kwargs.headers.getD []).contains "proxy-authorization" = false := by
  have tunnel : Sample.tunnelled.url.scheme = "https" := rfl
  exact BaseHttpClient.makeReq_keepsOutOfTunnel_iff (fun _ _ => rfl) [] tunnel

/-- The credential is copied for the proxy, and still sent to the origin. -/
theorem BaseHttpClient.makeReq_keepsOutOfTunnel_fails :
    ¬ KeepsOutOfTunnel (fun _ request => request) [] Sample.tunnelled.url
      (Sample.client.makeReq Sample.runtime
        (Sample.world fun _ => .ok (Sample.response 200)) Sample.tunnelled) := by
  intro kept
  have sent : (Sample.client.makeReq Sample.runtime
      (Sample.world fun _ => .ok (Sample.response 200)) Sample.tunnelled).log.filterMap
        Effect.request? = [addProxyAuthMiddleware
          (Sample.proxied [("Proxy-Authorization", "Basic a")]
            [("Proxy-Authorization", "Basic a")])] := rfl
  rw [KeepsOutOfTunnel, sent] at kept
  have leaked := kept _ (List.mem_singleton_self _)
  revert leaked
  decide

end Asyncly
