import Asyncly.Client.Effect

/-!
# Credentials and middlewares

`_normalize_auth_kwargs` turns `auth` and `proxy_auth` into headers, once per
call; the middleware it installs carries the credential to a plain-HTTP proxy.
-/

namespace Asyncly

/-- `BasicAuth | None`, or the `TypeError` for anything else. -/
def AuthArg.check (message : String) : AuthArg → Except Exn (Option BasicAuth)
  | pyNone => .ok none
  | basic auth => .ok (some auth)
  | other => .error (.typeError message)

/-- `_add_proxy_auth_middleware` -/
def addProxyAuthMiddleware (kwargs : Kwargs) : Kwargs :=
  { kwargs with middlewares := some (.forwardPlainHttpProxyAuth :: kwargs.middlewares.getD []) }

/-- `kwargs.pop("proxy_auth", default_proxy_auth)` -/
def effectiveProxyAuth (kwargs : Kwargs) (defaultProxyAuth : Option BasicAuth) : AuthArg :=
  match kwargs.proxyAuth, defaultProxyAuth with
  | some proxyAuth, _ => proxyAuth
  | none, some auth => .basic auth
  | none, none => .pyNone

section Normalize

variable (rt : Runtime)

/-- The first half of `_normalize_auth_kwargs`: `auth`. -/
def normalizeAuth (kwargs : Kwargs) : Except Exn Kwargs := do
  let auth ← (kwargs.auth.getD .pyNone).check "auth must be an aiohttp.BasicAuth"
  match auth with
  | none => pure { kwargs with auth := none }
  | some auth => do
      let headers := kwargs.headers.getD []
      if headers.contains "authorization" then
        pure { kwargs with auth := none, headers := some headers }
      else do
        let encoded ← rt.encodeBasicAuth auth
        pure { kwargs with auth := none, headers := some (headers.set "Authorization" encoded) }

/-- The second half of `_normalize_auth_kwargs`: `proxy_auth`. -/
def normalizeProxyAuth (kwargs : Kwargs) (defaultProxyAuth : Option BasicAuth) :
    Except Exn Kwargs := do
  let proxyAuth ← (effectiveProxyAuth kwargs defaultProxyAuth).check
    "proxy_auth must be an aiohttp.BasicAuth"
  let kwargs := { kwargs with proxyAuth := none }
  let explicit := (kwargs.headers.getD []).get? "proxy-authorization"
  if proxyAuth = none ∧ explicit = none then pure kwargs
  else
    let proxyHeaders := kwargs.proxyHeaders.getD []
    match explicit with
    | some value =>
        let proxyHeaders := (proxyHeaders.set "Proxy-Authorization" value).popAll "Authorization"
        pure (addProxyAuthMiddleware { kwargs with proxyHeaders := some proxyHeaders })
    | none =>
        if proxyHeaders.contains "proxy-authorization" then
          let proxyHeaders := proxyHeaders.popAll "Authorization"
          pure (addProxyAuthMiddleware { kwargs with proxyHeaders := some proxyHeaders })
        else
          match proxyAuth with
          | none => pure kwargs
          | some auth => do
              let encoded ← rt.encodeBasicAuth auth
              let proxyHeaders := proxyHeaders.set "Proxy-Authorization" encoded
              pure (addProxyAuthMiddleware { kwargs with proxyHeaders := some proxyHeaders })

/-- `_normalize_auth_kwargs` -/
def normalizeAuthKwargs (kwargs : Kwargs) (defaultProxyAuth : Option BasicAuth) :
    Except Exn Kwargs := do
  let kwargs ← normalizeAuth rt kwargs
  normalizeProxyAuth rt kwargs defaultProxyAuth

end Normalize

/-! ### Middlewares at work -/

/-- The parts of `aiohttp.ClientRequest` the client's middlewares read or write. -/
structure ClientRequest where
  url : Url
  proxy : Option Url
  headers : Headers
  proxyHeaders : Option Headers
  deriving DecidableEq

/-- What `_forward_plain_http_proxy_auth` makes of the request before passing it on. -/
def forwardPlainHttpProxyAuth (request : ClientRequest) : ClientRequest :=
  if request.url.scheme = "http" ∧ request.proxy ≠ none then
    match (request.proxyHeaders.getD []).get? "Proxy-Authorization" with
    | some proxyAuthorization =>
        if request.headers.contains "proxy-authorization" then request
        else { request with
          headers := request.headers.set "Proxy-Authorization" proxyAuthorization }
    | none => request
  else request

/-- `_expose_aiohttp_transport_errors`, on the outcome of the handler it wraps. -/
def exposeAiohttpTransportErrors {α : Type} (outcome : Except Exn α) : Except Exn α :=
  match outcome with
  | .error (.raised exc) =>
      if (Exn.raised exc).isinstance [.clientOSError, .serverDisconnectedError] then
        .error (.observableTransportError exc)
      else outcome
  | _ => outcome

/-- The chain aiohttp runs: the passed sequence, or the session's when none is passed. -/
def effectiveChain (session : List Middleware) (kwargs : Kwargs) : List Middleware :=
  kwargs.middlewares.getD session

/-! ### What normalization can do -/

section Spec

variable {rt : Runtime} {kwargs out : Kwargs} {defaultProxyAuth : Option BasicAuth}

theorem lower_proxyAuthorization : lower "Proxy-Authorization" = lower "proxy-authorization" := by
  decide

theorem lower_authorization : lower "authorization" = lower "Authorization" := by
  decide

theorem lower_authorization_ne : lower "proxy-authorization" ≠ lower "Authorization" := by
  decide

/-- The letter case of the looked up name does not matter. -/
theorem Headers.getAll_congr {name name' : String} (h : lower name = lower name')
    (headers : Headers) : headers.getAll name = headers.getAll name' := by
  simp only [Headers.getAll, MultiDict.getAll, h]

theorem Headers.get?_congr {name name' : String} (h : lower name = lower name')
    (headers : Headers) : headers.get? name = headers.get? name' :=
  congrArg List.head? (Headers.getAll_congr h headers)

theorem Headers.contains_congr {name name' : String} (h : lower name = lower name')
    (headers : Headers) : headers.contains name = headers.contains name' := by
  simp only [Headers.contains, MultiDict.contains, h]

/-- The step for `auth` touches `auth` and `headers` only, and no
`Proxy-Authorization` entry. -/
theorem normalizeAuth_ok (h : normalizeAuth rt kwargs = .ok out) :
    ∃ headers, out = { kwargs with auth := none, headers := headers } ∧
      (headers.getD []).getAll "proxy-authorization" =
        (kwargs.headers.getD []).getAll "proxy-authorization" := by
  simp only [normalizeAuth] at h
  rcases hc : (kwargs.auth.getD .pyNone).check "auth must be an aiohttp.BasicAuth" with x | _ | auth
  · simp [hc, Bind.bind, Except.bind] at h
  · obtain rfl : { kwargs with auth := none } = out := by
      simpa [hc, Bind.bind, Except.bind, pure, Except.pure] using h
    exact ⟨kwargs.headers, rfl, rfl⟩
  · simp only [hc, Bind.bind, Except.bind] at h
    split at h
    · obtain rfl := Except.ok.inj h
      exact ⟨_, rfl, rfl⟩
    · rcases he : rt.encodeBasicAuth auth with x | encoded
      · simp [he] at h
      · rw [he] at h
        obtain rfl := Except.ok.inj h
        exact ⟨_, rfl, MultiDict.getAll_set lower_authorization_ne⟩

/-- The four ways through the step for `proxy_auth`. The last exit of the source,
after both tests for an explicit entry, is never the one taken. -/
theorem normalizeProxyAuth_ok (h : normalizeProxyAuth rt kwargs defaultProxyAuth = .ok out) :
    (effectiveProxyAuth kwargs defaultProxyAuth = .pyNone ∧
      (kwargs.headers.getD []).get? "proxy-authorization" = none ∧
      out = { kwargs with proxyAuth := none }) ∨
    (∃ value, (kwargs.headers.getD []).get? "proxy-authorization" = some value ∧
      out = addProxyAuthMiddleware { kwargs with
        proxyAuth := none
        proxyHeaders := some (((kwargs.proxyHeaders.getD []).set "Proxy-Authorization" value).popAll
          "Authorization") }) ∨
    (∃ auth, effectiveProxyAuth kwargs defaultProxyAuth = .basic auth ∧
      (kwargs.headers.getD []).get? "proxy-authorization" = none ∧
      (kwargs.proxyHeaders.getD []).contains "proxy-authorization" = true ∧
      out = addProxyAuthMiddleware { kwargs with
        proxyAuth := none
        proxyHeaders := some ((kwargs.proxyHeaders.getD []).popAll "Authorization") }) ∨
    (∃ auth encoded, effectiveProxyAuth kwargs defaultProxyAuth = .basic auth ∧
      (kwargs.headers.getD []).get? "proxy-authorization" = none ∧
      (kwargs.proxyHeaders.getD []).contains "proxy-authorization" = false ∧
      rt.encodeBasicAuth auth = .ok encoded ∧
      out = addProxyAuthMiddleware { kwargs with
        proxyAuth := none
        proxyHeaders :=
          some ((kwargs.proxyHeaders.getD []).set "Proxy-Authorization" encoded) }) := by
  simp only [normalizeProxyAuth] at h
  rcases hexp : (kwargs.headers.getD []).get? "proxy-authorization" with _ | value
  · cases heff : effectiveProxyAuth kwargs defaultProxyAuth with
    | other => simp [heff, AuthArg.check, Bind.bind, Except.bind] at h
    | pyNone =>
        left
        simp only [heff, AuthArg.check, Bind.bind, Except.bind, hexp, and_self, if_true] at h
        exact ⟨rfl, rfl, (Except.ok.inj h).symm⟩
    | basic auth =>
        right; right
        simp only [heff, AuthArg.check, Bind.bind, Except.bind, hexp, reduceCtorEq, and_true,
          if_false] at h
        split at h
        · rename_i hcontains
          exact .inl ⟨auth, rfl, rfl, hcontains, (Except.ok.inj h).symm⟩
        · rename_i hcontains
          rcases he : rt.encodeBasicAuth auth with x | encoded
          · simp [he] at h
          · rw [he] at h
            exact .inr ⟨auth, encoded, rfl, rfl, by simpa using hcontains, he,
              (Except.ok.inj h).symm⟩
  · right; left
    cases heff : effectiveProxyAuth kwargs defaultProxyAuth with
    | other => simp [heff, AuthArg.check, Bind.bind, Except.bind] at h
    | pyNone | basic auth =>
        simp only [heff, AuthArg.check, Bind.bind, Except.bind, hexp, reduceCtorEq, and_false,
          if_false] at h
        exact ⟨value, rfl, (Except.ok.inj h).symm⟩

end Spec

end Asyncly
