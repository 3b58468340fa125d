import Asyncly.Client.RetryLoop

/-!
# The chain of middlewares of a call

The client installs a middleware once per call, for a proxy credential, and one per
attempt, for a retry policy. Both replace the `middlewares` entry of the request, and
aiohttp falls back to the chain of the session only when there is no such entry.
-/

namespace Asyncly

variable {B V R : Type}

/-- Whether a proxy credential is in play: the effective `proxy_auth` or an explicit
header. -/
def usesProxyCredential (kwargs : Kwargs) (defaultProxyAuth : Option BasicAuth) : Bool :=
  effectiveProxyAuth kwargs defaultProxyAuth ≠ .pyNone ||
    (kwargs.headers.getD []).contains "proxy-authorization"

/-- The middlewares the client installs for a call, outermost first. -/
def installedMiddlewares (client : BaseHttpClient) (call : CallArgs B V) : List Middleware :=
  (if call.retry.isSome then [.exposeAiohttpTransportErrors] else []) ++
    (if usesProxyCredential call.kwargs client.proxyAuth then [.forwardPlainHttpProxyAuth] else [])

/-- A middleware of the client itself. -/
def Middleware.Internal (middleware : Middleware) : Prop :=
  middleware = .exposeAiohttpTransportErrors ∨ middleware = .forwardPlainHttpProxyAuth

/-- In every attempt aiohttp runs the same chain: some of the client's middlewares, each
at most once, and then the chain the caller asked for. -/
def WrapsChain (session : List Middleware) (kwargs : Kwargs) (run : Async B R) : Prop :=
  ∃ internal : List Middleware, internal.Nodup ∧ (∀ m ∈ internal, m.Internal) ∧
    ∀ sent ∈ run.log.filterMap Effect.request?,
      effectiveChain session sent = internal ++ effectiveChain session kwargs

section Normalized

variable {rt : Runtime} {kwargs out : Kwargs} {defaultProxyAuth : Option BasicAuth}

theorem Headers.contains_eq_isSome_get? (name : String) (headers : Headers) :
    headers.contains name = (headers.get? name).isSome :=
  MultiDict.contains_eq_isSome_get?

/-- The credential is looked for after `auth` became a header, which does not matter. -/
theorem normalizeAuthKwargs_ok (h : normalizeAuthKwargs rt kwargs defaultProxyAuth = .ok out) :
    ∃ headers, (headers.getD []).getAll "proxy-authorization" =
        (kwargs.headers.getD []).getAll "proxy-authorization" ∧
      normalizeProxyAuth rt { kwargs with auth := none, headers := headers } defaultProxyAuth =
        .ok out := by
  rw [normalizeAuthKwargs] at h
  cases first : normalizeAuth rt kwargs with
  | error exc =>
      rw [first] at h
      cases h
  | ok middle =>
      rw [first] at h
      obtain ⟨headers, rfl, same⟩ := normalizeAuth_ok first
      exact ⟨headers, same, h⟩

/-- The four ways through `_normalize_auth_kwargs`, by what the caller gave. -/
theorem normalizeAuthKwargs_branches
    (h : normalizeAuthKwargs rt kwargs defaultProxyAuth = .ok out) :
    ∃ headers, (headers.getD []).getAll "Proxy-Authorization" =
        (kwargs.headers.getD []).getAll "Proxy-Authorization" ∧
    ((effectiveProxyAuth kwargs defaultProxyAuth = .pyNone ∧
      (kwargs.headers.getD []).get? "Proxy-Authorization" = none ∧
      out = { kwargs with auth := none, proxyAuth := none, headers := headers }) ∨
    (∃ value, (kwargs.headers.getD []).get? "Proxy-Authorization" = some value ∧
      out = addProxyAuthMiddleware { kwargs with
        auth := none
        proxyAuth := none
        headers := headers
        proxyHeaders := some (((kwargs.proxyHeaders.getD []).set "Proxy-Authorization" value).popAll
          "Authorization") }) ∨
    (∃ auth value, effectiveProxyAuth kwargs defaultProxyAuth = .basic auth ∧
      (kwargs.headers.getD []).get? "Proxy-Authorization" = none ∧
      (kwargs.proxyHeaders.getD []).get? "Proxy-Authorization" = some value ∧
      out = addProxyAuthMiddleware { kwargs with
        auth := none
        proxyAuth := none
        headers := headers
        proxyHeaders := some ((kwargs.proxyHeaders.getD []).popAll "Authorization") }) ∨
    (∃ auth encoded, effectiveProxyAuth kwargs defaultProxyAuth = .basic auth ∧
      (kwargs.headers.getD []).get? "Proxy-Authorization" = none ∧
      (kwargs.proxyHeaders.getD []).get? "Proxy-Authorization" = none ∧
      rt.encodeBasicAuth auth = .ok encoded ∧
      out = addProxyAuthMiddleware { kwargs with
        auth := none
        proxyAuth := none
        headers := headers
        proxyHeaders :=
          some ((kwargs.proxyHeaders.getD []).set "Proxy-Authorization" encoded) })) := by
  obtain ⟨headers, same, second⟩ := normalizeAuthKwargs_ok h
  rw [Headers.getAll_congr lower_proxyAuthorization.symm,
    Headers.getAll_congr lower_proxyAuthorization.symm] at same
  have explicit : (headers.getD []).get? "proxy-authorization" =
      (kwargs.headers.getD []).get? "Proxy-Authorization" :=
    (Headers.get?_congr lower_proxyAuthorization.symm _).trans (congrArg List.head? same)
  have held (proxyHeaders : Headers) : proxyHeaders.contains "proxy-authorization" =
      (proxyHeaders.get? "Proxy-Authorization").isSome :=
    (Headers.contains_congr lower_proxyAuthorization.symm _).trans
      (Headers.contains_eq_isSome_get? _ _)
  have effective : effectiveProxyAuth { kwargs with auth := none, headers := headers }
      defaultProxyAuth = effectiveProxyAuth kwargs defaultProxyAuth := rfl
  refine ⟨headers, same, ?_⟩
  have branches := normalizeProxyAuth_ok second
  simp only [explicit, effective, held, Option.isSome_iff_exists, Option.isSome_eq_false_iff,
    Option.isNone_iff_eq_none] at branches
  rcases branches with none | header | ⟨auth, basic, absent, ⟨value, kept⟩, result⟩ | generated
  · exact .inl none
  · exact .inr (.inl header)
  · exact .inr (.inr (.inl ⟨auth, value, basic, absent, kept, result⟩))
  · exact .inr (.inr (.inr generated))

/-- The forwarding middleware is installed in front whenever a credential is in play. -/
theorem normalizeAuthKwargs_middlewares
    (h : normalizeAuthKwargs rt kwargs defaultProxyAuth = .ok out) :
    out.middlewares =
      if usesProxyCredential kwargs defaultProxyAuth then
        some (.forwardPlainHttpProxyAuth :: kwargs.middlewares.getD [])
      else kwargs.middlewares := by
  rw [usesProxyCredential, Headers.contains_eq_isSome_get?,
    Headers.get?_congr lower_proxyAuthorization.symm]
  obtain ⟨headers, -, branches⟩ := normalizeAuthKwargs_branches h
  rcases branches with
    ⟨none, absent, rfl⟩ | ⟨value, present, rfl⟩ | ⟨auth, value, basic, absent, -, rfl⟩ |
      ⟨auth, encoded, basic, absent, -, -, rfl⟩
  · simp [none, absent]
  · simp [present, addProxyAuthMiddleware]
  · simp [basic, addProxyAuthMiddleware]
  · simp [basic, addProxyAuthMiddleware]

end Normalized

theorem BaseHttpClient.injectProxy_eq (client : BaseHttpClient) (kwargs : Kwargs) :
    ∃ proxy, client.injectProxy kwargs = { kwargs with proxy := proxy } := by
  rw [injectProxy]
  split
  · exact ⟨_, rfl⟩
  · exact ⟨kwargs.proxy, rfl⟩

/-- Every attempt of a call enters `ClientSession.request` with the same arguments, and
there is at least one. -/
theorem BaseHttpClient.makeReq_requests {rt : Runtime} {client : BaseHttpClient}
    {world : World B} {call : CallArgs B V} {kwargs : Kwargs}
    (prepared : normalizeAuthKwargs rt (client.injectProxy call.kwargs) client.proxyAuth =
      .ok kwargs) :
    ∃ k, 1 ≤ k ∧ (client.makeReq rt world call).log.filterMap Effect.request? =
      List.replicate k (sessionKwargs call.retry kwargs) := by
  obtain ⟨k, positive, -, log⟩ :=
    makeReq_log world call (baseAttempt world client.clientName) prepared
  have single (j : Nat) : (baseAttempt world client.clientName
      (client.attemptArgs rt world call kwargs j)).log.filterMap Effect.request? =
      [sessionKwargs call.retry kwargs] := by
    rw [baseAttempt, filterMap_requestOnce fun _ => Effect.request?_eq_none,
      BaseHttpClient.attemptArgs]
    cases call.retry <;> rfl
  refine ⟨k, positive, ?_⟩
  rw [BaseHttpClient.makeReq, log _ _ fun e loop => Effect.request?_eq_none (.inl loop),
    Traced.flatMap_eq_map fun j _ => single j, List.map_const', List.length_range']

/-- The chain aiohttp runs for an attempt of the call. -/
theorem effectiveChain_sent {rt : Runtime} {client : BaseHttpClient} {call : CallArgs B V}
    {kwargs : Kwargs} (session : List Middleware)
    (prepared : normalizeAuthKwargs rt (client.injectProxy call.kwargs) client.proxyAuth =
      .ok kwargs) :
    effectiveChain session (sessionKwargs call.retry kwargs) =
      if installedMiddlewares client call = [] then effectiveChain session call.kwargs
      else installedMiddlewares client call ++ call.kwargs.middlewares.getD [] := by
  obtain ⟨proxy, injected⟩ := client.injectProxy_eq call.kwargs
  rw [injected] at prepared
  have middlewares := normalizeAuthKwargs_middlewares prepared
  change kwargs.middlewares =
    if usesProxyCredential call.kwargs client.proxyAuth then
      some (.forwardPlainHttpProxyAuth :: call.kwargs.middlewares.getD [])
    else call.kwargs.middlewares at middlewares
  cases retry : call.retry <;>
    cases credential : usesProxyCredential call.kwargs client.proxyAuth <;>
    simp [effectiveChain, sessionKwargs, installedMiddlewares, middlewares, retry, credential]

theorem installedMiddlewares_internal (client : BaseHttpClient) (call : CallArgs B V) :
    (installedMiddlewares client call).Nodup ∧
      ∀ m ∈ installedMiddlewares client call, m.Internal := by
  cases retry : call.retry <;>
    cases credential : usesProxyCredential call.kwargs client.proxyAuth <;>
    simp [installedMiddlewares, retry, credential, Middleware.Internal]

/-- All attempts run one chain, so one split of it decides. -/
theorem wrapsChain_iff_sent {rt : Runtime} {client : BaseHttpClient} {world : World B}
    {call : CallArgs B V} {kwargs : Kwargs} (session : List Middleware)
    (prepared : normalizeAuthKwargs rt (client.injectProxy call.kwargs) client.proxyAuth =
      .ok kwargs) :
    WrapsChain session call.kwargs (client.makeReq rt world call) ↔
      ∃ internal : List Middleware, internal.Nodup ∧ (∀ m ∈ internal, m.Internal) ∧
        effectiveChain session (sessionKwargs call.retry kwargs) =
          internal ++ effectiveChain session call.kwargs := by
  obtain ⟨k, positive, requests⟩ := BaseHttpClient.makeReq_requests prepared
  rw [WrapsChain, requests]
  refine exists_congr fun internal => and_congr_right fun _ => and_congr_right fun _ => ?_
  constructor
  · intro h
    exact h _ (List.mem_replicate.mpr ⟨by omega, rfl⟩)
  · intro h sent member
    rwa [List.eq_of_mem_replicate member]

/-- What the client puts in front wraps the chain of the caller exactly when that chain is
passed on, or nothing is put in front, or the chain is part of what is put there. -/
theorem installed_wraps_iff {installed : List Middleware} (session : List Middleware)
    (kwargs : Kwargs) (nodup : installed.Nodup) (internal : ∀ m ∈ installed, m.Internal) :
    (∃ before : List Middleware, before.Nodup ∧ (∀ m ∈ before, m.Internal) ∧
      (if installed = [] then effectiveChain session kwargs
        else installed ++ kwargs.middlewares.getD []) =
          before ++ effectiveChain session kwargs) ↔
      kwargs.middlewares.isSome = true ∨ installed = [] ∨ session <:+ installed := by
  by_cases none : installed = []
  · rw [if_pos none]
    exact iff_of_true ⟨[], List.nodup_nil, by simp, rfl⟩ (.inr (.inl none))
  · rw [if_neg none]
    cases passed : kwargs.middlewares with
    | some chain =>
        refine iff_of_true ⟨installed, nodup, internal, ?_⟩ (.inl rfl)
        simp [effectiveChain, passed]
    | none =>
        simp only [effectiveChain, passed, Option.getD_none, List.append_nil, Option.isSome_none,
          Bool.false_eq_true, none, false_or]
        constructor
        · rintro ⟨before, -, -, chain⟩
          exact ⟨before, chain.symm⟩
        · rintro ⟨before, rfl⟩
          exact ⟨before, (List.nodup_append.mp nodup).1,
            fun m member => internal m (List.mem_append_left _ member), rfl⟩

/-- The caller's chain survives exactly when the call has its own, or the client installs
nothing, or the session's chain is what the installed middlewares end with. A call that is
refused before its first attempt runs no chain. -/
theorem BaseHttpClient.makeReq_wrapsChain_iff (rt : Runtime) (client : BaseHttpClient)
    (world : World B) (call : CallArgs B V) (session : List Middleware) :
    WrapsChain session call.kwargs (client.makeReq rt world call) ↔
      (∀ kwargs, normalizeAuthKwargs rt (client.injectProxy call.kwargs) client.proxyAuth ≠
        .ok kwargs) ∨
      call.kwargs.middlewares.isSome = true ∨ installedMiddlewares client call = [] ∨
      session <:+ installedMiddlewares client call := by
  cases prepared : normalizeAuthKwargs rt (client.injectProxy call.kwargs) client.proxyAuth with
  | error exc =>
      refine iff_of_true ⟨[], List.nodup_nil, by simp, ?_⟩ (.inl fun kwargs same => by cases same)
      simp [BaseHttpClient.makeReq_of_refused rt prepared]
  | ok kwargs =>
      obtain ⟨nodup, internal⟩ := installedMiddlewares_internal client call
      have made : ¬ ∀ other, (.ok kwargs : Except Exn Kwargs) ≠ .ok other :=
        fun refused => refused kwargs rfl
      rw [wrapsChain_iff_sent session prepared, effectiveChain_sent session prepared,
        installed_wraps_iff session call.kwargs nodup internal]
      exact (or_iff_right made).symm

/-- A session with a middleware of its own. -/
def Sample.retried : CallArgs Unit Nat where
  method := "GET"
  url := Sample.url
  handlers := Sample.handlers [(.status 200, Sample.handler (.ok 7))]
  retry := some (Sample.policy 0)

/-- A session middleware is dropped by a retry policy. -/
theorem BaseHttpClient.makeReq_wrapsChain_fails :
    ¬ WrapsChain [.user "audit"] Sample.retried.kwargs (Sample.client.makeReq Sample.runtime
      (Sample.world fun _ => .ok (Sample.response 200)) Sample.retried) := by
  rintro ⟨internal, -, -, chain⟩
  have sent : (Sample.client.makeReq Sample.runtime
      (Sample.world fun _ => .ok (Sample.response 200)) Sample.retried).log.filterMap
        Effect.request? = [sessionKwargs Sample.retried.retry {}] := rfl
  rw [sent] at chain
  have last := congrArg List.getLast? (chain _ (List.mem_singleton_self _))
  simp [effectiveChain, sessionKwargs, Sample.retried] at last

end Asyncly
