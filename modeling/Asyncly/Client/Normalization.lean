import Asyncly.Client.Middlewares

/-!
# What normalization leaves of the arguments

The credentials of a call become headers, for the origin and for the proxy. Every other
argument, and every other header, is passed on as the caller gave it. For the proxy one
credential is chosen; an `Authorization` entry next to it would take its place.
-/

namespace Asyncly

/-! ### The other arguments -/

/-- A credential that is neither `None` nor a `BasicAuth`. -/
def RejectsAuth (kwargs : Kwargs) (defaultProxyAuth : Option BasicAuth) : Prop :=
  kwargs.auth = some .other ∨ effectiveProxyAuth kwargs defaultProxyAuth = .other

/-- The credentials of a call can be encoded. -/
def EncodableAuth (rt : Runtime) (kwargs : Kwargs) (defaultProxyAuth : Option BasicAuth) : Prop :=
  ∀ auth, kwargs.auth = some (.basic auth) ∨
    effectiveProxyAuth kwargs defaultProxyAuth = .basic auth →
      ∃ encoded, rt.encodeBasicAuth auth = .ok encoded

/-- The headers of a call, with one generated entry when `auth` is given and the caller has
none for it. -/
structure KeepsHeaders (rt : Runtime) (kwargs : Kwargs) (headers : Option Headers) : Prop where
  generated : ∀ auth, kwargs.auth = some (.basic auth) →
    (kwargs.headers.getD []).contains "Authorization" = false →
      ∃ encoded, rt.encodeBasicAuth auth = .ok encoded ∧
        headers.getD [] = kwargs.headers.getD [] ++ [("Authorization", encoded)]
  kept : (∀ auth, kwargs.auth = some (.basic auth) →
    (kwargs.headers.getD []).contains "Authorization" = true) →
      headers.getD [] = kwargs.headers.getD []

/-- The entries that are no credentials, in order. -/
def otherProxyHeaders (proxyHeaders : Headers) : Headers :=
  (proxyHeaders.popAll "Authorization").popAll "Proxy-Authorization"

/-- Normalization changes the credentials and the middlewares, and nothing else. -/
structure TouchesNothingElse (rt : Runtime) (kwargs out : Kwargs) : Prop where
  auth : out.auth = none
  proxyAuth : out.proxyAuth = none
  headers : KeepsHeaders rt kwargs out.headers
  proxyHeaders : otherProxyHeaders (out.proxyHeaders.getD []) =
    otherProxyHeaders (kwargs.proxyHeaders.getD [])
  proxy : out.proxy = kwargs.proxy
  data : out.data = kwargs.data
  traceRequestCtx : out.traceRequestCtx = kwargs.traceRequestCtx
  rest : out.rest = kwargs.rest

section Frame

variable {rt : Runtime} {kwargs out : Kwargs} {defaultProxyAuth : Option BasicAuth}

theorem otherProxyHeaders_popAll (headers : Headers) :
    otherProxyHeaders (headers.popAll "Authorization") = otherProxyHeaders headers :=
  congrArg (Headers.popAll "Proxy-Authorization") MultiDict.popAll_popAll_self

theorem otherProxyHeaders_set (value : String) (headers : Headers) :
    otherProxyHeaders (headers.set "Proxy-Authorization" value) = otherProxyHeaders headers := by
  simp only [otherProxyHeaders, Headers.popAll, Headers.set]
  rw [MultiDict.popAll_comm, MultiDict.popAll_set, MultiDict.popAll_comm]

/-- The step for `auth` is refused for what is no credential, and else turns it into a
header. -/
theorem normalizeAuth_cases
    (encodable : ∀ auth, kwargs.auth = some (.basic auth) →
      ∃ encoded, rt.encodeBasicAuth auth = .ok encoded) :
    (kwargs.auth = some .other ∧ ∃ text, normalizeAuth rt kwargs = .error (.typeError text)) ∨
    (kwargs.auth ≠ some .other ∧ ∃ headers, KeepsHeaders rt kwargs headers ∧
      normalizeAuth rt kwargs = .ok { kwargs with auth := none, headers := headers }) := by
  rw [normalizeAuth]
  rcases given : kwargs.auth with _ | _ | auth | _
  · exact .inr ⟨by simp, kwargs.headers, ⟨by simp [given], fun _ => rfl⟩, rfl⟩
  · exact .inr ⟨by simp, kwargs.headers, ⟨by simp [given], fun _ => rfl⟩, rfl⟩
  · right
    refine ⟨by simp, ?_⟩
    rw [Option.getD_some, AuthArg.check]
    dsimp only [Bind.bind, Except.bind]
    rw [Headers.contains_congr lower_authorization]
    cases explicit : (kwargs.headers.getD []).contains "Authorization" with
    | true =>
        refine ⟨some (kwargs.headers.getD []), ⟨fun _ _ absent => ?_, fun _ => rfl⟩, rfl⟩
        rw [explicit] at absent
        cases absent
    | false =>
        obtain ⟨encoded, encodes⟩ := encodable auth given
        rw [encodes]
        have appended : (kwargs.headers.getD []).set "Authorization" encoded =
            kwargs.headers.getD [] ++ [("Authorization", encoded)] :=
          MultiDict.set_of_not_contains explicit
        refine ⟨_, ⟨fun other same _ => ?_, fun present => ?_⟩, rfl⟩
        · rw [given, Option.some.injEq, AuthArg.basic.injEq] at same
          exact ⟨encoded, same ▸ encodes, appended⟩
        · rw [present auth given] at explicit
          cases explicit
  · exact .inl ⟨rfl, _, rfl⟩

/-- The step for `proxy_auth` returns once the credentials are accepted and can be encoded. -/
theorem normalizeProxyAuth_returns {proxyAuth : Option BasicAuth}
    (checked : (effectiveProxyAuth kwargs defaultProxyAuth).check
      "proxy_auth must be an aiohttp.BasicAuth" = .ok proxyAuth)
    (encodable : ∀ auth, proxyAuth = some auth →
      ∃ encoded, rt.encodeBasicAuth auth = .ok encoded) :
    ∃ out, normalizeProxyAuth rt kwargs defaultProxyAuth = .ok out := by
  rw [normalizeProxyAuth, checked]
  dsimp only [Bind.bind, Except.bind]
  split
  · exact ⟨_, rfl⟩
  · split
    · exact ⟨_, rfl⟩
    · split
      · exact ⟨_, rfl⟩
      · cases proxyAuth with
        | none => exact ⟨_, rfl⟩
        | some auth =>
            obtain ⟨encoded, encodes⟩ := encodable auth rfl
            simp only [encodes]
            exact ⟨_, rfl⟩

/-- It is refused for what is no credential, too. -/
theorem normalizeProxyAuth_cases
    (encodable : ∀ auth, effectiveProxyAuth kwargs defaultProxyAuth = .basic auth →
      ∃ encoded, rt.encodeBasicAuth auth = .ok encoded) :
    (effectiveProxyAuth kwargs defaultProxyAuth = .other ∧
      ∃ text, normalizeProxyAuth rt kwargs defaultProxyAuth = .error (.typeError text)) ∨
    (effectiveProxyAuth kwargs defaultProxyAuth ≠ .other ∧
      ∃ out, normalizeProxyAuth rt kwargs defaultProxyAuth = .ok out) := by
  cases effective : effectiveProxyAuth kwargs defaultProxyAuth with
  | other =>
      left
      rw [normalizeProxyAuth, effective]
      exact ⟨rfl, _, rfl⟩
  | pyNone =>
      right
      refine ⟨by simp, normalizeProxyAuth_returns (by rw [effective]; rfl) ?_⟩
      intro auth same
      cases same
  | basic auth =>
      right
      refine ⟨by simp, normalizeProxyAuth_returns (by rw [effective]; rfl) ?_⟩
      intro _ same
      cases same
      exact encodable auth effective

/-- The step for `proxy_auth` keeps what is no proxy credential. -/
theorem normalizeProxyAuth_keeps (h : normalizeProxyAuth rt kwargs defaultProxyAuth = .ok out) :
    ∃ proxyHeaders middlewares, out =
        { kwargs with
          proxyAuth := none
          proxyHeaders := proxyHeaders
          middlewares := middlewares } ∧
      otherProxyHeaders (proxyHeaders.getD []) =
        otherProxyHeaders (kwargs.proxyHeaders.getD []) := by
  rcases normalizeProxyAuth_ok h with
    ⟨-, -, rfl⟩ | ⟨value, -, rfl⟩ | ⟨auth, -, -, -, rfl⟩ | ⟨auth, encoded, -, -, -, -, rfl⟩
  · exact ⟨_, _, rfl, rfl⟩
  · exact ⟨_, _, rfl, (otherProxyHeaders_popAll _).trans (otherProxyHeaders_set _ _)⟩
  · exact ⟨_, _, rfl, otherProxyHeaders_popAll _⟩
  · exact ⟨_, _, rfl, otherProxyHeaders_set _ _⟩

end Frame

/-- Normalization is refused exactly for what is no credential, and else touches nothing
but the credentials. -/
theorem normalizeAuthKwargs_touchesNothingElse {rt : Runtime} {kwargs : Kwargs}
    {defaultProxyAuth : Option BasicAuth}
    (encodable : EncodableAuth rt kwargs defaultProxyAuth) :
    ((∃ text, normalizeAuthKwargs rt kwargs defaultProxyAuth = .error (.typeError text)) ↔
      RejectsAuth kwargs defaultProxyAuth) ∧
    (¬ RejectsAuth kwargs defaultProxyAuth →
      ∃ out, normalizeAuthKwargs rt kwargs defaultProxyAuth = .ok out ∧
        TouchesNothingElse rt kwargs out) := by
  rw [normalizeAuthKwargs, RejectsAuth]
  rcases normalizeAuth_cases fun auth given => encodable auth (.inl given) with
    ⟨given, text, refused⟩ | ⟨notOther, headers, keeps, first⟩
  · rw [refused]
    exact ⟨iff_of_true ⟨text, rfl⟩ (.inl given), fun accepted => absurd (.inl given) accepted⟩
  · rw [first]
    dsimp only [Bind.bind, Except.bind]
    have same : effectiveProxyAuth { kwargs with auth := none, headers := headers }
        defaultProxyAuth = effectiveProxyAuth kwargs defaultProxyAuth := rfl
    have encodable' (auth : BasicAuth) (effective : effectiveProxyAuth
        { kwargs with auth := none, headers := headers } defaultProxyAuth = .basic auth) :
        ∃ encoded, rt.encodeBasicAuth auth = .ok encoded :=
      encodable auth (.inr (same ▸ effective))
    rcases normalizeProxyAuth_cases encodable' with
      ⟨effective, text, refused⟩ | ⟨accepted, out, second⟩
    · rw [refused]
      exact ⟨iff_of_true ⟨text, rfl⟩ (.inr effective),
        fun accepted => absurd (.inr effective) accepted⟩
    · rw [second]
      refine ⟨iff_of_false (by simp) (not_or.mpr ⟨notOther, accepted⟩), fun _ => ⟨out, rfl, ?_⟩⟩
      obtain ⟨proxyHeaders, middlewares, rfl, kept⟩ := normalizeProxyAuth_keeps second
      exact ⟨rfl, rfl, keeps, kept, rfl, rfl, rfl, rfl⟩

namespace Sample

def credentials : BasicAuth := ⟨"user", "secret", "latin1"⟩

/-- Credentials for the origin and for the proxy, beside other headers. -/
def credentialKwargs : Kwargs where
  auth := some (.basic credentials)
  headers := some [("Accept", "text/html"), ("Accept", "text/plain")]
  proxyHeaders := some [("Via", "a"), ("Via", "b")]

end Sample

theorem normalizeAuthKwargs_touchesNothingElse_sample :
    ((∃ text, normalizeAuthKwargs Sample.runtime Sample.credentialKwargs
        (some Sample.credentials) = .error (.typeError text)) ↔
      RejectsAuth Sample.credentialKwargs (some Sample.credentials)) ∧
    ∃ out, normalizeAuthKwargs Sample.runtime Sample.credentialKwargs
        (some Sample.credentials) = .ok out ∧
      TouchesNothingElse Sample.runtime Sample.credentialKwargs out := by
  have encodable : EncodableAuth Sample.runtime Sample.credentialKwargs
      (some Sample.credentials) := fun auth _ => ⟨auth.password, rfl⟩
  have accepted : ¬ RejectsAuth Sample.credentialKwargs (some Sample.credentials) := by
    rintro (h | h) <;> cases h
  obtain ⟨refused, kept⟩ := normalizeAuthKwargs_touchesNothingElse encodable
  exact ⟨refused, kept accepted⟩

/-! ### One proxy credential -/

/-- Next to the credential that was chosen for the proxy there is no `Authorization` entry,
in any letter case. -/
def OneProxyCredential (kwargs : Kwargs) (defaultProxyAuth : Option BasicAuth) (out : Kwargs) :
    Prop :=
  usesProxyCredential kwargs defaultProxyAuth = true →
    (out.proxyHeaders.getD []).contains "Proxy-Authorization" = true →
      (out.proxyHeaders.getD []).contains "Authorization" = false

/-- Credentials are encoded for the proxy next to an `Authorization` entry of the caller. -/
structure GeneratesBesideAuthorization (kwargs : Kwargs) (defaultProxyAuth : Option BasicAuth) :
    Prop where
  given : effectiveProxyAuth kwargs defaultProxyAuth ≠ .pyNone
  headers : (kwargs.headers.getD []).contains "Proxy-Authorization" = false
  proxyHeaders : (kwargs.proxyHeaders.getD []).contains "Proxy-Authorization" = false
  authorization : (kwargs.proxyHeaders.getD []).contains "Authorization" = true

section OneCredential

variable {rt : Runtime} {kwargs out : Kwargs} {defaultProxyAuth : Option BasicAuth}

/-- The entry of the caller stays beside a credential that is generated. -/
theorem oneProxyCredential_generated_iff {encoded : String}
    (given : effectiveProxyAuth kwargs defaultProxyAuth ≠ .pyNone)
    (written : out.proxyHeaders =
      some ((kwargs.proxyHeaders.getD []).set "Proxy-Authorization" encoded)) :
    OneProxyCredential kwargs defaultProxyAuth out ↔
      (kwargs.proxyHeaders.getD []).contains "Authorization" = false := by
  have uses : usesProxyCredential kwargs defaultProxyAuth = true := by
    rw [usesProxyCredential, decide_eq_true given, Bool.true_or]
  have there : ((kwargs.proxyHeaders.getD []).set "Proxy-Authorization" encoded).contains
      "Proxy-Authorization" = true := MultiDict.contains_set_self
  have other : lower "Authorization" ≠ lower "Proxy-Authorization" := by decide
  have untouched : ((kwargs.proxyHeaders.getD []).set "Proxy-Authorization" encoded).contains
      "Authorization" = (kwargs.proxyHeaders.getD []).contains "Authorization" :=
    MultiDict.contains_set other
  rw [OneProxyCredential, written, Option.getD_some, untouched]
  constructor
  · intro one
    exact one uses there
  · intro free _ _
    exact free

/-- The proxy gets one credential, unless it is generated beside an `Authorization` entry:
the branch that generates it is the one that does not remove the entry. -/
theorem normalizeAuthKwargs_oneProxyCredential_iff
    (returned : normalizeAuthKwargs rt kwargs defaultProxyAuth = .ok out) :
    OneProxyCredential kwargs defaultProxyAuth out ↔
      ¬ GeneratesBesideAuthorization kwargs defaultProxyAuth := by
  obtain ⟨headers, -, branches⟩ := normalizeAuthKwargs_branches returned
  rcases branches with
    ⟨none, absent, rfl⟩ | ⟨value, present, rfl⟩ | ⟨auth, value, -, -, kept, rfl⟩ |
      ⟨auth, encoded, given, absent, free, -, rfl⟩
  · refine iff_of_true (fun uses => ?_) fun generates => generates.given none
    simp [usesProxyCredential, none, Headers.contains_eq_isSome_get?,
      Headers.get?_congr lower_proxyAuthorization.symm, absent] at uses
  · refine iff_of_true (fun _ _ => MultiDict.contains_popAll_self) fun generates => ?_
    have none := generates.headers
    rw [Headers.contains_eq_isSome_get?, present] at none
    cases none
  · refine iff_of_true (fun _ _ => MultiDict.contains_popAll_self) fun generates => ?_
    have none := generates.proxyHeaders
    rw [Headers.contains_eq_isSome_get?, kept] at none
    cases none
  · have accepted : effectiveProxyAuth kwargs defaultProxyAuth ≠ .pyNone := by
      rw [given]
      simp
    rw [oneProxyCredential_generated_iff accepted rfl]
    constructor
    · intro one generates
      cases one.symm.trans generates.authorization
    · intro notGenerates
      by_contra leftover
      refine notGenerates ⟨accepted, ?_, ?_, by simpa using leftover⟩
      · rw [Headers.contains_eq_isSome_get?, absent]
        rfl
      · rw [Headers.contains_eq_isSome_get?, free]
        rfl

end OneCredential

namespace Sample

/-- A credential for the proxy among the headers, and an `Authorization` entry in those of the
proxy. -/
def movedKwargs : Kwargs where
  headers := some [("Accept", "text/html"), ("proxy-authorization", "Basic proxy")]
  proxyHeaders := some [("Via", "a"), ("authorization", "Bearer origin")]

/-- Credentials for the proxy, and an `Authorization` entry in its headers. -/
def generatingKwargs : Kwargs where
  proxyAuth := some (.basic credentials)
  proxyHeaders := some [("authorization", "Bearer origin")]

end Sample

theorem normalizeAuthKwargs_oneProxyCredential_iff_sample :
    usesProxyCredential Sample.movedKwargs none = true ∧
      ∃ out, normalizeAuthKwargs Sample.runtime Sample.movedKwargs none = .ok out ∧
        out.proxyHeaders = some [("Via", "a"), ("Proxy-Authorization", "Basic proxy")] ∧
        (OneProxyCredential Sample.movedKwargs none out ↔
          ¬ GeneratesBesideAuthorization Sample.movedKwargs none) :=
  ⟨rfl, _, rfl, rfl, normalizeAuthKwargs_oneProxyCredential_iff
    (show normalizeAuthKwargs Sample.runtime _ _ = .ok _ from rfl)⟩

/-- The entry of the caller is left beside the generated one. -/
theorem normalizeAuthKwargs_oneProxyCredential_fails :
    ∃ out, normalizeAuthKwargs Sample.runtime Sample.generatingKwargs none = .ok out ∧
      ¬ OneProxyCredential Sample.generatingKwargs none out := by
  refine ⟨_, rfl, fun one => ?_⟩
  have both := one (by decide) (by decide)
  revert both
  decide

end Asyncly
