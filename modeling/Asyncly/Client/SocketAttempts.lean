import Asyncly.Client.ProxyCredential
import Asyncly.Lib.Stateful
import Asyncly.Metrics.Metered

/-!
# Attempts on sockets

A session runs the middlewares of a request around its transport, and may do so again by
itself, when a connection fails or when a response redirects it. With a retry policy the
outermost middleware of an attempt keeps failures from the session, so what is sent beyond the
attempts the policy counts are redirects.
-/

namespace Asyncly

variable {B V R : Type}

/-! ### What a session does -/

/-- Sending requests; the state is what was sent on sockets so far. -/
abbrev Sending := Stateful (List ClientRequest) Exn

/-- The arguments of `ClientSession.request`. -/
structure Asked where
  method : String
  url : Url
  kwargs : Kwargs

/-- A run of the chain of middlewares: the request it was given, and what it came to. -/
structure ChainRun (B : Type) where
  request : ClientRequest
  outcome : Except Exn (Response B)

/-- What a session does after a run of the chain: it hands something over to its caller, or it
runs the chain for another request. -/
inductive Next (B : Type)
  | handOver (result : Except Exn (Response B))
  | goOn (following : ClientRequest)

/-- What the client's own middlewares stand between: what comes of a request on a socket, by
those that were sent before it; the middlewares of the caller; and what the session does, by
the runs of the chain it has made for a request. It does not go on for ever. -/
structure Network (B : Type) where
  transport : List ClientRequest → ClientRequest → Except Exn (Response B)
  user : String → (ClientRequest → Sending (Response B)) → ClientRequest → Sending (Response B)
  next : Asked → List (ChainRun B) → Next B
  goes : Nat
  bounded : ∀ asked runs following, next asked runs = .goOn following → runs.length ≤ goes

def Effect.asked? : Effect B → Option Asked
  | .request method url kwargs => some ⟨method, url, kwargs⟩
  | _ => none

namespace Network

variable (net : Network B)

def socket (request : ClientRequest) : Sending (Response B) :=
  Stateful.ofCall fun sent => (net.transport sent request, sent ++ [request])

/-- A middleware around the handler it is given. -/
def around (middleware : Middleware) (handler : ClientRequest → Sending (Response B))
    (request : ClientRequest) : Sending (Response B) :=
  match middleware with
  | .forwardPlainHttpProxyAuth => handler (forwardPlainHttpProxyAuth request)
  | .exposeAiohttpTransportErrors =>
      tryCatch (handler request) fun exc =>
        Stateful.ofExcept (exposeAiohttpTransportErrors (.error exc))
  | .user name => net.user name handler request

/-- The chain of a request, the first middleware being outermost. -/
def chain (middlewares : List Middleware) : ClientRequest → Sending (Response B) :=
  middlewares.foldr net.around net.socket

/-- The run of a chain that comes next. -/
def turn (middlewares : List Middleware) (request : ClientRequest)
    (sent : List ClientRequest) : ChainRun B :=
  ⟨request, ((net.chain middlewares request).call sent).1⟩

/-- What became of a request a session was asked for: the runs of the chain, what was handed
over, and all that was sent on sockets until then. -/
structure Performed (B : Type) where
  runs : List (ChainRun B)
  result : Except Exn (Response B)
  sent : List ClientRequest

/-- The chain, run by the session until it hands over, at most so many times more. -/
def drive (asked : Asked) (middlewares : List Middleware) :
    Nat → List (ChainRun B) → ClientRequest → List ClientRequest → Performed B
  | left, runs, request, sent =>
      let sending := (net.chain middlewares request).call sent
      let runs := runs ++ [⟨request, sending.1⟩]
      match net.next asked runs, left with
      | .handOver result, _ => ⟨runs, result, sending.2⟩
      | .goOn _, 0 => ⟨runs, sending.1, sending.2⟩
      | .goOn following, left + 1 => drive asked middlewares left runs following sending.2

/-- `ClientSession.request`, for a session with middlewares of its own. -/
def perform (session : List Middleware) (asked : Asked) (sent : List ClientRequest) :
    Performed B :=
  net.drive asked (effectiveChain session asked.kwargs) net.goes []
    (clientRequest asked.url asked.kwargs) sent

/-- What is on sockets after a session was asked for some requests more. -/
def sendAll (session : List Middleware) (asked : List Asked) (sent : List ClientRequest) :
    List ClientRequest :=
  asked.foldl (fun sent one => (net.perform session one sent).sent) sent

def sockets (session : List Middleware) (asked : List Asked) : List ClientRequest :=
  net.sendAll session asked []

/-- What became of the last of some requests. -/
def performed (session : List Middleware) (earlier : List Asked) (one : Asked) : Performed B :=
  net.perform session one (net.sockets session earlier)

/-- How often the session goes on by itself for some requests. -/
def furtherRuns (session : List Middleware) : List Asked → List ClientRequest → Nat
  | [], _ => 0
  | one :: rest, sent =>
      let done := net.perform session one sent
      done.runs.length - 1 + furtherRuns session rest done.sent

/-- The first run of the chain for the last of some requests. -/
def firstRun (session : List Middleware) (earlier : List Asked) (one : Asked) : ChainRun B :=
  net.turn (effectiveChain session one.kwargs) (clientRequest one.url one.kwargs)
    (net.sockets session earlier)

/-- What the attempts of a run are given is what the session hands over for them, in order. -/
def Gives (session : List Middleware) (world : World B) (run : Async B R) : Prop :=
  ∀ j one, (run.log.filterMap Effect.asked?)[j]? = some one →
    world.session (j + 1) =
      (net.performed session ((run.log.filterMap Effect.asked?).take j) one).result

/-- The statuses of a response a session may follow. -/
def redirectStatuses : List Nat := [301, 302, 303, 307, 308]

end Network

/-- A response that does not redirect, or an exception that a session has no use for: no bare
`OSError`, and no cancellation, which may be that of its own timeout. -/
def ChainRun.Plain (run : ChainRun B) : Prop :=
  match run.outcome with
  | .ok response => response.status ∉ Network.redirectStatuses
  | .error exc => exc.isinstance [.osError, .cancelledError] = false

namespace Network

variable (net : Network B)

/-- The session, one without `raise_for_status`, sends a request again after the failure of a
connection only, follows redirects only, and hands over what is neither as it is. -/
structure Documented : Prop where
  failure : ∀ {asked runs request exc following},
    net.next asked (runs ++ [⟨request, .error exc⟩]) = .goOn following →
      exc.isinstance [.clientOSError, .serverDisconnectedError] = true
  redirect : ∀ {asked runs request response following},
    net.next asked (runs ++ [⟨request, .ok response⟩]) = .goOn following →
      response.status ∈ redirectStatuses
  handsOver : ∀ {asked runs run result}, net.next asked (runs ++ [run]) = .handOver result →
    run.Plain → result = run.outcome

/-- One request is sent. -/
def SendsOnce {α : Type} (sending : Sending α) : Prop :=
  ∀ sent, ∃ request, (sending.call sent).2 = sent ++ [request]

/-- The caller's middlewares call their handler once. -/
def PassesOn : Prop :=
  ∀ name handler, (∀ request, SendsOnce (handler request)) →
    ∀ request, SendsOnce (net.user name handler request)

/-- The caller's middlewares make another request of the one they pass on, and nothing else. -/
def Rewrites (rewrite : String → ClientRequest → ClientRequest) : Prop :=
  ∀ name handler request, net.user name handler request = handler (rewrite name request)

/-- Nothing is sent behind the back of the client but for redirects: the session goes on after
these only; every request on a socket is that of an attempt, or follows one; and what an attempt
meets is what came of the last request that was sent for it. -/
structure Visible (session : List Middleware) (world : World B) (run : Async B R) : Prop where
  redirected : ∀ j one, (run.log.filterMap Effect.asked?)[j]? = some one →
    ∀ turn ∈ (net.performed session ((run.log.filterMap Effect.asked?).take j) one).runs.dropLast,
      ∃ response, turn.outcome = .ok response ∧ response.status ∈ redirectStatuses
  counted : net.PassesOn → (net.sockets session (run.log.filterMap Effect.asked?)).length =
    attemptsMade run + net.furtherRuns session (run.log.filterMap Effect.asked?) []
  met : ∀ rewrite, net.Rewrites rewrite → net.Gives session world run →
    ∀ j one, (run.log.filterMap Effect.asked?)[j]? = some one →
      let earlier := (run.log.filterMap Effect.asked?).take j
      let chain := effectiveChain session one.kwargs
      ∃ hops last,
        (hops ++ [last]).head? = some (clientRequest one.url one.kwargs) ∧
        net.sockets session (earlier ++ [one]) =
          net.sockets session earlier ++ (hops ++ [last]).map (runChain rewrite chain) ∧
        let outcome := exposeAiohttpTransportErrors (net.transport
          (net.sockets session earlier ++ hops.map (runChain rewrite chain))
          (runChain rewrite chain last))
        ChainRun.Plain ⟨last, outcome⟩ → world.session (j + 1) = outcome

end Network

/-! ### One request -/

section Exposed

variable {α : Type} {exc : Exn}

/-- What gets past the middleware is no failure of a connection. -/
theorem not_isinstance_of_exposed {outcome : Except Exn α}
    (exposed : exposeAiohttpTransportErrors outcome = .error exc) :
    exc.isinstance [.clientOSError, .serverDisconnectedError] = false := by
  cases outcome with
  | ok a => cases exposed
  | error inner =>
      cases inner with
      | observableTransportError original =>
          obtain rfl := Except.error.inj exposed
          rfl
      | raised raised =>
          rw [exposeAiohttpTransportErrors] at exposed
          split at exposed
          · obtain rfl := Except.error.inj exposed
            rfl
          · next other =>
              obtain rfl := Except.error.inj exposed
              exact Bool.eq_false_of_not_eq_true other

@[simp] theorem expose_expose (outcome : Except Exn α) :
    exposeAiohttpTransportErrors (exposeAiohttpTransportErrors outcome) =
      exposeAiohttpTransportErrors outcome := by
  cases exposed : exposeAiohttpTransportErrors outcome with
  | ok a => rfl
  | error exc =>
      cases exc with
      | observableTransportError original => rfl
      | raised raised =>
          rw [exposeAiohttpTransportErrors, if_neg]
          exact Bool.not_eq_true _ ▸ not_isinstance_of_exposed exposed

end Exposed

namespace Network

variable {net : Network B} {session middlewares : List Middleware} {asked : Asked}
  {runs : List (ChainRun B)} {request : ClientRequest} {sent : List ClientRequest} {left : Nat}

theorem call_around_expose (handler : ClientRequest → Sending (Response B))
    (request : ClientRequest) (sent : List ClientRequest) :
    (net.around .exposeAiohttpTransportErrors handler request).call sent =
      (exposeAiohttpTransportErrors ((handler request).call sent).1,
        ((handler request).call sent).2) := by
  rw [around, Stateful.call_tryCatch]
  cases (handler request).call sent with
  | mk outcome sent' => cases outcome <;> rfl

theorem chain_sendsOnce (passes : net.PassesOn) (middlewares : List Middleware) :
    ∀ request, SendsOnce (net.chain middlewares request) := by
  induction middlewares with
  | nil => exact fun request sent => ⟨request, rfl⟩
  | cons middleware rest ih =>
      intro request
      cases middleware with
      | forwardPlainHttpProxyAuth => exact ih _
      | exposeAiohttpTransportErrors =>
          intro sent
          rw [chain, List.foldr_cons, call_around_expose]
          exact ih request sent
      | user name => exact passes name _ ih request

/-- With middlewares that only rewrite, the request that is sent is the one the chain makes. -/
theorem call_chain_of_rewrites {rewrite : String → ClientRequest → ClientRequest}
    (rewrites : net.Rewrites rewrite) (middlewares : List Middleware) (request : ClientRequest)
    (sent : List ClientRequest) :
    let last := runChain rewrite middlewares request
    ((net.chain middlewares request).call sent).2 = sent ++ [last] ∧
      exposeAiohttpTransportErrors ((net.chain middlewares request).call sent).1 =
        exposeAiohttpTransportErrors (net.transport sent last) := by
  induction middlewares generalizing request with
  | nil => exact ⟨rfl, rfl⟩
  | cons middleware rest ih =>
      cases middleware with
      | forwardPlainHttpProxyAuth => exact ih (forwardPlainHttpProxyAuth request)
      | exposeAiohttpTransportErrors =>
          rw [chain, List.foldr_cons, call_around_expose, expose_expose]
          exact ih request
      | user name =>
          rw [chain, List.foldr_cons, around, rewrites]
          exact ih (rewrite name request)

/-! ### What a session does for one request -/

/-- The runs of the chain a session makes for a request, after those it has made. -/
inductive Drives (net : Network B) (asked : Asked) (middlewares : List Middleware) :
    List (ChainRun B) → ClientRequest → List ClientRequest → Performed B → Prop
  | last {runs : List (ChainRun B)} {request : ClientRequest} {sent : List ClientRequest}
      {result : Except Exn (Response B)}
      (ends : net.next asked (runs ++ [net.turn middlewares request sent]) = .handOver result ∨
        result = (net.turn middlewares request sent).outcome) :
      Drives net asked middlewares runs request sent
        ⟨runs ++ [net.turn middlewares request sent], result,
          ((net.chain middlewares request).call sent).2⟩
  | further {runs : List (ChainRun B)} {request following : ClientRequest}
      {sent : List ClientRequest} {done : Performed B}
      (goes : net.next asked (runs ++ [net.turn middlewares request sent]) = .goOn following)
      (rest : Drives net asked middlewares (runs ++ [net.turn middlewares request sent]) following
        ((net.chain middlewares request).call sent).2 done) :
      Drives net asked middlewares runs request sent done

theorem drive_of_handOver {result : Except Exn (Response B)}
    (decided : net.next asked (runs ++ [net.turn middlewares request sent]) = .handOver result)
    (left : Nat) : net.drive asked middlewares left runs request sent =
      ⟨runs ++ [net.turn middlewares request sent], result,
        ((net.chain middlewares request).call sent).2⟩ := by
  unfold drive
  dsimp only
  rw [show net.next asked (runs ++ [⟨request, _⟩]) = _ from decided]
  rfl

theorem drive_zero_of_goOn {following : ClientRequest}
    (decided : net.next asked (runs ++ [net.turn middlewares request sent]) = .goOn following) :
    net.drive asked middlewares 0 runs request sent =
      ⟨runs ++ [net.turn middlewares request sent], (net.turn middlewares request sent).outcome,
        ((net.chain middlewares request).call sent).2⟩ := by
  unfold drive
  dsimp only
  rw [show net.next asked (runs ++ [⟨request, _⟩]) = _ from decided]
  rfl

theorem drive_succ_of_goOn {following : ClientRequest}
    (decided : net.next asked (runs ++ [net.turn middlewares request sent]) = .goOn following)
    (left : Nat) : net.drive asked middlewares (left + 1) runs request sent =
      net.drive asked middlewares left (runs ++ [net.turn middlewares request sent]) following
        ((net.chain middlewares request).call sent).2 := by
  conv => lhs; unfold drive
  dsimp only
  rw [show net.next asked (runs ++ [⟨request, _⟩]) = _ from decided]
  rfl

theorem drives_drive (net : Network B) (asked : Asked) (middlewares : List Middleware) (left : Nat)
    (runs : List (ChainRun B)) (request : ClientRequest) (sent : List ClientRequest) :
    Drives net asked middlewares runs request sent
      (net.drive asked middlewares left runs request sent) := by
  induction left generalizing runs request sent with
  | zero =>
      cases decided : net.next asked (runs ++ [net.turn middlewares request sent]) with
      | handOver result =>
          rw [drive_of_handOver decided]
          exact .last (.inl decided)
      | goOn following =>
          rw [drive_zero_of_goOn decided]
          exact .last (.inr rfl)
  | succ left ih =>
      cases decided : net.next asked (runs ++ [net.turn middlewares request sent]) with
      | handOver result =>
          rw [drive_of_handOver decided]
          exact .last (.inl decided)
      | goOn following =>
          rw [drive_succ_of_goOn decided]
          exact .further decided (ih _ _ _)

section Drives

variable {done : Performed B}

theorem Drives.exists_runs (h : Drives net asked middlewares runs request sent done) :
    ∃ more, done.runs = runs ++ net.turn middlewares request sent :: more := by
  induction h with
  | last ends => exact ⟨[], rfl⟩
  | further goes rest ih =>
      obtain ⟨more, split⟩ := ih
      rw [List.append_assoc, List.singleton_append] at split
      exact ⟨_, split⟩

/-- The session has gone on after a run of the chain. -/
def GoneOn (net : Network B) (asked : Asked) (middlewares : List Middleware) (run : ChainRun B) :
    Prop :=
  (∃ sent, run = net.turn middlewares run.request sent) ∧
    ∃ earlier following, net.next asked (earlier ++ [run]) = .goOn following

/-- It has after all runs but the last. -/
theorem Drives.goneOn (h : Drives net asked middlewares runs request sent done) :
    ∀ run ∈ done.runs.dropLast, run ∈ runs ∨ GoneOn net asked middlewares run := by
  induction h with
  | last ends =>
      intro run member
      rw [List.dropLast_concat] at member
      exact .inl member
  | @further runs request following sent done goes rest ih =>
      intro run member
      rcases ih run member with earlier | goneOn
      · rcases List.mem_append.mp earlier with before | here
        · exact .inl before
        · obtain rfl := List.mem_singleton.mp here
          exact .inr ⟨⟨sent, rfl⟩, runs, following, goes⟩
      · exact .inr goneOn

/-- Each run of the chain sends one request. -/
theorem Drives.length_sent (passes : net.PassesOn)
    (h : Drives net asked middlewares runs request sent done) :
    done.sent.length + runs.length = sent.length + done.runs.length := by
  induction h with
  | @last runs request sent result ends =>
      obtain ⟨last, sends⟩ := chain_sendsOnce passes middlewares request sent
      rw [sends, List.length_append, List.length_append, List.length_singleton,
        List.length_singleton]
      omega
  | @further runs request following sent done goes rest ih =>
      obtain ⟨last, sends⟩ := chain_sendsOnce passes middlewares request sent
      rw [sends, List.length_append, List.length_append, List.length_singleton,
        List.length_singleton] at ih
      omega

/-- With middlewares that only rewrite, what is sent is known, and what the last of it comes to
is handed over or left to the session. -/
theorem Drives.rewritten {rewrite : String → ClientRequest → ClientRequest}
    (rewrites : net.Rewrites rewrite)
    (h : Drives net asked middlewares runs request sent done) :
    ∃ hops last earlier, (hops ++ [last]).head? = some request ∧
      done.sent = sent ++ (hops ++ [last]).map (runChain rewrite middlewares) ∧
      done.runs = earlier ++ [net.turn middlewares last
        (sent ++ hops.map (runChain rewrite middlewares))] ∧
      (net.next asked done.runs = .handOver done.result ∨
        done.result = (net.turn middlewares last
          (sent ++ hops.map (runChain rewrite middlewares))).outcome) := by
  induction h with
  | @last runs request sent result ends =>
      obtain ⟨sends, -⟩ := call_chain_of_rewrites rewrites middlewares request sent
      refine ⟨[], request, runs, rfl, sends, ?_, ?_⟩
      · rw [List.map_nil, List.append_nil]
      · rw [List.map_nil, List.append_nil]
        exact ends
  | @further runs request following sent done goes rest ih =>
      obtain ⟨sends, -⟩ := call_chain_of_rewrites rewrites middlewares request sent
      obtain ⟨hops, last, earlier, -, sockets, split, ends⟩ := ih
      rw [sends, List.append_assoc, List.singleton_append, ← List.map_cons] at split ends
      rw [sends, List.append_assoc, List.singleton_append, ← List.map_cons,
        ← List.cons_append] at sockets
      exact ⟨request :: hops, last, earlier, rfl, sockets, split, ends⟩

end Drives

theorem perform_drives (net : Network B) (session : List Middleware) (asked : Asked)
    (sent : List ClientRequest) :
    Drives net asked (effectiveChain session asked.kwargs) []
      (clientRequest asked.url asked.kwargs) sent (net.perform session asked sent) :=
  drives_drive _ _ _ _ _ _ _

/-- A session goes on for a request when it does so after the first run of the chain. -/
theorem one_lt_runs_iff :
    1 < (net.perform session asked sent).runs.length ↔
      ∃ following, net.next asked [net.turn (effectiveChain session asked.kwargs)
        (clientRequest asked.url asked.kwargs) sent] = .goOn following := by
  cases decided : net.next asked ([] ++ [net.turn (effectiveChain session asked.kwargs)
      (clientRequest asked.url asked.kwargs) sent]) with
  | handOver result =>
      rw [perform, drive_of_handOver decided]
      refine iff_of_false (Nat.lt_irrefl 1) ?_
      rintro ⟨following, goes⟩
      cases decided.symm.trans goes
  | goOn following =>
      obtain ⟨left, more⟩ : ∃ left, net.goes = left + 1 :=
        ⟨net.goes - 1, (Nat.sub_add_cancel (net.bounded _ _ _ decided)).symm⟩
      refine iff_of_true ?_ ⟨following, decided⟩
      rw [perform, more, drive_succ_of_goOn decided]
      obtain ⟨later, split⟩ := (drives_drive net asked (effectiveChain session asked.kwargs) left
        _ following _).exists_runs
      rw [split]
      simp

/-! ### The requests of a run -/

theorem sockets_concat (asked : List Asked) (one : Asked) :
    net.sockets session (asked ++ [one]) = (net.performed session asked one).sent := by
  rw [sockets, sendAll, List.foldl_append]
  rfl

/-- What is on sockets was asked for, or the session went on for it. -/
theorem length_sendAll (passes : net.PassesOn) (asked : List Asked) (sent : List ClientRequest) :
    (net.sendAll session asked sent).length =
      sent.length + asked.length + net.furtherRuns session asked sent := by
  induction asked generalizing sent with
  | nil => rfl
  | cons one rest ih =>
      have drives := net.perform_drives session one sent
      obtain ⟨more, split⟩ := drives.exists_runs
      have count := drives.length_sent passes
      rw [sendAll, List.foldl_cons, ← sendAll, ih, furtherRuns]
      rw [split, List.nil_append, List.length_cons, List.length_nil] at count
      rw [split, List.nil_append, List.length_cons, List.length_cons]
      omega

/-- The session has gone on when it has for one of the requests it was asked for. -/
theorem furtherRuns_pos_iff (asked : List Asked) (sent : List ClientRequest) :
    0 < net.furtherRuns session asked sent ↔ ∃ j one, asked[j]? = some one ∧
      1 < (net.perform session one (net.sendAll session (asked.take j) sent)).runs.length := by
  induction asked generalizing sent with
  | nil => simp [furtherRuns]
  | cons first rest ih =>
      have split : 0 < net.furtherRuns session (first :: rest) sent ↔
          1 < (net.perform session first sent).runs.length ∨
            0 < net.furtherRuns session rest (net.perform session first sent).sent := by
        rw [furtherRuns]
        omega
      rw [split, ih]
      constructor
      · rintro (here | ⟨j, one, at_j, later⟩)
        · exact ⟨0, first, rfl, here⟩
        · exact ⟨j + 1, one, at_j, later⟩
      · rintro ⟨j, one, at_j, more⟩
        cases j with
        | zero =>
            obtain rfl := Option.some.inj at_j
            exact .inl more
        | succ j => exact .inr ⟨j, one, at_j, more⟩

/-- The request of an attempt with a policy has the middleware for transport errors in front. -/
def Exposes (asked : List Asked) : Prop :=
  ∀ one ∈ asked, ∃ rest, one.kwargs.middlewares = some (.exposeAiohttpTransportErrors :: rest)

/-- What such a chain comes to has the failures of a connection wrapped. -/
theorem turn_exposed (net : Network B) (rest : List Middleware) (request : ClientRequest)
    (sent : List ClientRequest) :
    let one := net.turn (.exposeAiohttpTransportErrors :: rest) request sent
    exposeAiohttpTransportErrors one.outcome = one.outcome := by
  intro one
  have same : one.outcome = exposeAiohttpTransportErrors
      ((net.chain rest request).call sent).1 := by
    simp only [one, turn, chain, List.foldr_cons, call_around_expose]
  rw [same, expose_expose]

/-- So the session has gone on after a redirect, when it has. -/
theorem Documented.redirect_of_goneOn (documented : net.Documented) {rest : List Middleware}
    {run : ChainRun B} (gone : GoneOn net asked (.exposeAiohttpTransportErrors :: rest) run) :
    ∃ response, run.outcome = .ok response ∧ response.status ∈ redirectStatuses := by
  obtain ⟨⟨sent, same⟩, earlier, following, goes⟩ := gone
  have exposed := net.turn_exposed rest run.request sent
  rw [← same] at exposed
  obtain ⟨request, outcome⟩ := run
  cases outcome with
  | ok response => exact ⟨response, rfl, documented.redirect goes⟩
  | error exc =>
      have connection := documented.failure goes
      rw [not_isinstance_of_exposed exposed] at connection
      cases connection

theorem length_asked (run : Async B R) :
    (run.log.filterMap Effect.asked?).length = attemptsMade run := by
  have kwargs : run.log.filterMap Effect.request? =
      (run.log.filterMap Effect.asked?).map Asked.kwargs := by
    rw [List.map_filterMap]
    refine List.filterMap_congr fun e _ => ?_
    cases e <;> rfl
  rw [attemptsMade, kwargs, List.length_map]

/-- A run is visible when all its requests have the middleware for transport errors in front. -/
theorem Visible.of_exposes {world : World B} {run : Async B R} (documented : net.Documented)
    (exposes : Exposes (run.log.filterMap Effect.asked?)) : net.Visible session world run := by
  refine ⟨?_, ?_, ?_⟩
  · intro j one at_j turn member
    obtain ⟨rest, installed⟩ := exposes one (List.mem_of_getElem? at_j)
    have drives := net.perform_drives session one
      (net.sockets session ((run.log.filterMap Effect.asked?).take j))
    rw [effectiveChain, installed, Option.getD_some] at drives
    rcases drives.goneOn turn member with none | gone
    · exact absurd none List.not_mem_nil
    · exact documented.redirect_of_goneOn gone
  · intro passes
    rw [sockets, length_sendAll passes, length_asked, List.length_nil, Nat.zero_add]
  · intro rewrite rewrites gives j one at_j earlier chain
    obtain ⟨rest, installed⟩ := exposes one (List.mem_of_getElem? at_j)
    have front : chain = .exposeAiohttpTransportErrors :: rest := by
      simp only [chain, effectiveChain, installed, Option.getD_some]
    obtain ⟨hops, last, before, first, sent, split, ends⟩ :=
      (net.perform_drives session one (net.sockets session earlier)).rewritten rewrites
    have given : world.session (j + 1) = (net.performed session earlier one).result :=
      gives j one at_j
    obtain ⟨-, transported⟩ := call_chain_of_rewrites rewrites chain last
      (net.sockets session earlier ++ hops.map (runChain rewrite chain))
    have exposed := net.turn_exposed rest last
      (net.sockets session earlier ++ hops.map (runChain rewrite chain))
    rw [← front] at exposed
    refine ⟨hops, last, first, (sockets_concat earlier one).trans sent, ?_⟩
    intro outcome plain
    have came : (net.turn chain last
        (net.sockets session earlier ++ hops.map (runChain rewrite chain))) =
          ⟨last, outcome⟩ :=
      congrArg (ChainRun.mk last) (exposed.symm.trans transported)
    rw [given]
    rcases ends with handed | same
    · rw [split] at handed
      rw [← came] at plain
      rw [show outcome = _ from congrArg ChainRun.outcome came.symm]
      exact documented.handsOver handed plain
    · exact same.trans (congrArg ChainRun.outcome came)

end Network

/-! ### The calls of a client -/

section Calls

variable {rt : Runtime} {client : BaseHttpClient} {world : World B} {call : CallArgs B V}
  {policy : RetryPolicy}

theorem Effect.asked?_eq_none {e : Effect B} (h : e.OfLoop ∨ e.OfDispatch) : e.asked? = none := by
  cases e with
  | request _ _ _ => exact h.elim False.elim False.elim
  | _ => rfl

/-- It is enough that each attempt asks for one request, with arguments of its own. -/
theorem exposes_makeReq {once : RequestArgs B V → Async B (RequestResult V)}
    (asks : ∀ args, ∃ kwargs, (once args).log.filterMap Effect.asked? =
      [⟨args.method, args.url, sessionKwargs args.retry kwargs⟩])
    (retry : call.retry = some policy) :
    Network.Exposes ((makeReq rt client once world call).log.filterMap Effect.asked?) := by
  cases prepared : normalizeAuthKwargs rt (client.injectProxy call.kwargs) client.proxyAuth with
  | error exc =>
      rw [makeReq, prepared]
      exact fun one none => absurd none List.not_mem_nil
  | ok kwargs =>
      obtain ⟨k, -, -, log⟩ := makeReq_log world call once prepared
      rw [log Asked Effect.asked? fun e loop => Effect.asked?_eq_none (.inl loop)]
      intro one member
      obtain ⟨j, -, here⟩ := List.mem_flatMap.mp member
      obtain ⟨given, asked⟩ := asks (client.attemptArgs rt world call kwargs j)
      rw [asked, List.mem_singleton] at here
      have policied : (client.attemptArgs rt world call kwargs j).retry = some policy := by
        simp only [BaseHttpClient.attemptArgs, retry]
        rfl
      rw [here, policied]
      exact ⟨_, rfl⟩

theorem asks_baseAttempt (clientName : String) (args : RequestArgs B V) :
    ∃ kwargs, (baseAttempt world clientName args).log.filterMap Effect.asked? =
      [⟨args.method, args.url, sessionKwargs args.retry kwargs⟩] := by
  refine ⟨args.kwargs, ?_⟩
  rw [baseAttempt, filterMap_requestOnce fun _ => Effect.asked?_eq_none]
  rfl

/-- Without a policy one request is asked for. -/
theorem asked_of_no_policy {kwargs : Kwargs}
    (prepared : normalizeAuthKwargs rt (client.injectProxy call.kwargs) client.proxyAuth =
      .ok kwargs) (retry : call.retry = none) :
    (client.makeReq rt world call).log.filterMap Effect.asked? =
      [⟨call.method, call.url, kwargs⟩] := by
  simp only [BaseHttpClient.makeReq, Asyncly.makeReq, prepared, retry, Traced.ofExcept_ok_bind]
  rw [baseAttempt, filterMap_requestOnce fun _ => Effect.asked?_eq_none]
  rfl

theorem asks_instrumentedAttempt {metrics : MetricsState}
    (honours : metrics.metricsSink.Honours metrics.sinkHasLifecycle) (args : RequestArgs B V) :
    ∃ kwargs, (instrumentedAttempt metrics metrics.sinkHasLifecycle world
        client.clientName args).log.filterMap Effect.asked? =
      [⟨args.method, args.url, sessionKwargs args.retry kwargs⟩] := by
  cases metered : metrics.frame client.clientName args with
  | none =>
      rw [instrumentedAttempt, metered]
      exact asks_baseAttempt client.clientName args
  | some frame =>
      have sound : frame.sink.Honours metrics.sinkHasLifecycle :=
        (frame_sink metered).1 ▸ honours
      refine ⟨metrics.traceKwargs frame.labels args.kwargs, ?_⟩
      rw [filterMap_instrumentedAttempt (fun _ => Effect.asked?_eq_none) sound metered,
        meteredCalls]
      cases metrics.sinkHasLifecycle <;> rfl

/-- With a retry policy every request on a socket is an attempt of the call or follows a
redirect, for the base client and an instrumented one, though a session would send a request
again by itself. -/
theorem BaseHttpClient.makeReq_visible {net : Network B} (documented : net.Documented)
    (session : List Middleware) (retry : call.retry = some policy) :
    net.Visible session world (client.makeReq rt world call) ∧
      ∀ (metrics : MetricsState) (sink : Sink) (routeResolver : Option RouteResolver),
        net.Visible session world (instrumentedMakeReq rt
          (metrics.enableMetrics sink routeResolver) client world call) := by
  constructor
  · exact .of_exposes documented (exposes_makeReq (asks_baseAttempt client.clientName) retry)
  · intro metrics sink routeResolver
    have honours : (metrics.enableMetrics sink routeResolver).metricsSink.Honours
        (metrics.enableMetrics sink routeResolver).sinkHasLifecycle := sink.honours_detectLifecycle
    exact .of_exposes documented (exposes_makeReq (asks_instrumentedAttempt honours) retry)

namespace Sample

/-- What a connection that is dropped raises. -/
def disconnect : Raised where
  mro := [.serverDisconnectedError, .other "ServerConnectionError", .clientConnectionError,
    .clientError, .exception, .baseException]
  text := "Server disconnected"

/-- Whether a session may go on after a run of the chain. -/
def goesOn (run : ChainRun Unit) : Bool :=
  match run.outcome with
  | .ok response => decide (response.status ∈ Network.redirectStatuses)
  | .error exc => exc.isinstance [.clientOSError, .serverDisconnectedError]

/-- A session that goes on twice for a request, and a service that drops the first connection
and redirects the next request. -/
def dropsFirst : Network Unit where
  transport sent _ :=
    if sent.length = 0 then .error (.raised disconnect)
    else .ok (response (if sent.length = 1 then 302 else 200))
  user _ handler := handler
  next _ runs :=
    match runs.getLast? with
    | none => .handOver (.ok (response 200))
    | some run =>
        if goesOn run = true ∧ runs.length ≤ 2 then .goOn run.request
        else .handOver run.outcome
  goes := 2
  bounded := by
    intro asked runs following goes
    split at goes
    · cases goes
    · split at goes
      · next within => exact within.2
      · cases goes

theorem dropsFirst_documented : dropsFirst.Documented := by
  constructor
  · intro asked runs request exc following goes
    simp only [dropsFirst, List.getLast?_concat] at goes
    split at goes
    · next again => exact again.1
    · cases goes
  · intro asked runs request response following goes
    simp only [dropsFirst, List.getLast?_concat] at goes
    split at goes
    · next again => exact of_decide_eq_true again.1
    · cases goes
  · intro asked runs run result handed plain
    simp only [dropsFirst, List.getLast?_concat] at handed
    split at handed
    · cases handed
    · exact (Next.handOver.inj handed).symm

/-- What the attempts are given by such a session and such a service. -/
def droppedWorld : World Unit := Sample.world fun attempt =>
  if attempt = 1 then .error (.observableTransportError disconnect) else .ok (response 200)

/-- A call that tries once more when a connection is dropped. -/
def retriedOnce : CallArgs Unit Nat :=
  { retried with
    retry := some { Sample.policy 1 with exceptions := [.serverDisconnectedError] } }

end Sample

/-- Two attempts and a redirect. -/
example :
    let run := Sample.client.makeReq Sample.runtime Sample.droppedWorld Sample.retriedOnce
    attemptsMade run = 2 ∧
      (Sample.dropsFirst.sockets [] (run.log.filterMap Effect.asked?)).length = 3 := by
  decide +kernel

theorem BaseHttpClient.makeReq_visible_sample :
    Sample.dropsFirst.Visible [] Sample.droppedWorld
        (Sample.client.makeReq Sample.runtime Sample.droppedWorld Sample.retriedOnce) ∧
      ∀ (metrics : MetricsState) (sink : Sink) (routeResolver : Option RouteResolver),
        Sample.dropsFirst.Visible [] Sample.droppedWorld (instrumentedMakeReq Sample.runtime
          (metrics.enableMetrics sink routeResolver) Sample.client Sample.droppedWorld
          Sample.retriedOnce) :=
  BaseHttpClient.makeReq_visible Sample.dropsFirst_documented [] rfl

/-- A call of the base client has more requests on sockets than it makes attempts exactly when
the session follows a redirect, or when the call has no policy and the session does not leave it
at the first failure. -/
theorem BaseHttpClient.makeReq_hidden_iff {net : Network B} (documented : net.Documented)
    (passes : net.PassesOn) {kwargs : Kwargs} (session : List Middleware)
    (prepared : normalizeAuthKwargs rt (client.injectProxy call.kwargs) client.proxyAuth =
      .ok kwargs) :
    let run := client.makeReq rt world call
    let asked := run.log.filterMap Effect.asked?
    attemptsMade run < (net.sockets session asked).length ↔
      (∃ j one response following, asked[j]? = some one ∧
        (net.firstRun session (asked.take j) one).outcome = .ok response ∧
          net.next one [net.firstRun session (asked.take j) one] = .goOn following) ∨
      (call.retry = none ∧ ∃ exc following,
        let one : Asked := ⟨call.method, call.url, kwargs⟩
        (net.firstRun session [] one).outcome = .error exc ∧
          net.next one [net.firstRun session [] one] = .goOn following) := by
  intro run asked
  have counted : attemptsMade run < (net.sockets session asked).length ↔
      ∃ j one following, asked[j]? = some one ∧
        net.next one [net.firstRun session (asked.take j) one] = .goOn following := by
    rw [Network.sockets, Network.length_sendAll passes, ← Network.length_asked, List.length_nil,
      Nat.zero_add, Nat.lt_add_right_iff_pos, Network.furtherRuns_pos_iff]
    simp only [Network.one_lt_runs_iff]
    constructor
    · rintro ⟨j, one, at_j, following, goes⟩
      exact ⟨j, one, following, at_j, goes⟩
    · rintro ⟨j, one, following, at_j, goes⟩
      exact ⟨j, one, at_j, following, goes⟩
  rw [counted]
  constructor
  · rintro ⟨j, one, following, at_j, goes⟩
    cases outcome : (net.firstRun session (asked.take j) one).outcome with
    | ok response => exact .inl ⟨j, one, response, following, at_j, outcome, goes⟩
    | error exc =>
        right
        cases retry : call.retry with
        | some policy =>
            have exposes : Network.Exposes asked :=
              exposes_makeReq (asks_baseAttempt client.clientName) retry
            obtain ⟨rest, installed⟩ := exposes one (List.mem_of_getElem? at_j)
            have gone : Network.GoneOn net one (effectiveChain session one.kwargs)
                (net.firstRun session (asked.take j) one) := ⟨⟨_, rfl⟩, [], following, goes⟩
            rw [effectiveChain, installed, Option.getD_some] at gone
            obtain ⟨response, answered, -⟩ := documented.redirect_of_goneOn gone
            cases outcome.symm.trans answered
        | none =>
            have only : asked = [⟨call.method, call.url, kwargs⟩] :=
              asked_of_no_policy prepared retry
            rw [only] at at_j
            cases j with
            | zero =>
                obtain rfl := Option.some.inj at_j
                exact ⟨rfl, exc, following, outcome, goes⟩
            | succ j => cases at_j
  · rintro (⟨j, one, response, following, at_j, -, goes⟩ | ⟨retry, exc, following, -, goes⟩)
    · exact ⟨j, one, following, at_j, goes⟩
    · have only : asked = [⟨call.method, call.url, kwargs⟩] := asked_of_no_policy prepared retry
      exact ⟨0, _, following, by rw [only]; rfl, by rw [List.take_zero]; exact goes⟩

/-- The same call without its policy: the session sends it again by itself. -/
theorem BaseHttpClient.makeReq_hidden_iff_sample :
    let run := Sample.client.makeReq Sample.runtime Sample.droppedWorld
      { Sample.retried with retry := none }
    let asked := run.log.filterMap Effect.asked?
    attemptsMade run < (Sample.dropsFirst.sockets [] asked).length ↔
      (∃ j one response following, asked[j]? = some one ∧
        (Sample.dropsFirst.firstRun [] (asked.take j) one).outcome = .ok response ∧
          Sample.dropsFirst.next one [Sample.dropsFirst.firstRun [] (asked.take j) one] =
            .goOn following) ∨
      ((none : Option RetryPolicy) = none ∧ ∃ exc following,
        let one : Asked := ⟨"GET", Sample.url, {}⟩
        (Sample.dropsFirst.firstRun [] [] one).outcome = .error exc ∧
          Sample.dropsFirst.next one [Sample.dropsFirst.firstRun [] [] one] =
            .goOn following) := by
  have passes : Sample.dropsFirst.PassesOn := fun _ _ once => once
  let call : CallArgs Unit Nat := { Sample.retried with retry := none }
  have prepared : normalizeAuthKwargs Sample.runtime (Sample.client.injectProxy call.kwargs)
      Sample.client.proxyAuth = .ok {} := rfl
  exact BaseHttpClient.makeReq_hidden_iff Sample.dropsFirst_documented passes [] prepared

end Calls

end Asyncly
