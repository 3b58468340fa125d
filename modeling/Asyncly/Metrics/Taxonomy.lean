import Asyncly.Python.Exceptions

/-!
# Normalized failure labels

The ladder of `classify_exception` is ordered most specific first because the
classes overlap; every branch below stands where it stands in the source.
-/

namespace Asyncly

/-- The compact `outcome` set. -/
inductive Outcome
  | response | timeout | networkError | cancelled
  deriving DecidableEq, Repr

/-- The diagnostic `error_type` set. -/
inductive ErrorType
  | none | dnsError | connectError | tlsError | connectionReset | readTimeout
  | serverDisconnected | payloadError | invalidResponse | other
  deriving DecidableEq, Repr

/-- `errno.ECONNRESET` on Linux. -/
def econnreset : Int := 104

/-- `classify_exception` -/
def classifyException (exc : Exn) : Outcome × ErrorType :=
  if exc.isCancelledError then (.cancelled, .none)
  else if exc.isinstance [.connectionTimeoutError] then (.timeout, .connectError)
  else if exc.isinstance [.serverTimeoutError, .timeoutError] then (.timeout, .readTimeout)
  else if exc.isinstance
      [.clientConnectorSSLError, .clientConnectorCertificateError, .clientSSLError] then
    (.networkError, .tlsError)
  else if exc.isinstance [.clientConnectorDNSError] || exc.osErrorIsGai then
    (.networkError, .dnsError)
  else if exc.isinstance [.clientConnectorError] then (.networkError, .connectError)
  else if exc.isinstance [.serverDisconnectedError] then (.networkError, .serverDisconnected)
  else if exc.isinstance [.connectionResetError] ||
      (exc.isinstance [.clientOSError] && exc.errno == some econnreset) then
    (.networkError, .connectionReset)
  else if exc.isinstance [.clientPayloadError] then (.networkError, .payloadError)
  else (.networkError, .other)

theorem outcome_ite_ne {c : Prop} [Decidable c] {a b : Outcome × ErrorType} {outcome : Outcome}
    (ha : a.1 ≠ outcome) (hb : b.1 ≠ outcome) : (if c then a else b).1 ≠ outcome := by
  split
  · exact ha
  · exact hb

/-- A classified exception is never counted as a response: no step of the ladder does. -/
theorem classifyException_ne_response (exc : Exn) : (classifyException exc).1 ≠ .response := by
  rw [classifyException]
  iterate 9 refine outcome_ite_ne (by decide) ?_
  decide

theorem errorType_ite_ne {c : Prop} [Decidable c] {a b : Outcome × ErrorType}
    {errorType : ErrorType} (ha : a.2 ≠ errorType) (hb : b.2 ≠ errorType) :
    (if c then a else b).2 ≠ errorType := by
  split
  · exact ha
  · exact hb

/-- Only a cancellation is not an error. -/
theorem classifyException_errorType_eq_none_iff (exc : Exn) :
    (classifyException exc).2 = .none ↔ exc.isCancelledError = true := by
  rw [classifyException]
  cases exc.isCancelledError with
  | true => exact iff_of_true rfl rfl
  | false =>
      refine iff_of_false ?_ Bool.false_ne_true
      rw [if_neg Bool.false_ne_true]
      iterate 8 refine errorType_ite_ne (by decide) ?_
      decide

end Asyncly
