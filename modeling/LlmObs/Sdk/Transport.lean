import Mathlib.Data.Rat.Defs

/-!
Owns `HttpTransport.send_batch`: what it returns and the diagnostics it leaves
for the outcomes of its HTTP attempts. It does not own the delays between the
attempts, nor the client behind them.
-/

namespace LlmObs.Sdk

structure TransportDiagnostics where
  ok : Bool
  reason : String
  spansCount : Nat
  attempts : Nat
  statusCode : Option Nat := none
  retryAfter : Option ℚ := none
  errorType : Option String := none
deriving DecidableEq, Repr

/-- The parts of a response that `send_batch` reads. -/
structure HttpResponse where
  statusCode : Nat
  /-- `Retry-After`; the inner `none` is a text that `float` refuses. -/
  retryAfter : Option (Option ℚ) := none
deriving DecidableEq, Repr

/-- How one `post` ends. -/
inductive PostOutcome where
  | response (response : HttpResponse)
  /-- `httpx.ConnectError` or `httpx.TimeoutException`. -/
  | connectionError (errorType : String)
  /-- Any other exception, and a cancellation. -/
  | raises
deriving DecidableEq, Repr

/-- `MAX_ATTEMPTS` -/
def maxAttempts : Nat := 3

/-- `raise_for_status` accepts the 2xx codes. -/
def HttpResponse.isSuccess (response : HttpResponse) : Prop :=
  200 ≤ response.statusCode ∧ response.statusCode < 300

instance (response : HttpResponse) : Decidable response.isSuccess :=
  inferInstanceAs (Decidable (_ ∧ _))

def sentDiagnostics (spansCount attempt : Nat) (response : HttpResponse) :
    TransportDiagnostics where
  ok := true
  reason := "sent"
  spansCount := spansCount
  attempts := attempt + 1
  statusCode := some response.statusCode

def httpErrorDiagnostics (spansCount attempt : Nat) (response : HttpResponse) :
    TransportDiagnostics where
  ok := false
  reason := "http_error"
  spansCount := spansCount
  attempts := attempt + 1
  statusCode := some response.statusCode

/-- The attempts from number `attempt` on, `remaining` of them. `none` is an
exception that leaves `send_batch`. -/
def sendAttempts (spansCount : Nat) (post : Nat → PostOutcome) :
    (remaining attempt : Nat) → Option (Bool × TransportDiagnostics)
  | 0, _ => some (false, {
      ok := false, reason := "unknown_failure", spansCount := spansCount,
      attempts := maxAttempts })
  | remaining + 1, attempt =>
      match post attempt with
      | .response response =>
          if response.isSuccess then
            some (true, sentDiagnostics spansCount attempt response)
          else if response.statusCode = 429 then
            match response.retryAfter with
            | some none => none
            | some (some seconds) => some (false, {
                ok := false, reason := "rate_limited", spansCount := spansCount,
                attempts := attempt + 1, statusCode := some response.statusCode,
                retryAfter := some seconds })
            | none => some (false, {
                ok := false, reason := "rate_limited", spansCount := spansCount,
                attempts := attempt + 1, statusCode := some response.statusCode,
                retryAfter := some 60 })
          else if 500 ≤ response.statusCode ∧ attempt < maxAttempts - 1 then
            sendAttempts spansCount post remaining (attempt + 1)
          else some (false, httpErrorDiagnostics spansCount attempt response)
      | .connectionError errorType =>
          if attempt < maxAttempts - 1 then
            sendAttempts spansCount post remaining (attempt + 1)
          else some (false, {
            ok := false, reason := "connection_error", spansCount := spansCount,
            attempts := attempt + 1, errorType := some errorType })
      | .raises => none

/-- `send_batch`: what it returns, and `last_diagnostics` afterwards. -/
def sendBatch (spansCount : Nat) (post : Nat → PostOutcome) :
    Option (Bool × TransportDiagnostics) :=
  sendAttempts spansCount post maxAttempts 0

/-- A 4xx other than 429: not worth another attempt. -/
def HttpResponse.isClientError (response : HttpResponse) : Prop :=
  400 ≤ response.statusCode ∧ response.statusCode < 500 ∧ response.statusCode ≠ 429

instance (response : HttpResponse) : Decidable response.isClientError :=
  inferInstanceAs (Decidable (_ ∧ _ ∧ _))

theorem sendBatch_of_success (spansCount : Nat) {post : Nat → PostOutcome}
    {response : HttpResponse} (answered : post 0 = .response response)
    (success : response.isSuccess) :
    sendBatch spansCount post = some (true, sentDiagnostics spansCount 0 response) := by
  simp only [sendBatch, maxAttempts, sendAttempts, answered, if_pos success]

/-- A rejected batch is given up after one attempt, and `send_batch` says no more
about it than about a failure that is worth repeating. -/
theorem sendBatch_of_clientError (spansCount : Nat) {post : Nat → PostOutcome}
    {response : HttpResponse} (answered : post 0 = .response response)
    (rejected : response.isClientError) :
    sendBatch spansCount post =
      some (false, httpErrorDiagnostics spansCount 0 response) := by
  obtain ⟨atLeast, below, notRateLimited⟩ := rejected
  have noSuccess : ¬ response.isSuccess := by
    intro success
    have upper := success.2
    omega
  have noServerError : ¬ (500 ≤ response.statusCode ∧ 0 < maxAttempts - 1) := by omega
  simp only [sendBatch, maxAttempts, sendAttempts, answered, if_neg noSuccess,
    if_neg notRateLimited]
  exact if_neg noServerError

end LlmObs.Sdk
