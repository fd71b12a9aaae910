import LlmObs.Sdk.Transport

/-!
Owns `HttpTransport.send_batch` with every outcome that an HTTP post can have:
the posts it makes, what it returns or raises, and the diagnostics it leaves.
The outcomes that it takes for granted in `Transport` are derived here. It does
not own the delays between the attempts.
-/

namespace LlmObs.Sdk

/-- The requests that fail without a response: the leaves of `httpx.RequestError`. -/
inductive RequestError where
  | connectTimeout
  | readTimeout
  | writeTimeout
  | poolTimeout
  | connectError
  | readError
  | writeError
  | closeError
  | localProtocolError
  | remoteProtocolError
  | proxyError
  | unsupportedProtocol
  | decodingError
  | tooManyRedirects
deriving DecidableEq, Repr

/-- `type(e).__name__` -/
def RequestError.name : RequestError → String
  | .connectTimeout => "ConnectTimeout"
  | .readTimeout => "ReadTimeout"
  | .writeTimeout => "WriteTimeout"
  | .poolTimeout => "PoolTimeout"
  | .connectError => "ConnectError"
  | .readError => "ReadError"
  | .writeError => "WriteError"
  | .closeError => "CloseError"
  | .localProtocolError => "LocalProtocolError"
  | .remoteProtocolError => "RemoteProtocolError"
  | .proxyError => "ProxyError"
  | .unsupportedProtocol => "UnsupportedProtocol"
  | .decodingError => "DecodingError"
  | .tooManyRedirects => "TooManyRedirects"

/-- `httpx.TimeoutException` -/
def RequestError.isTimeout : RequestError → Bool
  | .connectTimeout | .readTimeout | .writeTimeout | .poolTimeout => true
  | _ => false

/-- The clause `except (httpx.ConnectError, httpx.TimeoutException)`. -/
def RequestError.isCaught (error : RequestError) : Bool :=
  error == .connectError || error.isTimeout

/-- A response: its status and its headers, their names in lower case. -/
structure IngestResponse where
  statusCode : Nat
  headers : List (String × String) := []
deriving DecidableEq, Repr

/-- `headers.get("Retry-After")`: the values of a repeated header are joined. -/
def IngestResponse.retryAfter? (response : IngestResponse) : Option String :=
  match response.headers.filterMap fun header =>
      if header.1 = "retry-after" then some header.2 else none with
  | [] => none
  | value :: others => some (", ".intercalate (value :: others))

/-- `raise_for_status` returns. -/
def IngestResponse.isSuccess (response : IngestResponse) : Bool :=
  200 ≤ response.statusCode && response.statusCode < 300

/-- How one `self._client.post` ends. -/
inductive IngestOutcome where
  | response (response : IngestResponse)
  | requestError (error : RequestError)
deriving DecidableEq, Repr

/-- `{"spans": spans, "idempotency_key": idempotency_key}` -/
structure IngestPayload (Span : Type) where
  spans : List Span
  idempotencyKey : Option String
deriving DecidableEq, Repr

/-- `TransportDiagnostics` with the float of Python for `retry_after`. -/
structure SendDiagnostics (Seconds : Type) where
  ok : Bool
  reason : String
  spansCount : Nat
  attempts : Nat
  statusCode : Option Nat := none
  retryAfter : Option Seconds := none
  errorType : Option String := none
deriving DecidableEq, Repr

/-- What leaves `send_batch` as an exception. -/
inductive SendException where
  | requestError (error : RequestError)
  /-- The `ValueError` of `float`. -/
  | invalidFloat (text : String)
deriving DecidableEq, Repr

/-- Python's `float` of a text, `none` where it raises, and the float `60`. -/
structure FloatText (Seconds : Type) where
  float? : String → Option Seconds
  sixty : Seconds

/-- `float(e.response.headers.get("Retry-After", 60))` -/
def FloatText.retryAfter {Seconds : Type} (floats : FloatText Seconds) (response : IngestResponse) :
    Except SendException Seconds :=
  match response.retryAfter? with
  | none => .ok floats.sixty
  | some text =>
      match floats.float? text with
      | some seconds => .ok seconds
      | none => .error (.invalidFloat text)

/-- How one pass of the loop ends. -/
inductive AttemptEnd (Seconds : Type) where
  /-- `_record_diagnostics(diagnostics)`, then `return sent`. -/
  | returns (sent : Bool) (diagnostics : SendDiagnostics Seconds)
  /-- A sleep, then the next pass. -/
  | retries
  | raises (exception : SendException)
deriving DecidableEq, Repr

variable {Span Seconds : Type}

/-- The clause `except httpx.HTTPStatusError`. -/
def httpStatusError (floats : FloatText Seconds) (spansCount attempt : Nat)
    (response : IngestResponse) : AttemptEnd Seconds :=
  if response.statusCode = 429 then
    match floats.retryAfter response with
    | .error exception => .raises exception
    | .ok retryAfter => .returns false {
        ok := false, reason := "rate_limited", spansCount := spansCount,
        attempts := attempt + 1, statusCode := some response.statusCode,
        retryAfter := some retryAfter }
  else if 500 ≤ response.statusCode ∧ attempt < maxAttempts - 1 then .retries
  else .returns false {
    ok := false, reason := "http_error", spansCount := spansCount,
    attempts := attempt + 1, statusCode := some response.statusCode }

/-- The body of the loop after its post. -/
def attemptEnd (floats : FloatText Seconds) (spansCount attempt : Nat) :
    IngestOutcome → AttemptEnd Seconds
  | .response response =>
      if response.isSuccess then .returns true {
        ok := true, reason := "sent", spansCount := spansCount, attempts := attempt + 1,
        statusCode := some response.statusCode }
      else httpStatusError floats spansCount attempt response
  | .requestError error =>
      if error.isCaught then
        if attempt < maxAttempts - 1 then .retries
        else .returns false {
          ok := false, reason := "connection_error", spansCount := spansCount,
          attempts := attempt + 1, errorType := some error.name }
      else .raises (.requestError error)

/-- A `send_batch` call that has ended. -/
structure Sending (Span Seconds : Type) where
  /-- The posts, the first one first. -/
  posts : List (IngestPayload Span)
  result : Except SendException Bool
  lastDiagnostics : Option (SendDiagnostics Seconds)

/-- `for attempt in range(...)` from pass `attempt` on, `remaining` passes. -/
def attempts (floats : FloatText Seconds) (payload : IngestPayload Span)
    (outcome : Nat → IngestOutcome) (lastDiagnostics : Option (SendDiagnostics Seconds)) :
    (remaining attempt : Nat) → Sending Span Seconds
  | 0, _ => {
      posts := []
      result := .ok false
      lastDiagnostics := some {
        ok := false, reason := "unknown_failure", spansCount := payload.spans.length,
        attempts := maxAttempts } }
  | remaining + 1, attempt =>
      match attemptEnd floats payload.spans.length attempt (outcome attempt) with
      | .returns sent diagnostics =>
          { posts := [payload], result := .ok sent, lastDiagnostics := some diagnostics }
      | .raises exception =>
          { posts := [payload], result := .error exception, lastDiagnostics := lastDiagnostics }
      | .retries =>
          let later := attempts floats payload outcome lastDiagnostics remaining (attempt + 1)
          { later with posts := payload :: later.posts }

/-- `send_batch`, where post number `n` of the call, counted from 0, ends with
`outcome n`. -/
def HttpTransport.sendBatch (floats : FloatText Seconds) (spans : List Span)
    (idempotencyKey : Option String) (outcome : Nat → IngestOutcome)
    (lastDiagnostics : Option (SendDiagnostics Seconds)) : Sending Span Seconds :=
  attempts floats ⟨spans, idempotencyKey⟩ outcome lastDiagnostics maxAttempts 0

/-- A 2xx. -/
def IngestOutcome.isSent : IngestOutcome → Bool
  | .response answer => answer.isSuccess
  | .requestError _ => false

/-- What is worth another attempt. -/
def IngestOutcome.isTransient : IngestOutcome → Bool
  | .response answer => 500 ≤ answer.statusCode
  | .requestError error => error.isCaught

/-- No exception of the loop's body leaves it: the error is one that is caught,
and a rate limit says its delay in seconds. -/
def IngestOutcome.isHandled (floats : FloatText Seconds) : IngestOutcome → Bool
  | .response answer =>
      answer.statusCode != 429 ||
        answer.retryAfter?.all fun text => (floats.float? text).isSome
  | .requestError error => error.isCaught

/-- `send_batch` returned, and both its result and the diagnostics that it left
tell what became of the batch. -/
structure ReportsTruthfully (payload : IngestPayload Span) (outcome : Nat → IngestOutcome)
    (sending : Sending Span Seconds) : Prop where
  attempted : 1 ≤ sending.posts.length ∧ sending.posts.length ≤ maxAttempts
  samePayload : ∀ post ∈ sending.posts, post = payload
  reported : ∃ sent diagnostics, sending.result = .ok sent ∧
    (sent = true ↔ (outcome (sending.posts.length - 1)).isSent) ∧
    sending.lastDiagnostics = some diagnostics ∧ diagnostics.ok = sent ∧
    diagnostics.attempts = sending.posts.length ∧
    diagnostics.spansCount = payload.spans.length

/-! ### One pass -/

section Pass

variable {floats : FloatText Seconds} {spansCount attempt : Nat} {outcome : IngestOutcome}

theorem retryAfter_isOk_iff {response : IngestResponse} :
    (∃ seconds, floats.retryAfter response = .ok seconds) ↔
      response.retryAfter?.all fun text => (floats.float? text).isSome := by
  unfold FloatText.retryAfter
  cases response.retryAfter? with
  | none => simp
  | some text => cases read : floats.float? text <;> simp [read]

/-- What a pass that returns says about its post. -/
structure PassReported (outcome : IngestOutcome) (spansCount attempt : Nat) (sent : Bool)
    (diagnostics : SendDiagnostics Seconds) : Prop where
  sent_iff : sent = true ↔ outcome.isSent
  ok : diagnostics.ok = sent
  attempts : diagnostics.attempts = attempt + 1
  spansCount : diagnostics.spansCount = spansCount

theorem httpStatusError_returns {response : IngestResponse} {sent : Bool}
    {diagnostics : SendDiagnostics Seconds} (failed : response.isSuccess = false)
    (ended : httpStatusError floats spansCount attempt response = .returns sent diagnostics) :
    PassReported (.response response) spansCount attempt sent diagnostics := by
  unfold httpStatusError at ended
  split at ended
  · cases read : floats.retryAfter response with
    | error exception => simp [read] at ended
    | ok seconds =>
        rw [read] at ended
        cases ended
        exact ⟨by simp [IngestOutcome.isSent, failed], rfl, rfl, rfl⟩
  · split at ended
    · cases ended
    · cases ended
      exact ⟨by simp [IngestOutcome.isSent, failed], rfl, rfl, rfl⟩

theorem attemptEnd_returns {sent : Bool} {diagnostics : SendDiagnostics Seconds}
    (ended : attemptEnd floats spansCount attempt outcome = .returns sent diagnostics) :
    PassReported outcome spansCount attempt sent diagnostics := by
  cases outcome with
  | response response =>
      simp only [attemptEnd] at ended
      cases success : response.isSuccess with
      | false =>
          rw [if_neg (by simp [success])] at ended
          exact httpStatusError_returns success ended
      | true =>
          rw [if_pos success] at ended
          cases ended
          exact ⟨by simp [IngestOutcome.isSent, success], rfl, rfl, rfl⟩
  | requestError error =>
      simp only [attemptEnd] at ended
      split at ended
      · split at ended
        · cases ended
        · cases ended
          exact ⟨by simp [IngestOutcome.isSent], rfl, rfl, rfl⟩
      · cases ended

theorem statusCode_lt_of_isSuccess {response : IngestResponse} (success : response.isSuccess) :
    response.statusCode < 300 := by
  simp only [IngestResponse.isSuccess, Bool.and_eq_true, decide_eq_true_eq] at success
  omega

/-- Another pass follows a transient outcome, except the last time. -/
theorem attemptEnd_retries_iff : attemptEnd floats spansCount attempt outcome = .retries ↔
    outcome.isTransient ∧ attempt < maxAttempts - 1 := by
  cases outcome with
  | response response =>
      have apart : response.isSuccess → ¬ 500 ≤ response.statusCode := by
        intro success
        have below := statusCode_lt_of_isSuccess success
        omega
      have limited : response.statusCode = 429 → ¬ 500 ≤ response.statusCode := by omega
      simp only [attemptEnd, httpStatusError, IngestOutcome.isTransient, decide_eq_true_eq]
      split
      · rename_i success
        simp [apart success]
      · split
        · rename_i rateLimited
          cases floats.retryAfter response <;> simp [limited rateLimited]
        · split <;> simp_all
  | requestError error =>
      simp only [attemptEnd, IngestOutcome.isTransient]
      split
      · split <;> simp_all
      · simp_all

/-- A pass raises exactly where its outcome is not handled. -/
theorem attemptEnd_raises_iff : (∃ exception, attemptEnd floats spansCount attempt outcome =
      .raises exception) ↔ outcome.isHandled floats = false := by
  cases outcome with
  | response response =>
      have success429 : response.isSuccess → response.statusCode ≠ 429 := by
        intro success
        have below := statusCode_lt_of_isSuccess success
        omega
      simp only [attemptEnd, httpStatusError, IngestOutcome.isHandled, Bool.or_eq_false_iff,
        bne_eq_false_iff_eq]
      split
      · rename_i success
        simp [success429 success]
      · split
        · rename_i rateLimited
          rw [← Bool.not_eq_true, ← retryAfter_isOk_iff]
          cases floats.retryAfter response <;> simp [rateLimited]
        · rename_i other
          split <;> simp [other]
  | requestError error =>
      simp only [attemptEnd, IngestOutcome.isHandled]
      split
      · split <;> simp_all
      · simp_all

theorem attemptEnd_isHandled
    (notRaised : ∀ exception, attemptEnd floats spansCount attempt outcome ≠ .raises exception) :
    outcome.isHandled floats := by
  by_contra unhandled
  obtain ⟨exception, raised⟩ := attemptEnd_raises_iff.mpr (by simpa using unhandled)
  exact notRaised exception raised

end Pass

/-! ### The loop -/

/-- Among `count` outcomes from number `start` on, none that is reached leaves the
loop's body by an exception. -/
def HandledFrom (floats : FloatText Seconds) (outcome : Nat → IngestOutcome) (start count : Nat) :
    Prop :=
  ∀ attempt < count, (∀ earlier < attempt, (outcome (start + earlier)).isTransient) →
    (outcome (start + attempt)).isHandled floats

theorem handledFrom_succ {floats : FloatText Seconds} {outcome : Nat → IngestOutcome}
    {start count : Nat} (transient : (outcome start).isTransient)
    (handled : (outcome start).isHandled floats) :
    HandledFrom floats outcome start (count + 1) ↔
      HandledFrom floats outcome (start + 1) count := by
  constructor
  · intro fromHere attempt below before
    have shifted := fromHere (attempt + 1) (by omega)
    rw [show start + 1 + attempt = start + (attempt + 1) by omega]
    apply shifted
    intro earlier lower
    cases earlier with
    | zero => exact transient
    | succ earlier =>
        have there := before earlier (by omega)
        rwa [show start + 1 + earlier = start + (earlier + 1) by omega] at there
  · intro later attempt below before
    cases attempt with
    | zero => exact handled
    | succ attempt =>
        rw [show start + (attempt + 1) = start + 1 + attempt by omega]
        apply later attempt (by omega)
        intro earlier lower
        have there := before (earlier + 1) (by omega)
        rwa [show start + (earlier + 1) = start + 1 + earlier by omega] at there

section Loop

variable {floats : FloatText Seconds} {payload : IngestPayload Span}
  {outcome : Nat → IngestOutcome} {lastDiagnostics : Option (SendDiagnostics Seconds)}

theorem attempts_posts {remaining attempt : Nat} :
    (attempts floats payload outcome lastDiagnostics remaining attempt).posts.length ≤
        remaining ∧
      ∀ post ∈ (attempts floats payload outcome lastDiagnostics remaining attempt).posts,
        post = payload := by
  induction remaining generalizing attempt with
  | zero => simp [attempts]
  | succ remaining inductionHypothesis =>
      simp only [attempts]
      cases attemptEnd floats payload.spans.length attempt (outcome attempt) with
      | returns sent diagnostics => simp
      | raises exception => simp
      | retries =>
          obtain ⟨fewer, same⟩ := @inductionHypothesis (attempt + 1)
          simp only [List.length_cons, List.forall_mem_cons]
          exact ⟨by omega, trivial, same⟩

theorem attempts_posts_pos {remaining attempt : Nat} (some_left : 0 < remaining) :
    1 ≤ (attempts floats payload outcome lastDiagnostics remaining attempt).posts.length := by
  cases remaining with
  | zero => omega
  | succ remaining =>
      simp only [attempts]
      cases attemptEnd floats payload.spans.length attempt (outcome attempt) <;> simp

/-- While no pass is the last one, a call that returns says what became of its last
post. The passes left and those made are `MAX_ATTEMPTS` together. -/
theorem attempts_reported {remaining attempt : Nat} {sent : Bool} (some_left : 0 < remaining)
    (together : remaining + attempt = maxAttempts)
    (returned : (attempts floats payload outcome lastDiagnostics remaining attempt).result =
      .ok sent) :
    ∃ last diagnostics,
      (attempts floats payload outcome lastDiagnostics remaining attempt).posts.length =
        last + 1 ∧
      (attempts floats payload outcome lastDiagnostics remaining attempt).lastDiagnostics =
        some diagnostics ∧
      PassReported (outcome (attempt + last)) payload.spans.length (attempt + last) sent
        diagnostics := by
  induction remaining generalizing attempt with
  | zero => omega
  | succ remaining inductionHypothesis =>
      simp only [attempts] at returned ⊢
      cases ended : attemptEnd floats payload.spans.length attempt (outcome attempt) with
      | returns sentHere diagnostics =>
          simp only [ended, Except.ok.injEq] at returned ⊢
          subst returned
          exact ⟨0, diagnostics, rfl, rfl, attemptEnd_returns ended⟩
      | raises exception => simp only [ended, reduceCtorEq] at returned
      | retries =>
          have notLast := (attemptEnd_retries_iff.mp ended).2
          simp only [ended] at returned ⊢
          obtain ⟨last, diagnostics, made, left, reported⟩ :=
            inductionHypothesis (by omega) (by omega) returned
          rw [show attempt + 1 + last = attempt + (last + 1) by omega] at reported
          exact ⟨last + 1, diagnostics, by simp [made], left, reported⟩

/-- The call returns exactly when every outcome that it reaches is handled. -/
theorem attempts_isOk_iff {remaining attempt : Nat} (some_left : 0 < remaining)
    (together : remaining + attempt = maxAttempts) :
    (∃ sent, (attempts floats payload outcome lastDiagnostics remaining attempt).result =
        .ok sent) ↔ HandledFrom floats outcome attempt remaining := by
  induction remaining generalizing attempt with
  | zero => omega
  | succ remaining inductionHypothesis =>
      have raises_iff : (∃ exception, attemptEnd floats payload.spans.length attempt
          (outcome attempt) = .raises exception) ↔ (outcome attempt).isHandled floats = false :=
        attemptEnd_raises_iff
      have retries_iff : attemptEnd floats payload.spans.length attempt (outcome attempt) =
          .retries ↔ (outcome attempt).isTransient ∧ attempt < maxAttempts - 1 :=
        attemptEnd_retries_iff
      simp only [attempts]
      cases ended : attemptEnd floats payload.spans.length attempt (outcome attempt) with
      | returns sent diagnostics =>
          have handled : (outcome attempt).isHandled floats := by
            apply attemptEnd_isHandled
            rw [ended]
            exact fun _ => nofun
          refine ⟨fun _ => ?_, fun _ => ⟨sent, rfl⟩⟩
          intro number below before
          cases number with
          | zero => exact handled
          | succ number =>
              -- A transient outcome that returns is the one of the last pass.
              have transient := before 0 (by omega)
              have onlyPass : ¬ attempt < maxAttempts - 1 := by
                intro more
                have again := retries_iff.mpr ⟨transient, more⟩
                rw [ended] at again
                cases again
              omega
      | raises exception =>
          have unhandled := raises_iff.mp ⟨exception, ended⟩
          constructor
          · rintro ⟨sent, returned⟩
            cases returned
          · intro fromHere
            have handled := fromHere 0 (by omega) (fun earlier below => absurd below (by omega))
            rw [Nat.add_zero, unhandled] at handled
            cases handled
      | retries =>
          obtain ⟨transient, notLast⟩ := retries_iff.mp ended
          have handled : (outcome attempt).isHandled floats := by
            apply attemptEnd_isHandled
            rw [ended]
            exact fun _ => nofun
          rw [handledFrom_succ transient handled]
          exact inductionHypothesis (by omega) (by omega)

end Loop

/-- A call reports truthfully exactly when, of the outcomes that it reaches, none is
a rate limit whose `Retry-After` is no number or a request error that is not caught. -/
theorem sendBatch_reportsTruthfully_iff (floats : FloatText Seconds) (spans : List Span)
    (idempotencyKey : Option String) (outcome : Nat → IngestOutcome)
    (lastDiagnostics : Option (SendDiagnostics Seconds)) :
    ReportsTruthfully ⟨spans, idempotencyKey⟩ outcome
        (HttpTransport.sendBatch floats spans idempotencyKey outcome lastDiagnostics) ↔
      ∀ attempt < maxAttempts, (∀ earlier < attempt, (outcome earlier).isTransient) →
        (outcome attempt).isHandled floats := by
  have returns_iff : (∃ sent, (HttpTransport.sendBatch floats spans idempotencyKey outcome
      lastDiagnostics).result = .ok sent) ↔ HandledFrom floats outcome 0 maxAttempts :=
    attempts_isOk_iff (by decide) (by omega)
  simp only [HandledFrom, Nat.zero_add] at returns_iff
  rw [← returns_iff]
  constructor
  · intro truthful
    obtain ⟨sent, _, returned, _⟩ := truthful.reported
    exact ⟨sent, returned⟩
  · rintro ⟨sent, returned⟩
    obtain ⟨atMost, same⟩ : (HttpTransport.sendBatch floats spans idempotencyKey outcome
          lastDiagnostics).posts.length ≤ maxAttempts ∧
        ∀ post ∈ (HttpTransport.sendBatch floats spans idempotencyKey outcome
          lastDiagnostics).posts, post = ⟨spans, idempotencyKey⟩ := attempts_posts
    obtain ⟨last, diagnostics, made, left, reported⟩ :=
      attempts_reported (by decide) (by omega) returned
    rw [Nat.zero_add] at reported
    refine ⟨⟨attempts_posts_pos (by decide), atMost⟩, same, sent, diagnostics, returned, ?_,
      left, reported.ok, ?_, reported.spansCount⟩
    · have counted : (HttpTransport.sendBatch floats spans idempotencyKey outcome
          lastDiagnostics).posts.length - 1 = last := by
        unfold HttpTransport.sendBatch
        omega
      rw [counted]
      exact reported.sent_iff
    · exact reported.attempts.trans made.symm

/-- A rate limit with the other form of `Retry-After`, a date, and a connection that
the server resets while it answers: the call raises. -/
theorem sendBatch_raises :
    ¬ (∀ outcome, ReportsTruthfully ⟨[7], some "batch"⟩ outcome
      (HttpTransport.sendBatch ⟨fun _ => none, 60⟩ [7] (some "batch") outcome none :
        Sending Nat Nat)) ∧
    (HttpTransport.sendBatch ⟨fun _ => none, 60⟩ [7] (some "batch")
        (fun _ => .response ⟨429, [("retry-after", "Wed, 21 Oct 2026 07:28:00 GMT")]⟩) none :
      Sending Nat Nat).result = .error (.invalidFloat "Wed, 21 Oct 2026 07:28:00 GMT") ∧
    (HttpTransport.sendBatch ⟨fun _ => none, 60⟩ [7] (some "batch")
        (fun _ => .requestError .readError) none :
      Sending Nat Nat).result = .error (.requestError .readError) := by
  refine ⟨fun truthful => ?_, rfl, rfl⟩
  obtain ⟨sent, _, returned, _⟩ := (truthful fun _ => .requestError .readError).reported
  cases returned

/-! ### The outcomes that `Transport` starts from -/

/-- What `Transport` keeps of the diagnostics. -/
def SendDiagnostics.toTransport (rational : Seconds → ℚ) (diagnostics : SendDiagnostics Seconds) :
    TransportDiagnostics where
  ok := diagnostics.ok
  reason := diagnostics.reason
  spansCount := diagnostics.spansCount
  attempts := diagnostics.attempts
  statusCode := diagnostics.statusCode
  retryAfter := diagnostics.retryAfter.map rational
  errorType := diagnostics.errorType

/-- What `Transport` keeps of an outcome. -/
def IngestOutcome.toTransport (floats : FloatText Seconds) (rational : Seconds → ℚ) :
    IngestOutcome → PostOutcome
  | .response answer => .response {
      statusCode := answer.statusCode
      retryAfter := answer.retryAfter?.map fun text => (floats.float? text).map rational }
  | .requestError error =>
      if error.isCaught then .connectionError error.name else .raises

/-- What `Transport` keeps of a call: nothing of one that raises. -/
def Sending.toTransport (rational : Seconds → ℚ) (sending : Sending Span Seconds) :
    Option (Bool × TransportDiagnostics) :=
  match sending.result, sending.lastDiagnostics with
  | .ok sent, some diagnostics => some (sent, diagnostics.toTransport rational)
  | _, _ => none

theorem isSuccess_toTransport {response : IngestResponse} {retryAfter : Option (Option ℚ)} :
    HttpResponse.isSuccess ⟨response.statusCode, retryAfter⟩ ↔ response.isSuccess := by
  simp [HttpResponse.isSuccess, IngestResponse.isSuccess]

theorem attempts_toTransport {floats : FloatText Seconds} {payload : IngestPayload Span}
    {outcome : Nat → IngestOutcome} {lastDiagnostics : Option (SendDiagnostics Seconds)}
    {rational : Seconds → ℚ} (sixty : rational floats.sixty = 60) {remaining attempt : Nat} :
    sendAttempts payload.spans.length (fun number => (outcome number).toTransport floats rational)
        remaining attempt =
      (attempts floats payload outcome lastDiagnostics remaining attempt).toTransport
        rational := by
  induction remaining generalizing attempt with
  | zero => rfl
  | succ remaining inductionHypothesis =>
      simp only [sendAttempts, attempts]
      cases reached : outcome attempt with
      | response response =>
          simp only [IngestOutcome.toTransport, attemptEnd, httpStatusError,
            isSuccess_toTransport, FloatText.retryAfter]
          split
          · rfl
          · split
            · cases response.retryAfter? with
              | none => simp [Sending.toTransport, SendDiagnostics.toTransport, sixty]
              | some text =>
                  cases read : floats.float? text <;>
                    simp [Sending.toTransport, SendDiagnostics.toTransport, read]
            · split
              · exact inductionHypothesis
              · rfl
      | requestError error =>
          simp only [IngestOutcome.toTransport, attemptEnd]
          cases error.isCaught with
          | false => rfl
          | true =>
              simp only [if_true]
              split
              · exact inductionHypothesis
              · rfl

/-- `Transport` and this module agree on every call, for any reading of the floats
that keeps sixty. -/
theorem sendBatch_toTransport (floats : FloatText Seconds) (spans : List Span)
    (idempotencyKey : Option String) (outcome : Nat → IngestOutcome)
    (lastDiagnostics : Option (SendDiagnostics Seconds)) {rational : Seconds → ℚ}
    (sixty : rational floats.sixty = 60) :
    sendBatch spans.length (fun number => (outcome number).toTransport floats rational) =
      (HttpTransport.sendBatch floats spans idempotencyKey outcome lastDiagnostics).toTransport
        rational :=
  @attempts_toTransport Span Seconds floats ⟨spans, idempotencyKey⟩ outcome lastDiagnostics
    rational sixty maxAttempts 0

end LlmObs.Sdk
