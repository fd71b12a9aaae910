import LlmObs.Backend.Runtime
import LlmObs.Foundation.Interaction
import Mathlib.Algebra.GroupWithZero.Nat

/-!
Owns `PayloadSizeLimitMiddleware` around any application: the messages that reach the
application, the responses that reach the client, and for which requests and
applications the limit is kept exactly.
-/

namespace LlmObs.Backend

open LlmObs.Foundation
open LlmObs.Foundation.Interaction (Action Program Source Phase Run)

abbrev Bytes := List (BitVec 8)

/-- What an application can `receive`. -/
inductive ReceiveMessage where
  | request (body : Bytes) (moreBody : Bool)
  | disconnect
deriving DecidableEq, Repr

/-- What an application can `send`. -/
inductive SendMessage where
  | responseStart (status : Nat) (headers : List (String × String))
  | responseBody (body : Bytes)
deriving DecidableEq, Repr

/-- `PayloadTooLargeError` -/
inductive PayloadTooLargeError where
  | mk
deriving DecidableEq, Repr

inductive AsgiError where
  | payloadTooLarge
  | other
deriving DecidableEq, Repr

/-- An http scope, and what the server receives for it: the messages, then a
disconnect for ever. -/
structure HttpRequest where
  headers : List (String × String)
  messages : List ReceiveMessage

/-- An application: a program for each scope. -/
structure AsgiApp extends
    Program.{0} ReceiveMessage PayloadTooLargeError SendMessage AsgiError where
  start : (headers : List (String × String)) → State

def ReceiveMessage.size : ReceiveMessage → Nat
  | .request body _ => body.length
  | .disconnect => 0

/-- The bytes of body in some messages. -/
def bodySize (messages : List ReceiveMessage) : Nat :=
  (messages.map ReceiveMessage.size).sum

/-- The statuses of the responses that are started. -/
def statuses (sent : List SendMessage) : List Nat :=
  sent.filterMap fun
    | .responseStart status _ => some status
    | .responseBody _ => none

/-- The server's `receive`. -/
def receive : Source (List ReceiveMessage) ReceiveMessage PayloadTooLargeError
  | [] => (.ok .disconnect, [])
  | message :: rest => (.ok message, rest)

/-- `limited_receive`, with `received_bytes` beside the messages. -/
def limitedReceive (maxBytes : Nat) :
    Source (List ReceiveMessage × Nat) ReceiveMessage PayloadTooLargeError
  | ([], receivedBytes) => (.ok .disconnect, ([], receivedBytes))
  | (.disconnect :: rest, receivedBytes) => (.ok .disconnect, (rest, receivedBytes))
  | (.request body moreBody :: rest, receivedBytes) =>
      if maxBytes < receivedBytes + body.length then
        (.error .mk, (rest, receivedBytes + body.length))
      else (.ok (.request body moreBody), (rest, receivedBytes + body.length))

abbrev AppRun (app : AsgiApp) (σ : Type) :=
  Run app.State σ ReceiveMessage SendMessage AsgiError

/-- The application before its first action. -/
def startRun {σ : Type} (app : AsgiApp) (headers : List (String × String)) (source : σ) :
    AppRun app σ where
  phase := .running (app.start headers)
  source := source
  received := []
  sent := []

/-- The middleware and its request. `intOf` is `int` of a header's bytes. -/
structure LimitedRequest where
  maxBytes : Nat
  intOf : String → Option Int
  app : AsgiApp
  request : HttpRequest

/-- A call of the middleware after a number of steps. -/
structure MiddlewareCall (app : AsgiApp) where
  /-- The run of the application, unless it is not called. -/
  run : Option (AppRun app (List ReceiveMessage × Nat))
  /-- What the client has been sent. -/
  sent : List SendMessage
  ended : Bool

namespace LimitedRequest

variable (limited : LimitedRequest)

/-- `_content_length` -/
def contentLength : Option Int :=
  match limited.request.headers.find? fun header => header.1 == "content-length" with
  | some header => limited.intOf header.2
  | none => none

/-- `content_length is not None and content_length > self.max_bytes` -/
def declaredTooLarge : Bool :=
  limited.contentLength.any fun contentLength => (limited.maxBytes : Int) < contentLength

/-- The body of `_send_too_large`. -/
def tooLargeBody : Bytes :=
  encodeUtf8 ("\x7b\"error\":\"payload_too_large\",\"max_bytes\":" ++
    toString limited.maxBytes ++ "\x7d").toList

/-- `_send_too_large` -/
def sendTooLarge : List SendMessage :=
  [.responseStart 413 [("content-type", "application/json"),
      ("content-length", toString limited.tooLargeBody.length)],
    .responseBody limited.tooLargeBody]

/-- The application behind the middleware, after `count` actions. -/
def appRun (count : Nat) : AppRun limited.app (List ReceiveMessage × Nat) :=
  Interaction.after limited.app.toProgram (limitedReceive limited.maxBytes) count
    (startRun limited.app limited.request.headers (limited.request.messages, 0))

/-- What the client has been sent for a run of the application: what the application
sends, and the response of `except PayloadTooLargeError` if none has started. -/
def answer {σ : Type} (run : AppRun limited.app σ) : List SendMessage :=
  match run.phase with
  | .raised .payloadTooLarge =>
      if statuses run.sent = [] then run.sent ++ limited.sendTooLarge else run.sent
  | _ => run.sent

/-- `__call__`, after `count` actions of the application. -/
def call (count : Nat) : MiddlewareCall limited.app :=
  if limited.declaredTooLarge then
    { run := none, sent := limited.sendTooLarge, ended := true }
  else
    let run := limited.appRun count
    { run := some run, sent := limited.answer run, ended := run.phase.isEnded }

/-- The application without the middleware. -/
def plainRun (count : Nat) : AppRun limited.app (List ReceiveMessage) :=
  Interaction.after limited.app.toProgram receive count
    (startRun limited.app limited.request.headers limited.request.messages)

/-- The endpoint reads more than `max_bytes` of body before it responds. -/
def ReadsBeyond : Prop :=
  ∃ count, statuses (limited.plainRun count).sent = [] ∧
    limited.maxBytes < bodySize (limited.plainRun count).received

/-- The application gets what it would get without the middleware, and goes on as it
would. -/
def PassedThrough : Prop :=
  ∀ count, ∃ run, (limited.call count).run = some run ∧
    run.phase = (limited.plainRun count).phase ∧
    run.received = (limited.plainRun count).received ∧
    run.sent = (limited.plainRun count).sent

/-- The client gets one response, a 413. -/
def AnsweredTooLarge : Prop :=
  ∃ count, (limited.call count).ended ∧ statuses (limited.call count).sent = [413]

/-- The limit is exact for this request and application. -/
structure IsExact : Prop where
  neverBeyond : ∀ count run, (limited.call count).run = some run →
    bodySize run.received ≤ limited.maxBytes
  within : bodySize limited.request.messages ≤ limited.maxBytes → limited.PassedThrough
  beyond : limited.ReadsBeyond → limited.AnsweredTooLarge

/-! ### The condition -/

/-- `limited_receive` once the limit is passed: whatever else comes of the body is
refused too. -/
def refusingReceive : Source (List ReceiveMessage) ReceiveMessage PayloadTooLargeError
  | [] => (.ok .disconnect, [])
  | .disconnect :: rest => (.ok .disconnect, rest)
  | .request _ _ :: rest => (.error .mk, rest)

/-- The application as it is refused the message with which the body passes the limit,
before it has responded. -/
def IsRefusal (refusal : AppRun limited.app (List ReceiveMessage)) : Prop :=
  ∃ count state next body moreBody rest,
    (limited.plainRun count).phase = .running state ∧
    limited.app.action state = .receive next ∧
    (limited.plainRun count).source = .request body moreBody :: rest ∧
    bodySize (limited.plainRun count).received ≤ limited.maxBytes ∧
    limited.maxBytes < bodySize (limited.plainRun count).received + body.length ∧
    statuses (limited.plainRun count).sent = [] ∧
    refusal = { limited.plainRun count with phase := .running (next (.error .mk)), source := rest }

/-- From the refusal on the application lets the exception out before it responds, or
ends with one response of its own that is a 413. -/
def LetsOut (refusal : AppRun limited.app (List ReceiveMessage)) : Prop :=
  ∃ count,
    ((Interaction.after limited.app.toProgram refusingReceive count refusal).phase =
        .raised .payloadTooLarge ∧
      statuses (Interaction.after limited.app.toProgram refusingReceive count refusal).sent =
        []) ∨
    ((Interaction.after limited.app.toProgram refusingReceive count refusal).phase.isEnded ∧
      statuses (Interaction.after limited.app.toProgram refusingReceive count refusal).sent =
        [413])

end LimitedRequest

/-! ### What reaches the application -/

theorem statuses_append (first second : List SendMessage) :
    statuses (first ++ second) = statuses first ++ statuses second :=
  List.filterMap_append

theorem bodySize_append (first second : List ReceiveMessage) :
    bodySize (first ++ second) = bodySize first + bodySize second := by
  simp [bodySize]

namespace LimitedRequest

variable {limited : LimitedRequest}

/-- The application has got no more than what was counted, nor than the limit. -/
theorem received_le (count : Nat) :
    bodySize (limited.appRun count).received ≤ (limited.appRun count).source.2 ∧
      bodySize (limited.appRun count).received ≤ limited.maxBytes := by
  refine Interaction.after_invariant (fun (source : List ReceiveMessage × Nat) received =>
    bodySize received ≤ source.2 ∧ bodySize received ≤ limited.maxBytes) ?_ ?_ count
  · rintro ⟨messages, receivedBytes⟩ received ⟨counted, atMost⟩
    cases messages with
    | nil => simpa [limitedReceive, Except.toOption, bodySize_append, bodySize,
        ReceiveMessage.size] using And.intro counted atMost
    | cons message rest =>
        cases message with
        | disconnect => simpa [limitedReceive, Except.toOption, bodySize_append, bodySize,
            ReceiveMessage.size] using And.intro counted atMost
        | request body moreBody =>
            dsimp only at counted
            simp only [limitedReceive]
            split
            · simp only [Except.toOption, Option.toList_none, List.append_nil]
              omega
            · simp only [Except.toOption, Option.toList_some, bodySize_append]
              simp only [bodySize, List.map_cons, List.map_nil, List.sum_cons, List.sum_nil,
                ReceiveMessage.size] at counted atMost ⊢
              omega
  · exact ⟨Nat.le_refl _, Nat.zero_le _⟩

/-- Within the limit no message is refused. -/
theorem answerAlike_within {maxBytes : Nat} (received : List ReceiveMessage)
    (plain : List ReceiveMessage) (counted : List ReceiveMessage × Nat)
    (within : counted.1 = plain ∧ counted.2 + bodySize plain ≤ maxBytes) :
    Interaction.AnswerAlike (fun _ (plain : List ReceiveMessage) counted =>
        counted.1 = plain ∧ counted.2 + bodySize plain ≤ maxBytes)
      receive (limitedReceive maxBytes) received plain counted := by
  obtain ⟨messages, receivedBytes⟩ := counted
  obtain ⟨rfl, fits⟩ := within
  cases messages with
  | nil => exact ⟨rfl, rfl, fits⟩
  | cons message rest =>
      simp only [bodySize, List.map_cons, List.sum_cons] at fits
      cases message with
      | disconnect =>
          simp only [ReceiveMessage.size] at fits
          refine ⟨rfl, rfl, ?_⟩
          show receivedBytes + bodySize rest ≤ maxBytes
          simp only [bodySize]
          omega
      | request body moreBody =>
          simp only [ReceiveMessage.size] at fits
          have notBeyond : ¬ maxBytes < receivedBytes + body.length := by omega
          simp only [Interaction.AnswerAlike, receive, limitedReceive, if_neg notBeyond]
          refine ⟨trivial, trivial, ?_⟩
          simp only [bodySize]
          omega

/-- A body within the limit reaches the application as it came. -/
theorem appRun_within (within : bodySize limited.request.messages ≤ limited.maxBytes)
    (count : Nat) :
    (limited.appRun count).phase = (limited.plainRun count).phase ∧
      (limited.appRun count).received = (limited.plainRun count).received ∧
      (limited.appRun count).sent = (limited.plainRun count).sent := by
  have started : Interaction.Related
      (fun _ (plain : List ReceiveMessage) (counted : List ReceiveMessage × Nat) =>
        counted.1 = plain ∧ counted.2 + bodySize plain ≤ limited.maxBytes)
      (startRun limited.app limited.request.headers limited.request.messages)
      (startRun limited.app limited.request.headers (limited.request.messages, 0)) :=
    ⟨rfl, ⟨rfl, (Nat.zero_add _).trans_le within⟩, rfl, rfl⟩
  have same := Interaction.after_related answerAlike_within started count
  exact ⟨same.phase.symm, same.received.symm, same.sent.symm⟩

/-! ### Up to the refusal -/

/-- The middleware has counted what the application has got. -/
def CountedAlike (received plain : List ReceiveMessage)
    (counted : List ReceiveMessage × Nat) : Prop :=
  counted = (plain, bodySize received)

theorem answerAlike_counted {maxBytes : Nat} {received plain : List ReceiveMessage}
    (within : bodySize (received ++ (receive plain).1.toOption.toList) ≤ maxBytes) :
    Interaction.AnswerAlike CountedAlike receive (limitedReceive maxBytes) received plain
      (plain, bodySize received) := by
  cases plain with
  | nil =>
      refine ⟨rfl, congrArg (Prod.mk _) ?_⟩
      simp [receive, Except.toOption, bodySize, ReceiveMessage.size]
  | cons message rest =>
      rw [bodySize_append] at within
      cases message with
      | disconnect =>
          refine ⟨rfl, congrArg (Prod.mk _) ?_⟩
          simp [receive, Except.toOption, bodySize, ReceiveMessage.size]
      | request body moreBody =>
          have size : bodySize [.request body moreBody] = body.length := by
            simp [bodySize, ReceiveMessage.size]
          have notBeyond : ¬ maxBytes < bodySize received + body.length := by
            simp only [receive, Except.toOption, Option.toList_some, size] at within
            omega
          simp only [Interaction.AnswerAlike, receive, limitedReceive, if_neg notBeyond,
            CountedAlike, Except.toOption, Option.toList_some, bodySize_append, size]
          trivial

theorem plainRun_succ (count : Nat) : limited.plainRun (count + 1) =
    Interaction.step limited.app.toProgram receive (limited.plainRun count) := rfl

theorem bodySize_received_mono (count : Nat) :
    bodySize (limited.plainRun count).received ≤
      bodySize (limited.plainRun (count + 1)).received := by
  obtain ⟨further, received⟩ :=
    (Interaction.step_grows receive (limited.plainRun count)).1
  have grown : (limited.plainRun (count + 1)).received =
      (limited.plainRun count).received ++ further := received.symm
  rw [grown, bodySize_append]
  omega

/-- As long as what the endpoint reads is within the limit, the middleware only counts
it. -/
theorem related_of_within {count : Nat}
    (within : bodySize (limited.plainRun count).received ≤ limited.maxBytes) :
    Interaction.Related CountedAlike (limited.plainRun count) (limited.appRun count) := by
  induction count with
  | zero => exact ⟨rfl, rfl, rfl, rfl⟩
  | succ count inductionHypothesis =>
      have before := inductionHypothesis ((bodySize_received_mono count).trans within)
      refine Interaction.step_related before fun state next running receives => ?_
      show Interaction.AnswerAlike CountedAlike receive (limitedReceive limited.maxBytes)
        (limited.plainRun count).received (limited.plainRun count).source
        (limited.appRun count).source
      rw [show (limited.appRun count).source = _ from before.source]
      apply answerAlike_counted
      have here : (limited.plainRun count).phase = .running state := running
      rw [plainRun_succ, Interaction.step_receive here receives] at within
      exact within

/-- Before an endpoint has read too much it is refused the message that is too much. -/
theorem exists_refusal (beyond : limited.ReadsBeyond) : ∃ refusal, limited.IsRefusal refusal := by
  obtain ⟨count, silent, large⟩ := beyond
  induction count with
  | zero => cases large
  | succ count inductionHypothesis =>
      obtain ⟨further, sent⟩ := (Interaction.step_grows receive (limited.plainRun count)).2
      have silentBefore : statuses (limited.plainRun count).sent = [] := by
        rw [plainRun_succ, ← sent, statuses_append] at silent
        exact (List.append_eq_nil_iff.mp silent).1
      by_cases earlier : limited.maxBytes < bodySize (limited.plainRun count).received
      · exact inductionHypothesis silentBefore earlier
      · by_cases receiving : ∃ state next, (limited.plainRun count).phase = .running state ∧
            limited.app.action state = .receive next
        · obtain ⟨state, next, running, receives⟩ := receiving
          rw [plainRun_succ, Interaction.step_receive running receives] at large
          dsimp only at large
          rw [bodySize_append] at large
          cases source : (limited.plainRun count).source with
          | nil =>
              rw [source] at large
              exact absurd large earlier
          | cons message rest =>
              rw [source] at large
              cases message with
              | disconnect => exact absurd large earlier
              | request body moreBody =>
                  refine ⟨_, count, state, next, body, moreBody, rest, running, receives, source,
                    not_lt.mp earlier, ?_, silentBefore, rfl⟩
                  simpa [receive, Except.toOption, bodySize, ReceiveMessage.size] using large
        · rw [plainRun_succ, Interaction.step_received_of_not_receive fun state next running
            receives => receiving ⟨state, next, running, receives⟩] at large
          exact absurd large earlier

/-! ### From the refusal on -/

/-- Once the limit is passed, both sources refuse whatever comes of the body. -/
def BothRefuse (maxBytes : Nat) (_ : List ReceiveMessage) (plain : List ReceiveMessage)
    (counted : List ReceiveMessage × Nat) : Prop :=
  counted.1 = plain ∧ maxBytes < counted.2

theorem answerAlike_refusing {maxBytes : Nat} (received plain : List ReceiveMessage)
    (counted : List ReceiveMessage × Nat) (refuse : BothRefuse maxBytes received plain counted) :
    Interaction.AnswerAlike (BothRefuse maxBytes) refusingReceive (limitedReceive maxBytes)
      received plain counted := by
  obtain ⟨messages, receivedBytes⟩ := counted
  obtain ⟨rfl, beyond⟩ := refuse
  cases messages with
  | nil => exact ⟨rfl, rfl, beyond⟩
  | cons message rest =>
      cases message with
      | disconnect => exact ⟨rfl, rfl, beyond⟩
      | request body moreBody =>
          dsimp only at beyond
          have stays : maxBytes < receivedBytes + body.length := by omega
          simp only [Interaction.AnswerAlike, refusingReceive, limitedReceive, if_pos stays]
          exact ⟨trivial, rfl, stays⟩

/-- Behind the middleware the application comes to its refusal. -/
theorem related_refusal {refusal : AppRun limited.app (List ReceiveMessage)}
    (refused : limited.IsRefusal refusal) :
    ∃ count, ∀ further, Interaction.Related (BothRefuse limited.maxBytes)
      (Interaction.after limited.app.toProgram refusingReceive further refusal)
      (limited.appRun (count + further)) := by
  obtain ⟨count, state, next, body, moreBody, rest, running, receives, source, within, beyond,
    silent, rfl⟩ := refused
  refine ⟨count + 1, fun further => ?_⟩
  have before := related_of_within within
  have appRunning : (limited.appRun count).phase = .running state :=
    before.phase.symm.trans running
  have appSource : (limited.appRun count).source =
      (.request body moreBody :: rest, bodySize (limited.plainRun count).received) := by
    rw [← source]
    exact before.source
  unfold appRun
  rw [Interaction.after_add]
  apply Interaction.after_related answerAlike_refusing
  show Interaction.Related _ _
    (Interaction.step _ (limitedReceive limited.maxBytes) (limited.appRun count))
  rw [Interaction.step_receive appRunning receives, appSource]
  simp only [limitedReceive, if_pos beyond]
  exact ⟨rfl, ⟨rfl, beyond⟩, by simp [Except.toOption, before.received], before.sent⟩

/-- What the client gets of an ended run is one 413 in two cases. -/
theorem statuses_answer {σ : Type} (run : AppRun limited.app σ) :
    (run.phase.isEnded ∧ statuses (limited.answer run) = [413]) ↔
      (run.phase = .raised .payloadTooLarge ∧ statuses run.sent = []) ∨
        (run.phase.isEnded ∧ statuses run.sent = [413]) := by
  unfold answer
  cases phase : run.phase with
  | running state => simp [Phase.isEnded]
  | finished => simp [Phase.isEnded]
  | raised error =>
      cases error with
      | other => simp [Phase.isEnded]
      | payloadTooLarge =>
          by_cases silent : statuses run.sent = []
          · have one : statuses limited.sendTooLarge = [413] := rfl
            simp [silent, statuses_append, one, Phase.isEnded]
          · simp [silent, Phase.isEnded]

/-- The client gets one 413 exactly when the application lets the exception out. -/
theorem answeredTooLarge_iff {refusal : AppRun limited.app (List ReceiveMessage)}
    (undeclared : limited.declaredTooLarge = false) (refused : limited.IsRefusal refusal) :
    limited.AnsweredTooLarge ↔ limited.LetsOut refusal := by
  obtain ⟨before, related⟩ := related_refusal refused
  have called : limited.AnsweredTooLarge ↔ ∃ count,
      (limited.appRun count).phase.isEnded ∧
        statuses (limited.answer (limited.appRun count)) = [413] := by
    simp only [AnsweredTooLarge, call, undeclared, Bool.false_eq_true, if_false]
  rw [called]
  simp only [statuses_answer]
  constructor
  · rintro ⟨count, ended⟩
    have isEnded : (limited.appRun count).phase.isEnded := by
      rcases ended with ⟨raised, _⟩ | ⟨isEnded, _⟩
      · rw [raised]
        rfl
      · exact isEnded
    have stays : limited.appRun (before + count) = limited.appRun count := by
      unfold appRun at isEnded ⊢
      rw [Nat.add_comm, Interaction.after_add, Interaction.after_of_ended isEnded]
    obtain ⟨phase, _, _, sent⟩ := related count
    refine ⟨count, ?_⟩
    rw [phase, sent, stays]
    exact ended
  · rintro ⟨count, ended⟩
    obtain ⟨phase, _, _, sent⟩ := related count
    refine ⟨before + count, ?_⟩
    rw [← phase, ← sent]
    exact ended

theorem readsBeyond_of_refusal {refusal : AppRun limited.app (List ReceiveMessage)}
    (refused : limited.IsRefusal refusal) : limited.ReadsBeyond := by
  obtain ⟨count, state, next, body, moreBody, rest, running, receives, source, _, beyond,
    silent, _⟩ := refused
  refine ⟨count + 1, ?_⟩
  rw [plainRun_succ, Interaction.step_receive running receives, source]
  refine ⟨silent, ?_⟩
  simpa [receive, Except.toOption, bodySize, ReceiveMessage.size] using beyond

/-- The limit is exact for exactly the requests that declare no more than the limit
where their body is within it, and whose endpoint, where it reads beyond the limit
before it responds, is refused by the declared length or lets the exception out. -/
theorem isExact_iff (limited : LimitedRequest) : limited.IsExact ↔
    (bodySize limited.request.messages ≤ limited.maxBytes → limited.declaredTooLarge = false) ∧
      (limited.declaredTooLarge = false →
        ∀ refusal, limited.IsRefusal refusal → limited.LetsOut refusal) := by
  constructor
  · intro exactly
    constructor
    · intro within
      obtain ⟨run, called, _⟩ := exactly.within within 0
      cases declared : limited.declaredTooLarge with
      | false => rfl
      | true =>
          rw [call, if_pos declared] at called
          cases called
    · intro undeclared refusal refused
      exact (answeredTooLarge_iff undeclared refused).mp
        (exactly.beyond (readsBeyond_of_refusal refused))
  · rintro ⟨declaresLess, letsOut⟩
    refine ⟨fun count run called => ?_, fun within count => ?_, fun beyond => ?_⟩
    · unfold call at called
      split at called
      · cases called
      · cases called
        exact (received_le count).2
    · refine ⟨limited.appRun count, ?_, appRun_within within count⟩
      rw [call, declaresLess within]
      rfl
    · cases declared : limited.declaredTooLarge with
      | true =>
          refine ⟨0, ?_⟩
          rw [call, if_pos declared]
          exact ⟨rfl, rfl⟩
      | false =>
          obtain ⟨refusal, refused⟩ := exists_refusal beyond
          exact (answeredTooLarge_iff declared refused).mpr (letsOut declared refusal refused)

/-! ### Endpoints of FastAPI -/

inductive ReaderState where
  | reading
  | answering (status : Nat)
  | closing
  | closed
  | raising (error : AsgiError)
deriving DecidableEq, Repr

/-- An endpoint that reads its whole body and accepts it. It goes on with `onRefusal`
after an exception of `receive`. -/
def bodyReader (onRefusal : ReaderState) : AsgiApp where
  State := ReaderState
  start _ := .reading
  action
    | .reading => .receive fun
        | .ok (.request _ true) => .reading
        | .ok (.request _ false) => .answering 202
        | .ok .disconnect => .raising .other
        | .error _ => onRefusal
    | .answering status => .send (.responseStart status []) .closing
    | .closing => .send (.responseBody []) .closed
    | .closed => .finish
    | .raising error => .raise error

/-- An endpoint with a JSON body, as `ingest_spans`: FastAPI answers 400 to any
exception while it reads the body. -/
def jsonReader : AsgiApp := bodyReader (.answering 400)

/-- An endpoint that calls `request.body()` itself. -/
def streamReader : AsgiApp := bodyReader (.raising .payloadTooLarge)

section Readers

variable {maxBytes : Nat} {intOf : String → Option Int} {request : HttpRequest}
  {onRefusal : ReaderState}

theorem refusal_bodyReader {refusal : AppRun (bodyReader onRefusal) (List ReceiveMessage)}
    (refused : IsRefusal ⟨maxBytes, intOf, bodyReader onRefusal, request⟩ refusal) :
    refusal.phase = .running onRefusal ∧ statuses refusal.sent = [] := by
  obtain ⟨count, state, next, body, moreBody, rest, _, receives, _, _, _, silent, rfl⟩ := refused
  refine ⟨?_, silent⟩
  cases state with
  | reading =>
      cases receives
      rfl
  | answering _ | closing | closed | raising _ => cases receives

theorem streamReader_letsOut {refusal : AppRun streamReader (List ReceiveMessage)}
    (refused : IsRefusal ⟨maxBytes, intOf, streamReader, request⟩ refusal) :
    LetsOut ⟨maxBytes, intOf, streamReader, request⟩ refusal := by
  obtain ⟨running, silent⟩ := refusal_bodyReader refused
  refine ⟨1, Or.inl ?_⟩
  show (Interaction.step _ _ refusal).phase = _ ∧ statuses (Interaction.step _ _ refusal).sent = []
  unfold Interaction.step
  rw [running]
  exact ⟨rfl, silent⟩

theorem jsonReader_not_letsOut {refusal : AppRun jsonReader (List ReceiveMessage)}
    (refused : IsRefusal ⟨maxBytes, intOf, jsonReader, request⟩ refusal) :
    ¬ LetsOut ⟨maxBytes, intOf, jsonReader, request⟩ refusal := by
  obtain ⟨running, silent⟩ := refusal_bodyReader refused
  obtain ⟨phase, source, received, sent⟩ := refusal
  dsimp only at running silent
  subst running
  -- Three actions after the exception the endpoint has answered 400 and ended.
  have answered : ∀ count, Interaction.after jsonReader.toProgram refusingReceive (count + 3)
      ⟨.running (.answering 400), source, received, sent⟩ =
        ⟨.finished, source, received, sent ++ [.responseStart 400 []] ++ [.responseBody []]⟩ := by
    intro count
    rw [Nat.add_comm, Interaction.after_add]
    exact Interaction.after_of_ended rfl count
  rintro ⟨count, ended⟩
  match count with
  | 0 | 1 | 2 =>
      rcases ended with ⟨raised, _⟩ | ⟨isEnded, _⟩
      · cases raised
      · cases isEnded
  | count + 3 =>
      rcases ended with ⟨raised, _⟩ | ⟨_, one⟩
      · cases (congrArg Run.phase (answered count)).symm.trans raised
      · have four := (congrArg (fun run => statuses run.sent) (answered count)).symm.trans one
        dsimp only at four
        rw [statuses_append, statuses_append, silent] at four
        cases four

/-- A body of eleven bytes in one chunk without a declared length, against a limit of
ten: an endpoint with a JSON body answers 400. -/
theorem jsonReader_not_exact : ¬ IsExact {
    maxBytes := 10
    intOf := fun _ => none
    app := jsonReader
    request := ⟨[], [.request (List.replicate 11 0) false]⟩ } := by
  intro exactly
  have beyond : ReadsBeyond {
      maxBytes := 10
      intOf := fun _ => none
      app := jsonReader
      request := ⟨[], [.request (List.replicate 11 0) false]⟩ } := ⟨1, rfl, by decide⟩
  obtain ⟨refusal, refused⟩ := exists_refusal beyond
  exact jsonReader_not_letsOut refused
    ((answeredTooLarge_iff rfl refused).mp (exactly.beyond beyond))

end Readers

end LimitedRequest

end LlmObs.Backend
