import LlmObs.Sdk.Instrumentation

/-!
Owns the errors that the three mechanisms record. A wrapped function, a manual span, a patched
call and a traced stream each derive the error of a span in its own way from how the body
ended; it says for which endings all of them report a failure exactly when there was one.
-/

namespace LlmObs.Sdk

variable {Id : Type}

/-- What a body runs inside. -/
inductive Mechanism where
  | trace (name : String)
  | manual (slot : Nat)
  | call (client : Client) (reply : Reply)
  | stream (slot : Nat) (readable : Bool)
deriving DecidableEq, Repr

def Mechanism.wrap : Mechanism → Program → Program
  | .trace name, body => .trace name body
  | .manual slot, body => .withSpan slot body
  | .call client reply, body => .call client reply body
  | .stream slot readable, body => .endStream slot readable body

/-- What the body does inside the mechanism, up to where it ends. -/
inductive BodyRun (uuid4 : Nat → Id) (stack : List Id) (state : SdkState Id) (body : Program) :
    Mechanism → Ending × SdkState Id → Prop where
  | trace (name : String) :
      BodyRun uuid4 stack state body (.trace name)
        (eval uuid4 ((state.newActivation uuid4 stack).spanId :: stack) body
          (state.drawn.enter (state.newActivation uuid4 stack) []))
  | manual {slot : Nat} {span : ManualSpan Id} (assigned : state.slots slot = some span) :
      BodyRun uuid4 stack state body (.manual slot)
        (eval uuid4 ((state.manualActivation stack span).spanId :: stack) body
          (state.enter (state.manualActivation stack span)
            [⟨span.spanId, span.createdUnder, stack⟩]))
  | call (client : Client) (reply : Reply) :
      BodyRun uuid4 stack state body (.call client reply)
        (eval uuid4 ((state.newActivation uuid4 stack).spanId :: stack) body
          (state.drawn.enter (state.newActivation uuid4 stack) []))
  | stream {slot index : Nat} {readable : Bool} {stream : TracedStream Id}
      (kept : state.streamSlots slot = some index)
      (unrecorded : (eval uuid4 stack body state).2.streams[index]? = some stream ∧
        stream.recorded = false) :
      BodyRun uuid4 stack state body (.stream slot readable) (eval uuid4 stack body state)

/-- A span whose error is neither null nor empty is recorded between the two states. -/
def ReportedBetween (before after : SdkState Id) : Prop :=
  ∃ span ∈ after.recorded.drop before.recorded.length,
    ∃ text, span.error = some text ∧ text ≠ ""

/-- The error that a mechanism records for how its body ended. -/
def Mechanism.error : Mechanism → Ending → Option String
  | .trace _, ending => traceError ending
  | .manual _, ending => manualError ending
  | .call _ _, ending => clientError ending
  | .stream _ readable, ending => if readable then clientError ending else none

theorem reportedBetween_iff {before after : SdkState Id} {own : Option (SpanData Id)}
    (owned : after.recorded = before.recorded ++ own.toList) :
    ReportedBetween before after ↔ ∃ text, own.bind (·.error) = some text ∧ text ≠ "" := by
  rw [ReportedBetween, owned, List.drop_left]
  cases own with
  | none => simp
  | some span => simp

theorem recordOr_recorded (spanId : Id) (own : Option (SpanData Id)) (state : SdkState Id) :
    (state.recordOr spanId own).recorded = state.recorded ++ own.toList := by
  cases own with
  | none => exact (List.append_nil _).symm
  | some span => rfl

/-- After the body a mechanism records one span at most, with the error that it derives. -/
theorem own_error (uuid4 : Nat → Id) {stack : List Id} {state : SdkState Id} {body : Program}
    {mechanism : Mechanism} {ran : Ending × SdkState Id}
    (inside : BodyRun uuid4 stack state body mechanism ran) :
    ∃ own : Option (SpanData Id),
      (eval uuid4 stack (mechanism.wrap body) state).2.recorded =
          ran.2.recorded ++ own.toList ∧
        own.bind (·.error) = mechanism.error ran.1 := by
  cases inside with
  | trace name =>
      exact ⟨some (traceSpan (state.newActivation uuid4 stack) name _), rfl, rfl⟩
  | @manual slot span assigned =>
      refine ⟨some (manualSpan (state.manualActivation stack span) span.name _), ?_, rfl⟩
      rw [Mechanism.wrap, eval, assigned]
      rfl
  | call client reply =>
      rw [Mechanism.wrap, eval]
      generalize eval uuid4 _ body _ = ran
      obtain ⟨ending, after⟩ := ran
      cases ending with
      | raised exception => exact ⟨_, recordOr_recorded _ _ _, rfl⟩
      | returned =>
          cases reply with
          | stream slot => exact ⟨none, (List.append_nil _).symm, rfl⟩
          | response readable =>
              refine ⟨_, recordOr_recorded _ _ _, ?_⟩
              cases readable <;> rfl
  | @stream slot index readable stream kept unrecorded =>
      rw [Mechanism.wrap, eval, kept]
      generalize eval uuid4 stack body state = ran at unrecorded
      refine ⟨streamSpan stream readable ran.1, ?_, ?_⟩
      · show (SdkState.recordStream index readable ran.1 ran.2).recorded = _
        rw [SdkState.recordStream, unrecorded.1]
        simp only [unrecorded.2, Bool.false_eq_true, if_false]
        exact recordOr_recorded _ _ _
      · cases readable <;> rfl

/-- The body ended in this way, with what was captured of a stream readable or not, and every
mechanism that it may run inside reports a failure exactly if it raised. -/
def ReportedByAll (uuid4 : Nat → Id) (readable : Bool) (ending : Ending) : Prop :=
  ∀ stack state body mechanism ran, BodyRun uuid4 stack state body mechanism ran →
    ran.1 = ending → (∀ slot other, mechanism = .stream slot other → other = readable) →
    (ReportedBetween ran.2 (eval uuid4 stack (mechanism.wrap body) state).2 ↔ ending.IsRaised)

/-- Any mechanism can be around a body that raises at once. -/
theorem bodyRun_raise (uuid4 : Nat → Id) (mechanism : Mechanism) (exception : Raised) :
    ∃ state ran, BodyRun uuid4 [] state (.raise exception) mechanism ran ∧
      ran.1 = .raised exception := by
  cases mechanism with
  | trace name => exact ⟨.start, _, .trace name, rfl⟩
  | manual slot =>
      have assigned : (SdkState.start.setSlot slot
          ⟨"block", uuid4 0, uuid4 1, none, []⟩).slots slot =
            some ⟨"block", uuid4 0, uuid4 1, none, []⟩ := if_pos rfl
      exact ⟨_, _, .manual assigned, rfl⟩
  | call client reply => exact ⟨.start, _, .call client reply, rfl⟩
  | stream slot readable =>
      have kept : (SdkState.start.addStream slot
          ⟨.openai, uuid4 0, uuid4 1, none, false⟩).streamSlots slot = some 0 := if_pos rfl
      exact ⟨_, _, .stream kept ⟨rfl, rfl⟩, rfl⟩

/-- All mechanisms report exactly the failures, for a body that returns, and for one that
raises an `Exception` that is true and has a message, with a stream that can be read. -/
theorem reportedByAll_iff (uuid4 : Nat → Id) (readable : Bool) (ending : Ending) :
    ReportedByAll uuid4 readable ending ↔
      ending = .returned ∨ ∃ exception, ending = .raised exception ∧
        exception.isException = true ∧ exception.truthy = true ∧ exception.message ≠ "" ∧
        readable = true := by
  have reported {stack : List Id} {state : SdkState Id} {body : Program} {mechanism : Mechanism}
      {ran : Ending × SdkState Id} (inside : BodyRun uuid4 stack state body mechanism ran) :
      ReportedBetween ran.2 (eval uuid4 stack (mechanism.wrap body) state).2 ↔
        ∃ text, mechanism.error ran.1 = some text ∧ text ≠ "" := by
    obtain ⟨own, owned, error⟩ := own_error uuid4 inside
    rw [reportedBetween_iff owned, error]
  constructor
  · intro all
    cases ending with
    | returned => exact Or.inl rfl
    | raised exception =>
        right
        have derived (mechanism : Mechanism)
            (other : ∀ slot other, mechanism = .stream slot other → other = readable) :
            ∃ text, mechanism.error (.raised exception) = some text ∧ text ≠ "" := by
          obtain ⟨state, ran, inside, ended⟩ := bodyRun_raise uuid4 mechanism exception
          rw [← ended, ← reported inside]
          exact (all [] state (.raise exception) mechanism ran inside ended other).mpr trivial
        have traced := derived (.trace "body") (fun _ _ equal => by cases equal)
        have manual := derived (.manual 0) (fun _ _ equal => by cases equal)
        have called := derived (.call .openai (.response true)) (fun _ _ equal => by cases equal)
        have streamed := derived (.stream 0 readable) (fun _ _ equal => by cases equal; rfl)
        simp only [Mechanism.error, traceError, manualError, clientError] at *
        grind
  · rintro (rfl | ⟨exception, rfl, isException, truthy, message, rfl⟩)
    · intro stack state body mechanism ran inside ended _
      rw [reported inside, ended]
      cases mechanism with
      | stream slot readable =>
        cases readable <;> simp [Mechanism.error, clientError, Ending.IsRaised]
      | _ => simp [Mechanism.error, traceError, manualError, clientError, Ending.IsRaised]
    · intro stack state body mechanism ran inside ended same
      rw [reported inside, ended]
      have nonempty := exception.formatted_ne
      cases mechanism with
      | stream slot other =>
          obtain rfl := same slot other rfl
          simp [Mechanism.error, clientError, Ending.IsRaised, isException, message]
      | _ =>
          simp [Mechanism.error, traceError, manualError, clientError, Ending.IsRaised,
            isException, truthy, message, nonempty]

/-- A cancelled body. -/
def cancelled : Raised :=
  ⟨false, true, "", "Traceback (most recent call last):\nasyncio.exceptions.CancelledError\n",
    by decide⟩

/-- A wrapped function that is cancelled is recorded without an error. -/
theorem cancelled_not_reported : ¬ ReportedByAll (fun draw => draw) true (.raised cancelled) := by
  intro all
  have reported := (all [] .start (.raise cancelled) (.trace "job") _ (.trace "job") rfl
    (fun _ _ equal => by cases equal)).mpr trivial
  obtain ⟨span, member, text, error, _⟩ := reported
  have only : span = traceSpan (SdkState.start.newActivation (fun draw => draw) []) "job"
      (.raised cancelled) := List.mem_singleton.mp member
  rw [only] at error
  cases error

end LlmObs.Sdk
