import LlmObs.Sdk.StreamDeltas
import Mathlib.Data.List.Basic

/-!
Owns the traced streams of the OpenAI and Anthropic clients: what a caller may do with one, in
any order, and the span that comes of it. The generators of the stream, its `aclose` and the
flag that guards the recording are a step for each use; the result says of every sequence of
uses when exactly one span is recorded that tells what was delivered.
-/

namespace LlmObs.Sdk

variable {Id : Type}

/-- A span of a traced stream, with what was read of the stream. -/
structure StreamSpan (Id : Type) where
  span : SpanData Id
  output : Option String
  inputTokens : Int
  outputTokens : Int
  streamComplete : Bool

/-- An asynchronous generator over the stream. -/
inductive Generator where
  | unstarted
  | paused
  | finished
deriving DecidableEq, Repr

/-- What the foreign stream answers where a generator asks it for the next chunk. -/
inductive Answer where
  | answered (chunk : PyValue)
  | raised (exception : Raised)
  | exhausted

/-- What a caller does with a traced stream. -/
inductive Use where
  /-- One more step of an iteration. -/
  | next (generator : Nat) (answer : Answer)
  /-- A generator that is given up is closed by the event loop. -/
  | finalize (generator : Nat)
  /-- `aclose`, where the foreign `aclose` returns, is missing, or raises. -/
  | aclose (foreign : Option Raised)

/-- A traced stream, what the tracer was given, and, beside the code, what the caller saw. -/
structure StreamRun (Id : Type) where
  stream : TracedStream Id
  capture : Capture
  generators : Nat → Generator
  recorded : List (StreamSpan Id)
  delivered : List PyValue
  exhausted : Bool

/-- `"".join(parts)`, where all of them are texts. -/
def joinTexts (parts : List PyValue) : Option String :=
  if parts.all (·.text?.isSome) then some (String.join (parts.filterMap PyValue.text?)) else none

namespace StreamRun

/-- A stream that was just returned to its caller. -/
def start (client : Client) (traceId spanId : Id) (parentSpanId : Option Id) : StreamRun Id :=
  ⟨⟨client, traceId, spanId, parentSpanId, false⟩, .start, fun _ => .unstarted, [], [], false⟩

variable (builtins : Builtins) (configured : Bool)

/-- The span that `_record` makes. Where no tracer is configured, or a part is no text, an
exception is swallowed instead. -/
def newSpan (error : Option String) (completed : Bool) (run : StreamRun Id) :
    Option (StreamSpan Id) :=
  if configured then
    (joinTexts run.capture.parts).map fun text =>
      { span := ⟨run.stream.traceId, run.stream.spanId, run.stream.client.spanName,
          run.stream.client.provider, run.stream.parentSpanId, error⟩
        output := if text = "" then none else some text
        inputTokens := run.capture.inputTokens
        outputTokens := run.capture.outputTokens
        streamComplete := completed }
  else none

/-- It is the span of the stream in a run of an application, where a stream is readable if its
parts can be joined. -/
theorem newSpan_span (ending : Ending) (completed : Bool) (run : StreamRun Id) :
    (run.newSpan true (clientError ending) completed).map (·.span) =
      streamSpan run.stream (joinTexts run.capture.parts).isSome ending := by
  rw [newSpan, streamSpan, if_pos rfl, Option.map_map]
  cases joinTexts run.capture.parts <;> rfl

/-- `_record` -/
def record (error : Option String) (completed : Bool) (run : StreamRun Id) : StreamRun Id :=
  if run.stream.recorded then run
  else
    { run with
      stream := run.stream.ended
      recorded := run.recorded ++ (run.newSpan configured error completed).toList }

/-- `_iterate`, from an answer of the foreign stream to the next `yield` or to its end. -/
def iterate (answer : Answer) (run : StreamRun Id) : StreamRun Id × Generator :=
  match answer with
  | .answered chunk =>
      let captured := run.stream.client.capture builtins run.capture chunk
      let after := { run with capture := captured.1 }
      match captured.2 with
      | none => ({ after with delivered := after.delivered ++ [chunk] }, .paused)
      | some exception =>
          (after.record configured (clientError (.raised exception)) false, .finished)
  | .raised exception =>
      (run.record configured (clientError (.raised exception)) false, .finished)
  | .exhausted => ({ run with exhausted := true }.record configured none true, .finished)

/-- `aclose`, which records nothing where the foreign `aclose` raises. -/
def aclose (foreign : Option Raised) (run : StreamRun Id) : StreamRun Id :=
  match foreign with
  | none => run.record configured none false
  | some _ => run

def setGenerator (generator : Nat) (state : Generator) (run : StreamRun Id) : StreamRun Id :=
  { run with generators := Function.update run.generators generator state }

/-- One use. A generator that is finished does not run again, and one that was never started
is closed without running. -/
def step (run : StreamRun Id) : Use → StreamRun Id
  | .next generator answer =>
      match run.generators generator with
      | .finished => run
      | _ =>
          let ran := run.iterate builtins configured answer
          ran.1.setGenerator generator ran.2
  | .finalize generator =>
      match run.generators generator with
      | .paused => (run.record configured none false).setGenerator generator .finished
      | _ => run.setGenerator generator .finished
  | .aclose foreign => run.aclose configured foreign

/-- A sequence of uses. -/
def steps (run : StreamRun Id) (uses : List Use) : StreamRun Id :=
  uses.foldl (step builtins configured) run

/-- Exactly one span was recorded. Its output is the text that was delivered, and it is
complete exactly if the stream was exhausted. -/
def RecordedOnce (run : StreamRun Id) : Prop :=
  ∃ span, run.recorded = [span] ∧
    span.output.getD "" =
      String.join (run.delivered.map (run.stream.client.textDelta builtins)) ∧
    (span.streamComplete = true ↔ run.exhausted = true)

end StreamRun

/-! ### What a use does to a stream -/

inductive Effect where
  | idle
  | delivers (chunk : PyValue)
  /-- The chunk was asked for, but reading it raises. -/
  | spoils (chunk : PyValue)
  | fails
  | exhausts
  | closes

namespace Effect

/-- `_record` is called. -/
def records : Effect → Bool
  | .idle | .delivers _ => false
  | .spoils _ | .fails | .exhausts | .closes => true

def isExhausts : Effect → Bool
  | .exhausts => true
  | _ => false

def delivered : Effect → List PyValue
  | .delivers chunk => [chunk]
  | _ => []

/-- The chunk that the stream reads, which is not delivered if reading it raises. -/
def chunks : Effect → List PyValue
  | .delivers chunk | .spoils chunk => [chunk]
  | _ => []

variable (builtins : Builtins) (client : Client)

def deltas (effect : Effect) : List PyValue := effect.chunks.flatMap (client.deltas builtins)

/-- The text that the stream reads. -/
def text (effect : Effect) : String :=
  String.join (effect.chunks.map (client.textDelta builtins))

/-- The text that the caller gets. -/
def deliveredText (effect : Effect) : String :=
  String.join (effect.delivered.map (client.textDelta builtins))

/-- Every delta that the stream reads is a text. -/
def ReadsText (effect : Effect) : Prop :=
  ∀ delta ∈ effect.deltas builtins client, delta.text?.isSome

end Effect

section Effects

variable (builtins : Builtins) (client : Client)

def Answer.effect : Answer → Effect
  | .answered chunk =>
      if (client.unreadable builtins chunk).isSome then .spoils chunk else .delivers chunk
  | .raised _ => .fails
  | .exhausted => .exhausts

def Use.effect (generators : Nat → Generator) : Use → Effect
  | .next generator answer =>
      if generators generator = .finished then .idle else answer.effect builtins client
  | .finalize generator => if generators generator = .paused then .closes else .idle
  | .aclose foreign => if foreign.isSome then .idle else .closes

/-- The generators after a use. -/
def Use.advance (generators : Nat → Generator) : Use → Nat → Generator
  | .next generator answer =>
      if generators generator = .finished then generators
      else Function.update generators generator
        (if (answer.effect builtins client).records then .finished else .paused)
  | .finalize generator => Function.update generators generator .finished
  | .aclose _ => generators

/-- What each of a sequence of uses does. -/
def effects (generators : Nat → Generator) : List Use → List Effect
  | [] => []
  | use :: uses =>
      use.effect builtins client generators ::
        effects (use.advance builtins client generators) uses

end Effects

namespace StreamRun

variable {builtins : Builtins} {configured : Bool} {run after : StreamRun Id}

/-- What a span says of the stream. -/
def told (recorded : List (StreamSpan Id)) : List (String × Bool) :=
  recorded.map fun span => (span.output.getD "", span.streamComplete)

/-- What the next span would say. -/
def wouldTell (configured : Bool) (parts : List PyValue) (completed : Bool) :
    List (String × Bool) :=
  if configured then ((joinTexts parts).map fun text => (text, completed)).toList else []

theorem told_newSpan (error : Option String) (completed : Bool) (run : StreamRun Id) :
    told (run.newSpan configured error completed).toList =
      wouldTell configured run.capture.parts completed := by
  rw [newSpan, wouldTell]
  cases configured with
  | false => rfl
  | true =>
      cases joinTexts run.capture.parts with
      | none => rfl
      | some text =>
          by_cases empty : text = ""
          · simp [told, empty]
          · simp [told, empty]

/-- What one use changes. -/
structure Took (builtins : Builtins) (configured : Bool) (run : StreamRun Id) (effect : Effect)
    (after : StreamRun Id) : Prop where
  client : after.stream.client = run.stream.client
  parts : after.capture.parts =
    run.capture.parts ++ effect.deltas builtins run.stream.client
  delivered : after.delivered = run.delivered ++ effect.delivered
  exhausted : after.exhausted = (run.exhausted || effect.isExhausts)
  flag : after.stream.recorded = (run.stream.recorded || effect.records)
  told : told after.recorded = told run.recorded ++
    if effect.records ∧ run.stream.recorded = false then
      wouldTell configured after.capture.parts effect.isExhausts
    else []

/-- A span is recorded only where none was attempted before. -/
theorem record_facts (configured : Bool) (error : Option String) (completed : Bool)
    (run : StreamRun Id) :
    (run.record configured error completed).stream.client = run.stream.client ∧
      (run.record configured error completed).stream.recorded = true ∧
      told (run.record configured error completed).recorded = told run.recorded ++
        if run.stream.recorded = false then
          wouldTell configured run.capture.parts completed else [] := by
  rw [record]
  split
  · rename_i before
    exact ⟨rfl, before, by simp [before]⟩
  · rename_i first
    have unrecorded : run.stream.recorded = false := by simpa using first
    refine ⟨rfl, rfl, ?_⟩
    rw [if_pos unrecorded, ← told_newSpan error completed run, told, List.map_append]
    rfl

theorem record_rest (configured : Bool) (error : Option String) (completed : Bool)
    (run : StreamRun Id) :
    (run.record configured error completed).capture = run.capture ∧
      (run.record configured error completed).delivered = run.delivered ∧
      (run.record configured error completed).exhausted = run.exhausted ∧
      (run.record configured error completed).generators = run.generators := by
  rw [record]
  split <;> exact ⟨rfl, rfl, rfl, rfl⟩

theorem Took.idle (run : StreamRun Id) : Took builtins configured run .idle run :=
  ⟨rfl, (List.append_nil _).symm, (List.append_nil _).symm, (Bool.or_false _).symm,
    (Bool.or_false _).symm, by simp [Effect.records]⟩

/-- The generators are no part of what is recorded. -/
theorem Took.setGenerator {effect : Effect} (took : Took builtins configured run effect after)
    (generator : Nat) (state : Generator) :
    Took builtins configured run effect (after.setGenerator generator state) :=
  ⟨took.client, took.parts, took.delivered, took.exhausted, took.flag, took.told⟩

/-- `_record`, after what the effect did to the capture and to what the caller sees. -/
theorem took_record (error : Option String) {effect : Effect} (records : effect.records = true)
    (stream : after.stream = run.stream) (recorded : after.recorded = run.recorded)
    (parts : after.capture.parts =
      run.capture.parts ++ effect.deltas builtins run.stream.client)
    (delivered : after.delivered = run.delivered ++ effect.delivered)
    (exhausted : after.exhausted = (run.exhausted || effect.isExhausts)) :
    Took builtins configured run effect (after.record configured error effect.isExhausts) := by
  have facts := record_facts configured error effect.isExhausts after
  have rest := record_rest configured error effect.isExhausts after
  refine ⟨?_, ?_, ?_, ?_, ?_, ?_⟩
  · rw [facts.1, stream]
  · rw [rest.1, parts]
  · rw [rest.2.1, delivered]
  · rw [rest.2.2.1, exhausted]
  · rw [facts.2.1, records, Bool.or_true]
  · rw [facts.2.2, rest.1, stream, recorded]
    simp only [records, true_and]

/-- A generator that goes on takes the effect of the answer, and is finished if it records. -/
theorem iterate_took (builtins : Builtins) (configured : Bool) (run : StreamRun Id)
    (answer : Answer) :
    Took builtins configured run (answer.effect builtins run.stream.client)
        (run.iterate builtins configured answer).1 ∧
      (run.iterate builtins configured answer).2 =
        if (answer.effect builtins run.stream.client).records then .finished else .paused := by
  cases answer with
  | raised exception =>
      exact ⟨took_record _ rfl rfl rfl (List.append_nil _).symm (List.append_nil _).symm
        (Bool.or_false _).symm, rfl⟩
  | exhausted =>
      exact ⟨took_record none rfl rfl rfl (List.append_nil _).symm (List.append_nil _).symm
        (Bool.or_true _).symm, rfl⟩
  | answered chunk =>
      have parts := run.stream.client.capture_parts builtins run.capture chunk
      have raised := run.stream.client.capture_raised builtins run.capture chunk
      have deltas (effect : Effect) (reads : effect.chunks = [chunk]) :
          effect.deltas builtins run.stream.client =
            run.stream.client.deltas builtins chunk := by
        rw [Effect.deltas, reads, List.flatMap_singleton]
      rw [iterate, Answer.effect]
      cases unreadable : run.stream.client.unreadable builtins chunk with
      | none =>
          rw [unreadable] at raised
          simp only [raised]
          refine ⟨⟨rfl, ?_, rfl, (Bool.or_false _).symm, (Bool.or_false _).symm, ?_⟩, rfl⟩
          · exact parts.trans (by rw [deltas _ rfl])
          · simp [Effect.records]
      | some exception =>
          rw [unreadable] at raised
          simp only [raised]
          refine ⟨took_record _ rfl rfl rfl ?_ (List.append_nil _).symm (Bool.or_false _).symm,
            rfl⟩
          exact parts.trans (by rw [deltas _ rfl])

theorem iterate_generators (builtins : Builtins) (configured : Bool) (run : StreamRun Id)
    (answer : Answer) :
    (run.iterate builtins configured answer).1.generators = run.generators := by
  cases answer with
  | raised exception => exact (record_rest configured _ false run).2.2.2
  | exhausted => exact (record_rest configured none true _).2.2.2
  | answered chunk =>
      rw [iterate]
      cases (run.stream.client.capture builtins run.capture chunk).2 with
      | none => rfl
      | some exception => exact (record_rest configured _ false _).2.2.2

theorem step_took (builtins : Builtins) (configured : Bool) (run : StreamRun Id) (use : Use) :
    Took builtins configured run (use.effect builtins run.stream.client run.generators)
        (run.step builtins configured use) ∧
      (run.step builtins configured use).generators =
        use.advance builtins run.stream.client run.generators := by
  have closing := record_rest configured none false run
  cases use with
  | next generator answer =>
      have took := iterate_took builtins configured run answer
      have kept := iterate_generators builtins configured run answer
      rw [step, Use.effect, Use.advance]
      by_cases finished : run.generators generator = .finished
      · simp only [finished, if_true]
        exact ⟨Took.idle run, trivial⟩
      · have advanced : ((run.iterate builtins configured answer).1.setGenerator generator
            (run.iterate builtins configured answer).2).generators =
              Function.update run.generators generator
                (if (answer.effect builtins run.stream.client).records then .finished
                  else .paused) := by
          rw [StreamRun.setGenerator, took.2, kept]
        rw [if_neg finished, if_neg finished]
        cases state : run.generators generator with
        | finished => exact absurd state finished
        | unstarted => exact ⟨took.1.setGenerator _ _, advanced⟩
        | paused => exact ⟨took.1.setGenerator _ _, advanced⟩
  | finalize generator =>
      rw [step, Use.effect, Use.advance]
      cases state : run.generators generator with
      | finished => exact ⟨(Took.idle run).setGenerator _ _, rfl⟩
      | unstarted => exact ⟨(Took.idle run).setGenerator _ _, rfl⟩
      | paused =>
          have took : Took builtins configured run .closes (run.record configured none false) :=
            took_record none rfl rfl rfl (List.append_nil _).symm (List.append_nil _).symm
              (Bool.or_false _).symm
          refine ⟨took.setGenerator _ _, ?_⟩
          rw [StreamRun.setGenerator, closing.2.2.2]
  | aclose foreign =>
      cases foreign with
      | some exception => exact ⟨Took.idle run, rfl⟩
      | none =>
          exact ⟨took_record none rfl rfl rfl (List.append_nil _).symm (List.append_nil _).symm
            (Bool.or_false _).symm, closing.2.2.2⟩

/-! ### Whole sequences -/

/-- What the span of a sequence says, given the parts that were kept before. -/
def firstTold (builtins : Builtins) (configured : Bool) (client : Client) :
    List PyValue → List Effect → List (String × Bool)
  | _, [] => []
  | parts, effect :: rest =>
      let read := parts ++ effect.deltas builtins client
      if effect.records then wouldTell configured read effect.isExhausts
      else firstTold builtins configured client read rest

/-- Induction on the uses: what a sequence leaves is said by its effects. -/
theorem steps_took (builtins : Builtins) (configured : Bool) (uses : List Use)
    (run : StreamRun Id) :
    let did := effects builtins run.stream.client run.generators uses
    let after := run.steps builtins configured uses
    after.stream.client = run.stream.client ∧
      after.delivered = run.delivered ++ did.flatMap Effect.delivered ∧
      after.exhausted = (run.exhausted || did.any Effect.isExhausts) ∧
      told after.recorded = told run.recorded ++
        if run.stream.recorded then []
        else firstTold builtins configured run.stream.client run.capture.parts did := by
  induction uses generalizing run with
  | nil =>
      exact ⟨rfl, (List.append_nil _).symm, (Bool.or_false _).symm,
        by simp [effects, firstTold, steps]⟩
  | cons use uses inductionHypothesis =>
      obtain ⟨took, advanced⟩ := step_took builtins configured run use
      obtain ⟨client, delivered, exhausted, tells⟩ :=
        inductionHypothesis (run.step builtins configured use)
      rw [took.client, advanced] at delivered exhausted tells
      refine ⟨client.trans took.client, ?_, ?_, ?_⟩
      · rw [effects, List.flatMap_cons, ← List.append_assoc, ← took.delivered]
        exact delivered
      · rw [effects, List.any_cons, ← Bool.or_assoc, ← took.exhausted]
        exact exhausted
      · rw [took.flag, took.told, took.parts] at tells
        refine tells.trans ?_
        rw [effects, firstTold]
        cases before : run.stream.recorded with
        | true => simp
        | false =>
            cases records : (use.effect builtins run.stream.client run.generators).records with
            | true => simp
            | false => simp

end StreamRun

/-! ### The sequences that are recorded as they went -/

section Recorded

variable (builtins : Builtins) (client : Client)

/-- The uses up to the one that records, that one, and the uses after it. -/
structure EndsAt (before : List Effect) (last : Effect) (after : List Effect) : Prop where
  unrecorded : ∀ effect ∈ before, effect.records = false
  records : last.records = true
  /-- An OpenAI stream can join what it read. -/
  readsText : client = .openai → ∀ effect ∈ before ++ [last], effect.ReadsText builtins client
  /-- The text that is read last, but not delivered, is what is delivered later: none. -/
  lastText : last.text builtins client =
    String.join (after.map (Effect.deliveredText builtins client))
  /-- The stream does not come to its end only afterwards. -/
  exhausted : ∀ effect ∈ after, effect.isExhausts = true → last.isExhausts = true

variable {builtins client}

/-- Every sequence records nowhere, or has a first use that records. -/
theorem records_cases (did : List Effect) :
    (∀ effect ∈ did, effect.records = false) ∨
      ∃ before last after, did = before ++ last :: after ∧
        (∀ effect ∈ before, effect.records = false) ∧ last.records = true := by
  cases found : did.find? Effect.records with
  | none =>
      left
      intro effect member
      simpa using List.find?_eq_none.mp found effect member
  | some last =>
      obtain ⟨records, before, after, split, earlier⟩ :=
        List.find?_eq_some_iff_append.mp found
      exact Or.inr ⟨before, last, after, split, fun effect member => by
        simpa using earlier effect member, records⟩

theorem firstTold_unrecorded {configured : Bool} (did : List Effect) (parts : List PyValue)
    (unrecorded : ∀ effect ∈ did, effect.records = false) :
    StreamRun.firstTold builtins configured client parts did = [] := by
  induction did generalizing parts with
  | nil => rfl
  | cons effect rest inductionHypothesis =>
      rw [List.forall_mem_cons] at unrecorded
      rw [StreamRun.firstTold]
      simp only [unrecorded.1, Bool.false_eq_true, if_false]
      exact inductionHypothesis _ unrecorded.2

theorem firstTold_split {configured : Bool} {before after : List Effect} {last : Effect}
    (unrecorded : ∀ effect ∈ before, effect.records = false) (records : last.records = true)
    (parts : List PyValue) :
    StreamRun.firstTold builtins configured client parts (before ++ last :: after) =
      StreamRun.wouldTell configured
        (parts ++ (before ++ [last]).flatMap (Effect.deltas builtins client))
        last.isExhausts := by
  induction before generalizing parts with
  | nil => simp [StreamRun.firstTold, records]
  | cons effect rest inductionHypothesis =>
      rw [List.forall_mem_cons] at unrecorded
      rw [List.cons_append, StreamRun.firstTold]
      simp only [unrecorded.1, Bool.false_eq_true, if_false]
      rw [inductionHypothesis unrecorded.2]
      simp

/-- What is joined is the text of what was read. -/
theorem join_text (did : List Effect) :
    String.join ((did.flatMap (Effect.deltas builtins client)).filterMap PyValue.text?) =
      String.join (did.map (Effect.text builtins client)) := by
  induction did with
  | nil => rfl
  | cons effect rest inductionHypothesis =>
      have here : String.join ((effect.deltas builtins client).filterMap PyValue.text?) =
          effect.text builtins client := by
        rw [Effect.deltas, Effect.text]
        induction effect.chunks with
        | nil => rfl
        | cons chunk chunks own =>
            rw [List.flatMap_cons, List.filterMap_append, String.join_append, own,
              List.map_cons, String.join_cons]
            rfl
      rw [List.flatMap_cons, List.filterMap_append, String.join_append, here,
        inductionHypothesis, List.map_cons, String.join_cons]

theorem join_deliveredText (did : List Effect) :
    String.join ((did.flatMap Effect.delivered).map (client.textDelta builtins)) =
      String.join (did.map (Effect.deliveredText builtins client)) := by
  induction did with
  | nil => rfl
  | cons effect rest inductionHypothesis =>
      rw [List.flatMap_cons, List.map_append, String.join_append, inductionHypothesis,
        List.map_cons, String.join_cons]
      rfl

/-- Where nothing records, what is read is delivered. -/
theorem deliveredText_of_unrecorded {effect : Effect} (unrecorded : effect.records = false) :
    effect.deliveredText builtins client = effect.text builtins client := by
  cases effect with
  | idle => rfl
  | delivers chunk => rfl
  | _ => cases unrecorded

theorem deliveredText_of_records {effect : Effect} (records : effect.records = true) :
    effect.deliveredText builtins client = "" := by
  cases effect with
  | idle => cases records
  | delivers chunk => cases records
  | _ => rfl

/-- A span is told where a tracer is configured and all that was read is text. -/
theorem wouldTell_eq {configured completed : Bool} {did : List Effect} {verdict : String × Bool} :
    StreamRun.wouldTell configured (did.flatMap (Effect.deltas builtins client)) completed =
        [verdict] ↔
      configured = true ∧ (∀ effect ∈ did, effect.ReadsText builtins client) ∧
        verdict = (String.join (did.map (Effect.text builtins client)), completed) := by
  have all : (did.flatMap (Effect.deltas builtins client)).all (·.text?.isSome) = true ↔
      ∀ effect ∈ did, effect.ReadsText builtins client := by
    simp only [List.all_eq_true, List.mem_flatMap, Effect.ReadsText]
    grind
  rw [StreamRun.wouldTell, joinTexts, ← join_text, ← all]
  generalize did.flatMap (Effect.deltas builtins client) = parts
  cases configured with
  | false => simp
  | true =>
      by_cases texts : parts.all (·.text?.isSome) = true
      · rw [if_pos rfl, if_pos texts, Option.map_some, Option.toList_some, List.singleton_inj]
        simp only [texts, true_and]
        exact eq_comm
      · rw [if_pos rfl, if_neg texts]
        simp [texts]

theorem recordedOnce_told (builtins : Builtins) (run : StreamRun Id) :
    run.RecordedOnce builtins ↔ ∃ verdict, StreamRun.told run.recorded = [verdict] ∧
      verdict.1 = String.join (run.delivered.map (run.stream.client.textDelta builtins)) ∧
      (verdict.2 = true ↔ run.exhausted = true) := by
  constructor
  · rintro ⟨span, only, output, complete⟩
    exact ⟨_, by rw [only]; rfl, output, complete⟩
  · rintro ⟨verdict, only, output, complete⟩
    obtain ⟨span, single, rfl⟩ := List.map_eq_singleton_iff.mp only
    exact ⟨span, single, output, complete⟩

/-- What is recorded of a whole sequence, by its effects. -/
theorem recordedOnce_steps {configured : Bool} {traceId spanId : Id} {parentSpanId : Option Id}
    (uses : List Use) {did : List Effect}
    (are : effects builtins client (fun _ => .unstarted) uses = did) :
    ((StreamRun.start client traceId spanId parentSpanId).steps builtins configured
        uses).RecordedOnce builtins ↔
      ∃ verdict, StreamRun.firstTold builtins configured client [] did = [verdict] ∧
        verdict.1 = String.join (did.map (Effect.deliveredText builtins client)) ∧
        (verdict.2 = true ↔ did.any Effect.isExhausts = true) := by
  have took := StreamRun.steps_took builtins configured uses
    (StreamRun.start client traceId spanId parentSpanId)
  simp only [StreamRun.start, are] at took
  obtain ⟨sameClient, delivered, exhausted, tells⟩ := took
  rw [recordedOnce_told, StreamRun.start, tells, delivered, exhausted, sameClient]
  simp only [StreamRun.told, List.map_nil, List.nil_append, Bool.false_eq_true, if_false,
    Bool.false_or, join_deliveredText]
  rfl

/-- Exactly one span is recorded, with the text that was delivered and the right completeness,
exactly if a tracer is configured and the uses end the stream at one point. -/
theorem recordedOnce_iff (builtins : Builtins) (configured : Bool) (client : Client)
    (traceId spanId : Id) (parentSpanId : Option Id) (uses : List Use) :
    ((StreamRun.start client traceId spanId parentSpanId).steps builtins configured
        uses).RecordedOnce builtins ↔
      configured = true ∧ ∃ before last after,
        effects builtins client (fun _ => .unstarted) uses = before ++ last :: after ∧
          EndsAt builtins client before last after := by
  rw [recordedOnce_steps uses rfl]
  generalize effects builtins client (fun _ => .unstarted) uses = did
  -- The text and the completeness, where the sequence is split at its first recording use.
  have told {before after : List Effect} {last : Effect}
      (unrecorded : ∀ effect ∈ before, effect.records = false) (records : last.records = true) :
      String.join ((before ++ last :: after).map (Effect.deliveredText builtins client)) =
          String.join (before.map (Effect.text builtins client)) ++
            String.join (after.map (Effect.deliveredText builtins client)) ∧
        (before ++ last :: after).any Effect.isExhausts =
          (last.isExhausts || after.any Effect.isExhausts) := by
    constructor
    · have same : before.map (Effect.deliveredText builtins client) =
          before.map (Effect.text builtins client) :=
        List.map_congr_left fun effect member =>
          deliveredText_of_unrecorded (unrecorded effect member)
      rw [List.map_append, String.join_append, same, List.map_cons, String.join_cons,
        deliveredText_of_records records, String.empty_append]
    · have none' : before.any Effect.isExhausts = false := by
        rw [List.any_eq_false]
        intro effect member exhausts
        have open' := unrecorded effect member
        cases effect with
        | exhausts => cases open'
        | _ => cases exhausts
      rw [List.any_append, List.any_cons, none', Bool.false_or]
  constructor
  · rintro ⟨verdict, only, output, complete⟩
    rcases records_cases did with nowhere | ⟨before, last, after, rfl, unrecorded, records⟩
    · rw [firstTold_unrecorded did [] nowhere] at only
      cases only
    · rw [firstTold_split unrecorded records, List.nil_append, wouldTell_eq] at only
      obtain ⟨here, reads, rfl⟩ := only
      obtain ⟨text, exhausts⟩ := told unrecorded records
      rw [text, List.map_append, String.join_append, String.append_right_inj] at output
      rw [exhausts] at complete
      refine ⟨here, before, last, after, rfl, unrecorded, records, fun _ => reads, ?_, ?_⟩
      · simpa using output
      · simpa using complete
  · rintro ⟨here, before, last, after, rfl, ends⟩
    obtain ⟨text, exhausts⟩ := told ends.unrecorded ends.records
    have reads : ∀ effect ∈ before ++ [last], effect.ReadsText builtins client := by
      cases client with
      | openai => exact ends.readsText rfl
      | anthropic =>
          intro effect _ delta member
          obtain ⟨chunk, _, inside⟩ := List.mem_flatMap.mp member
          exact Client.text_of_anthropic builtins chunk delta inside
    refine ⟨(String.join ((before ++ [last]).map (Effect.text builtins client)),
      last.isExhausts), ?_, ?_, ?_⟩
    · rw [firstTold_split ends.unrecorded ends.records, List.nil_append, wouldTell_eq]
      exact ⟨here, reads, rfl⟩
    · rw [text, List.map_append, String.join_append, ← ends.lastText]
      simp
    · rw [exhausts]
      have exhausted := ends.exhausted
      simp only [Bool.or_eq_true, List.any_eq_true]
      grind

/-- `str`, `int` and `value[0]` on numbers and texts only. -/
def plainBuiltins : Builtins where
  shown _ := ""
  parsed _ := .error ⟨true, true, "int() argument must be a number", "TypeError", by decide⟩
  notSubscriptable _ := ⟨true, true, "object is not subscriptable", "TypeError", by decide⟩

/-- A stream that is closed before anything is read of it, where the foreign `aclose` raises, is
never recorded. -/
theorem unread_notRecorded :
    ¬ ((StreamRun.start .openai 0 1 none).steps plainBuiltins true
      [.aclose (some ⟨true, true, "connection lost", "ConnectionError", by decide⟩)]).RecordedOnce
      plainBuiltins := by
  rintro ⟨span, only, _⟩
  cases only

end Recorded

end LlmObs.Sdk
