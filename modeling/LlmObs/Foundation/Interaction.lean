import Mathlib.Init

/-!
Owns programs that receive and send messages one at a time: a step of a run against a
source of inputs that may refuse, the runs of any length, and when two sources give one
run.
-/

namespace LlmObs.Foundation

universe u v

namespace Interaction

/-- What a program does next. A refused input is an exception that the program sees. -/
inductive Action (State : Type u) (Input Refusal Output Error : Type v) where
  | finish
  | raise (error : Error)
  | send (output : Output) (next : State)
  | receive (next : Except Refusal Input → State)

/-- A program by its states. It need not end. -/
structure Program (Input Refusal Output Error : Type v) where
  State : Type u
  action : State → Action State Input Refusal Output Error

/-- What is received in a state of the source, and the source afterwards. -/
abbrev Source (σ : Type u) (Input Refusal : Type v) := σ → Except Refusal Input × σ

inductive Phase (State : Type u) (Error : Type v) where
  | running (state : State)
  | finished
  | raised (error : Error)

def Phase.isEnded {State : Type u} {Error : Type v} : Phase State Error → Bool
  | .running _ => false
  | _ => true

structure Run (State : Type u) (σ Input Output Error : Type v) where
  phase : Phase State Error
  source : σ
  /-- The inputs that the program has got, the first one first. -/
  received : List Input
  sent : List Output

variable {Input Refusal Output Error σ τ : Type v}
  (program : Program.{u} Input Refusal Output Error)

/-- One action of the program. A run that has ended stays as it is. -/
def step (source : Source σ Input Refusal) (run : Run program.State σ Input Output Error) :
    Run program.State σ Input Output Error :=
  match run.phase with
  | .finished | .raised _ => run
  | .running state =>
      match program.action state with
      | .finish => { run with phase := .finished }
      | .raise error => { run with phase := .raised error }
      | .send output next => { run with phase := .running next, sent := run.sent ++ [output] }
      | .receive next =>
          let answered := source run.source
          { run with
            phase := .running (next answered.1)
            source := answered.2
            received := run.received ++ answered.1.toOption.toList }

/-- The run after `count` more actions. -/
def after (source : Source σ Input Refusal) :
    (count : Nat) → Run program.State σ Input Output Error →
      Run program.State σ Input Output Error
  | 0, run => run
  | count + 1, run => step program source (after source count run)

variable {program} {source : Source σ Input Refusal}
  {run : Run program.State σ Input Output Error}

theorem after_add (first second : Nat) :
    after program source (first + second) run =
      after program source second (after program source first run) := by
  induction second with
  | zero => rfl
  | succ second inductionHypothesis =>
      show step program source (after program source (first + second) run) = _
      rw [inductionHypothesis]
      rfl

theorem step_of_ended (ended : run.phase.isEnded) : step program source run = run := by
  unfold step
  cases phase : run.phase with
  | running state =>
      rw [phase] at ended
      cases ended
  | finished => rfl
  | raised error => rfl

theorem after_of_ended (ended : run.phase.isEnded) (count : Nat) :
    after program source count run = run := by
  induction count with
  | zero => rfl
  | succ count inductionHypothesis =>
      show step program source (after program source count run) = run
      rw [inductionHypothesis, step_of_ended ended]

/-- What every answer of the source keeps holds in every run. -/
theorem after_invariant (holds : σ → List Input → Prop)
    (kept : ∀ state received, holds state received →
      holds (source state).2 (received ++ (source state).1.toOption.toList))
    (initial : holds run.source run.received) (count : Nat) :
    holds (after program source count run).source (after program source count run).received := by
  induction count with
  | zero => exact initial
  | succ count inductionHypothesis =>
      show holds (step program source (after program source count run)).source
        (step program source (after program source count run)).received
      unfold step
      cases (after program source count run).phase with
      | finished => exact inductionHypothesis
      | raised error => exact inductionHypothesis
      | running state =>
          dsimp only
          cases program.action state with
          | finish => exact inductionHypothesis
          | raise error => exact inductionHypothesis
          | send output next => exact inductionHypothesis
          | receive next => exact kept _ _ inductionHypothesis

theorem step_receive {state : program.State} {next : Except Refusal Input → program.State}
    (running : run.phase = .running state) (receives : program.action state = .receive next) :
    step program source run = { run with
      phase := .running (next (source run.source).1)
      source := (source run.source).2
      received := run.received ++ (source run.source).1.toOption.toList } := by
  unfold step
  rw [running]
  dsimp only
  rw [receives]

theorem step_received_of_not_receive
    (quiet : ∀ state next, run.phase = .running state → program.action state ≠ .receive next) :
    (step program source run).received = run.received := by
  unfold step
  cases running : run.phase with
  | finished => rfl
  | raised error => rfl
  | running state =>
      dsimp only
      cases acts : program.action state with
      | receive next => exact absurd acts (quiet state next running)
      | finish | raise _ | send _ _ => rfl

/-- What has been received and what has been sent stays so. -/
theorem step_grows (source : Source σ Input Refusal)
    (run : Run program.State σ Input Output Error) :
    run.received <+: (step program source run).received ∧
      run.sent <+: (step program source run).sent := by
  have unchanged : run.received <+: run.received ∧ run.sent <+: run.sent :=
    ⟨List.prefix_refl _, List.prefix_refl _⟩
  unfold step
  cases run.phase with
  | finished => exact unchanged
  | raised error => exact unchanged
  | running state =>
      dsimp only
      cases program.action state with
      | finish => exact unchanged
      | raise error => exact unchanged
      | send output next => exact ⟨List.prefix_refl _, List.prefix_append _ _⟩
      | receive next => exact ⟨List.prefix_append _ _, List.prefix_refl _⟩

/-- Two runs of one program that differ in their sources only. How the sources are
related may depend on what has been received. -/
structure Related (related : List Input → σ → τ → Prop)
    (left : Run program.State σ Input Output Error)
    (right : Run program.State τ Input Output Error) : Prop where
  phase : left.phase = right.phase
  source : related left.received left.source right.source
  received : left.received = right.received
  sent : left.sent = right.sent

/-- The two sources give one answer, and stay related. -/
def AnswerAlike (related : List Input → σ → τ → Prop) (leftSource : Source σ Input Refusal)
    (rightSource : Source τ Input Refusal) (received : List Input) (left : σ) (right : τ) :
    Prop :=
  (leftSource left).1 = (rightSource right).1 ∧
    related (received ++ (leftSource left).1.toOption.toList) (leftSource left).2
      (rightSource right).2

variable {related : List Input → σ → τ → Prop} {leftSource : Source σ Input Refusal}
  {rightSource : Source τ Input Refusal} {left : Run program.State σ Input Output Error}
  {right : Run program.State τ Input Output Error}

/-- A step needs the sources to answer alike only where the program receives. -/
theorem step_related (same : Related related left right)
    (alike : ∀ state next, left.phase = .running state → program.action state = .receive next →
      AnswerAlike related leftSource rightSource left.received left.source right.source) :
    Related related (step program leftSource left) (step program rightSource right) := by
  obtain ⟨phase, source, received, sent⟩ := same
  cases running : left.phase with
  | finished =>
      rw [step_of_ended (by rw [running]; rfl), step_of_ended (by rw [← phase, running]; rfl)]
      exact ⟨phase, source, received, sent⟩
  | raised error =>
      rw [step_of_ended (by rw [running]; rfl), step_of_ended (by rw [← phase, running]; rfl)]
      exact ⟨phase, source, received, sent⟩
  | running state =>
      cases acts : program.action state with
      | receive next =>
          obtain ⟨answers, stays⟩ := alike state next running acts
          rw [step_receive running acts, step_receive (phase.symm.trans running) acts]
          refine ⟨?_, stays, ?_, sent⟩
          · dsimp only
            rw [answers]
          · dsimp only
            rw [answers, received]
      | finish | raise _ | send _ _ =>
          unfold step
          rw [← phase, running]
          dsimp only
          rw [acts]
          exact ⟨rfl, source, received, by simp [sent]⟩

theorem after_related (alike : ∀ received left right, related received left right →
      AnswerAlike related leftSource rightSource received left right)
    (same : Related related left right) (count : Nat) :
    Related related (after program leftSource count left)
      (after program rightSource count right) := by
  induction count with
  | zero => exact same
  | succ count inductionHypothesis =>
      exact step_related inductionHypothesis
        (fun _ _ _ _ => alike _ _ _ inductionHypothesis.source)

end Interaction

end LlmObs.Foundation
