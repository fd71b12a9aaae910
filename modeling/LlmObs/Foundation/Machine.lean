import Mathlib.Init

/-!
Owns guarded executable machines: a step function that is `none` where an
action is not enabled, runs over action lists, conditions that every step of a
run meets, and the rules that carry an invariant through a run or find the
step that broke a condition.

Nothing here names a concrete system.
-/

namespace LlmObs.Foundation

universe u v

/-- A machine is its guarded step: `none` says that the action is not enabled. -/
structure Machine (State : Type u) (Action : Type v) where
  step : State → Action → Option State

namespace Machine

variable {State : Type u} {Action : Type v} (machine : Machine State Action)

/-- Replay a list of actions; `none` as soon as one of them is not enabled. -/
def run (state : State) : List Action → Option State
  | [] => some state
  | action :: rest => (machine.step state action).bind fun next => run next rest

/-- Every step of the run meets `condition` in the state it starts from. -/
def Along (condition : State → Action → Prop) (state : State) : List Action → Prop
  | [] => True
  | action :: rest =>
      condition state action ∧
        ∀ next, machine.step state action = some next → Along condition next rest

theorem run_cons {state final : State} {action : Action} {rest : List Action} :
    machine.run state (action :: rest) = some final ↔
      ∃ next, machine.step state action = some next ∧ machine.run next rest = some final := by
  simp [run, Option.bind_eq_some_iff]

theorem run_append {state final : State} {first second : List Action} :
    machine.run state (first ++ second) = some final ↔
      ∃ middle, machine.run state first = some middle ∧
        machine.run middle second = some final := by
  induction first generalizing state with
  | nil => simp [run]
  | cons action rest inductionHypothesis =>
      simp only [List.cons_append, run_cons, inductionHypothesis]
      constructor
      · rintro ⟨next, stepped, middle, first, second⟩
        exact ⟨middle, ⟨next, stepped, first⟩, second⟩
      · rintro ⟨middle, ⟨next, stepped, first⟩, second⟩
        exact ⟨next, stepped, middle, first, second⟩

theorem along_cons {condition : State → Action → Prop} {state : State} {action : Action}
    {rest : List Action} : machine.Along condition state (action :: rest) ↔
      condition state action ∧
        match machine.step state action with
        | some next => machine.Along condition next rest
        | none => True := by
  cases stepped : machine.step state action with
  | none => simp [Along, stepped]
  | some next => simp [Along, stepped]

instance decidableAlong {condition : State → Action → Prop}
    [∀ state action, Decidable (condition state action)] :
    (state : State) → (actions : List Action) → Decidable (machine.Along condition state actions)
  | _, [] => isTrue trivial
  | state, action :: rest =>
      have : Decidable (match machine.step state action with
          | some next => machine.Along condition next rest
          | none => True) :=
        match machine.step state action with
        | some next => decidableAlong next rest
        | none => isTrue trivial
      decidable_of_iff _ machine.along_cons.symm

theorem along_append {condition : State → Action → Prop} {state middle : State}
    {first second : List Action} (reached : machine.run state first = some middle) :
    machine.Along condition state (first ++ second) ↔
      machine.Along condition state first ∧ machine.Along condition middle second := by
  induction first generalizing state with
  | nil =>
      simp only [run, Option.some.injEq] at reached
      simp [Along, reached]
  | cons action rest inductionHypothesis =>
      obtain ⟨next, stepped, remaining⟩ := (machine.run_cons).mp reached
      simp only [List.cons_append, Along, stepped, Option.some.injEq, forall_eq',
        inductionHypothesis remaining, and_assoc]

/-- A run meets a condition that its actions meet in every state. -/
theorem along_of_forall {condition : State → Action → Prop} {actions : List Action}
    (meets : ∀ action ∈ actions, ∀ state, condition state action) (state : State) :
    machine.Along condition state actions := by
  induction actions generalizing state with
  | nil => trivial
  | cons action rest inductionHypothesis =>
      refine ⟨meets action (List.mem_cons_self ..) state, fun next _ => ?_⟩
      exact inductionHypothesis (fun other member => meets other (List.mem_cons_of_mem _ member))
        next

theorem Along.and {machine : Machine State Action} {first second : State → Action → Prop}
    {state : State} {actions : List Action} (firstAlong : machine.Along first state actions)
    (secondAlong : machine.Along second state actions) :
    machine.Along (fun state action => first state action ∧ second state action) state
      actions := by
  induction actions generalizing state with
  | nil => trivial
  | cons action rest inductionHypothesis =>
      exact ⟨⟨firstAlong.1, secondAlong.1⟩, fun next stepped =>
        inductionHypothesis (firstAlong.2 next stepped) (secondAlong.2 next stepped)⟩

/-- Under an invariant that a step keeps which meets the condition, a condition that
implies another one step by step implies it along a run. -/
theorem Along.mono_of_invariant {machine : Machine State Action} {invariant : State → Prop}
    {first second : State → Action → Prop}
    (preserved : ∀ state action next, invariant state → first state action →
      machine.step state action = some next → invariant next)
    (implies : ∀ state action, invariant state → first state action → second state action)
    {state : State} {actions : List Action} (initial : invariant state)
    (along : machine.Along first state actions) : machine.Along second state actions := by
  induction actions generalizing state with
  | nil => trivial
  | cons action rest inductionHypothesis =>
      refine ⟨implies state action initial along.1, fun next stepped => ?_⟩
      exact inductionHypothesis (preserved state action next initial along.1 stepped)
        (along.2 next stepped)

/-- The same under an invariant that every step keeps. -/
theorem Along.mono {machine : Machine State Action} {invariant : State → Prop}
    {first second : State → Action → Prop}
    (preserved : ∀ state action next, invariant state →
      machine.step state action = some next → invariant next)
    (implies : ∀ state action, invariant state → first state action → second state action)
    {state : State} {actions : List Action} (initial : invariant state)
    (along : machine.Along first state actions) : machine.Along second state actions :=
  along.mono_of_invariant
    (fun state action next before _ stepped => preserved state action next before stepped)
    implies initial

/-- A step that meets the condition keeps the invariant, so a run whose steps
all meet it keeps the invariant. -/
theorem run_invariant (invariant : State → Prop) {condition : State → Action → Prop}
    (preserved : ∀ state action next, invariant state → condition state action →
      machine.step state action = some next → invariant next)
    {state final : State} {actions : List Action}
    (initial : invariant state) (along : machine.Along condition state actions)
    (reached : machine.run state actions = some final) : invariant final := by
  induction actions generalizing state with
  | nil =>
      simp only [run, Option.some.injEq] at reached
      exact reached ▸ initial
  | cons action rest inductionHypothesis =>
      obtain ⟨next, stepped, remaining⟩ := (machine.run_cons).mp reached
      exact inductionHypothesis (preserved state action next initial along.1 stepped)
        (along.2 next stepped) remaining

/-- An invariant that every step keeps holds in every state a run reaches. -/
theorem run_invariant_always {invariant : State → Prop}
    (preserved : ∀ state action next, invariant state →
      machine.step state action = some next → invariant next)
    {state final : State} {actions : List Action} (initial : invariant state)
    (reached : machine.run state actions = some final) : invariant final := by
  induction actions generalizing state with
  | nil =>
      simp only [run, Option.some.injEq] at reached
      exact reached ▸ initial
  | cons action rest inductionHypothesis =>
      obtain ⟨next, stepped, remaining⟩ := (machine.run_cons).mp reached
      exact inductionHypothesis (preserved state action next initial stepped) remaining

/-- What holds of the empty run, and of a run with one more step where it held of the run
before, holds of every run. -/
theorem run_induction {state : State} {holds : List Action → State → Prop}
    (initial : holds [] state)
    (stepped : ∀ actions middle action next, machine.run state actions = some middle →
      holds actions middle → machine.step middle action = some next →
        holds (actions ++ [action]) next)
    {actions : List Action} {final : State} (reached : machine.run state actions = some final) :
    holds actions final := by
  -- Induction on the actions that are left, behind those that are done.
  have general : ∀ (rest done : List Action) (middle : State),
      machine.run state done = some middle → holds done middle →
        machine.run middle rest = some final → holds (done ++ rest) final := by
    intro rest
    induction rest with
    | nil =>
        intro done middle _ before ended
        simp only [run, Option.some.injEq] at ended
        rw [List.append_nil]
        exact ended ▸ before
    | cons action rest inductionHypothesis =>
        intro done middle ran before onward
        obtain ⟨next, step, remaining⟩ := machine.run_cons.mp onward
        have longer : machine.run state (done ++ [action]) = some next :=
          machine.run_append.mpr ⟨middle, ran, machine.run_cons.mpr ⟨next, step, rfl⟩⟩
        have after := inductionHypothesis (done ++ [action]) next longer
          (stepped done middle action next ran before step) remaining
        rwa [List.append_assoc, List.singleton_append] at after
  exact general actions [] state rfl initial reached

/-- The run passes through a state with the property, at its start or its end too. -/
def Passes (property : State → Prop) (state : State) (actions : List Action) : Prop :=
  ∃ before after reached, before ++ after = actions ∧ machine.run state before = some reached ∧
    property reached

theorem passes_of_reached {property : State → Prop} {state final : State} {actions : List Action}
    (reached : machine.run state actions = some final) (holds : property final) :
    machine.Passes property state actions :=
  ⟨actions, [], final, List.append_nil actions, reached, holds⟩

theorem Passes.append {machine : Machine State Action} {property : State → Prop} {state : State}
    {actions : List Action} (passes : machine.Passes property state actions)
    (later : List Action) : machine.Passes property state (actions ++ later) := by
  obtain ⟨before, after, reached, rfl, ran, holds⟩ := passes
  exact ⟨before, after ++ later, reached, (List.append_assoc ..).symm, ran, holds⟩

/-- What a run records: each step updates the record in the state it starts from. -/
def recordAlong {Record : Type u} (update : State → Action → Record → Record) (state : State)
    (record : Record) : List Action → Record
  | [] => record
  | action :: rest =>
      match machine.step state action with
      | some next => recordAlong update next (update state action record) rest
      | none => record

/-- An invariant of states and records that every step keeps holds of a run and what it
records. -/
theorem recordAlong_invariant {Record : Type u} {update : State → Action → Record → Record}
    {invariant : State → Record → Prop}
    (preserved : ∀ state action next record, invariant state record →
      machine.step state action = some next → invariant next (update state action record))
    {state final : State} {record : Record} {actions : List Action}
    (initial : invariant state record) (reached : machine.run state actions = some final) :
    invariant final (machine.recordAlong update state record actions) := by
  induction actions generalizing state record with
  | nil =>
      simp only [run, Option.some.injEq] at reached
      exact reached ▸ initial
  | cons action rest inductionHypothesis =>
      obtain ⟨next, stepped, remaining⟩ := (machine.run_cons).mp reached
      simp only [recordAlong, stepped]
      exact inductionHypothesis (preserved state action next record initial stepped) remaining

/-- A run whose steps do not all meet a condition has a first part that ends in
a step which breaks it. -/
theorem exists_breach_of_not_along {condition : State → Action → Prop}
    {state final : State} {actions : List Action}
    (reached : machine.run state actions = some final)
    (broken : ¬ machine.Along condition state actions) :
    ∃ before action after middle next, actions = before ++ action :: after ∧
      machine.run state before = some middle ∧ ¬ condition middle action ∧
      machine.step middle action = some next ∧ machine.run next after = some final := by
  induction actions generalizing state with
  | nil => exact absurd trivial broken
  | cons action rest inductionHypothesis =>
      obtain ⟨next, stepped, remaining⟩ := (machine.run_cons).mp reached
      by_cases meets : condition state action
      · have restBroken : ¬ machine.Along condition next rest := by
          intro restAlong
          refine broken ⟨meets, fun other otherStepped => ?_⟩
          rw [stepped, Option.some.injEq] at otherStepped
          exact otherStepped ▸ restAlong
        obtain ⟨before, breach, after, middle, next', split, ran, breaks, breachStep, onward⟩ :=
          inductionHypothesis remaining restBroken
        exact ⟨action :: before, breach, after, middle, next', by simp [split],
          (machine.run_cons).mpr ⟨next, stepped, ran⟩, breaks, breachStep, onward⟩
      · exact ⟨[], action, rest, state, next, rfl, rfl, meets, stepped, remaining⟩

/-- The invariant holds in every state that the run passes through. -/
def Always (invariant : State → Prop) (state : State) (actions : List Action) : Prop :=
  ∀ before after reached, before ++ after = actions →
    machine.run state before = some reached → invariant reached

theorem always_nil {invariant : State → Prop} {state : State} :
    machine.Always invariant state [] ↔ invariant state := by
  constructor
  · intro always
    exact always [] [] state rfl rfl
  · intro holds before after reached split ran
    rw [(List.append_eq_nil_iff.mp split).1, run, Option.some.injEq] at ran
    exact ran ▸ holds

theorem always_cons {invariant : State → Prop} {state next : State} {action : Action}
    {rest : List Action} (stepped : machine.step state action = some next) :
    machine.Always invariant state (action :: rest) ↔
      invariant state ∧ machine.Always invariant next rest := by
  constructor
  · intro always
    refine ⟨always [] (action :: rest) state rfl rfl, ?_⟩
    intro before after reached split ran
    apply always (action :: before) after reached
    · rw [List.cons_append, split]
    · exact (machine.run_cons).mpr ⟨next, stepped, ran⟩
  · intro ⟨holds, always⟩ before after reached split ran
    cases before with
    | nil =>
        rw [run, Option.some.injEq] at ran
        exact ran ▸ holds
    | cons first before =>
        rw [List.cons_append, List.cons.injEq] at split
        obtain ⟨rfl, split⟩ := split
        obtain ⟨other, otherStepped, remaining⟩ := (machine.run_cons).mp ran
        rw [stepped, Option.some.injEq] at otherStepped
        exact always before after reached split (otherStepped ▸ remaining)

/-- When a step from a state with the invariant keeps it exactly if it meets the
condition, a run keeps the invariant throughout exactly if all its steps do. -/
theorem always_iff_along {invariant : State → Prop} {condition : State → Action → Prop}
    (exact : ∀ state action, invariant state →
      ∃ next, machine.step state action = some next ∧ (invariant next ↔ condition state action))
    {state : State} (initial : invariant state) (actions : List Action) :
    machine.Always invariant state actions ↔ machine.Along condition state actions := by
  induction actions generalizing state with
  | nil => simp [always_nil, Along, initial]
  | cons action rest inductionHypothesis =>
      obtain ⟨next, stepped, keeps⟩ := exact state action initial
      rw [machine.always_cons stepped, machine.along_cons, stepped]
      constructor
      · intro ⟨_, always⟩
        have kept : invariant next := always [] rest next rfl rfl
        exact ⟨keeps.mp kept, (inductionHypothesis kept).mp always⟩
      · intro ⟨meets, along⟩
        exact ⟨initial, (inductionHypothesis (keeps.mpr meets)).mpr along⟩

end Machine

end LlmObs.Foundation
