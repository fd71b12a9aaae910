import Mathlib.Tactic.ByContra

/-!
Owns loops whose body says after each round whether it goes on. A loop is run
with fuel; a measure that every further round decreases bounds the fuel that it
needs, and an invariant of the rounds leads to what holds of its result. Of the
states at which rounds begin one ends the loop.

Nothing here names a concrete program.
-/

namespace LlmObs.Foundation

universe u v

/-- How a round of a loop ends. -/
inductive Round (State : Type u) (Result : Type v) where
  | again (next : State)
  | done (result : Result)

namespace Round

variable {State : Type u} {Result : Type v} (body : State → Round State Result)

/-- At most `fuel` rounds; `none` when they do not end the loop. -/
def loop : Nat → State → Option Result
  | 0, _ => none
  | fuel + 1, state =>
      match body state with
      | .again next => loop fuel next
      | .done result => some result

variable {body}

/-- When further rounds keep an invariant and decrease a measure, a loop ends within
as many rounds as the measure allows, further fuel does not change its result, and
the result is what the last round makes of the invariant. -/
theorem loop_total (measure : State → Nat) (invariant : State → Prop) {post : Result → Prop}
    (further : ∀ state next, invariant state → body state = .again next →
      invariant next ∧ measure next < measure state)
    (last : ∀ state result, invariant state → body state = .done result → post result)
    {state : State} (initial : invariant state) :
    ∃ result, (∀ fuel, measure state < fuel → loop body fuel state = some result) ∧
      post result := by
  induction size : measure state using Nat.strongRecOn generalizing state with
  | ind size inductionHypothesis =>
      -- A round needs one unit of fuel, which `size < fuel` provides.
      cases ended : body state with
      | done result =>
          refine ⟨result, fun fuel enough => ?_, last state result initial ended⟩
          cases fuel with
          | zero => exact absurd enough (Nat.not_lt_zero _)
          | succ fuel => simp only [loop, ended]
      | again next =>
          obtain ⟨kept, smaller⟩ := further state next initial ended
          obtain ⟨result, runs, reached⟩ :=
            inductionHypothesis (measure next) (size ▸ smaller) kept rfl
          refine ⟨result, fun fuel enough => ?_, reached⟩
          cases fuel with
          | zero => exact absurd enough (Nat.not_lt_zero _)
          | succ fuel =>
              simp only [loop, ended]
              exact runs fuel (by omega)

/-! ### The states at which rounds begin -/

/-- A loop that starts in `initial` begins a round in this state. -/
inductive Reaches (body : State → Round State Result) (initial : State) : State → Prop where
  | start : Reaches body initial initial
  | again {state next : State} (reached : Reaches body initial state)
      (goesOn : body state = .again next) : Reaches body initial next

theorem Reaches.head {initial next state : State} (goesOn : body initial = .again next)
    (reached : Reaches body next state) : Reaches body initial state := by
  induction reached with
  | start => exact .again .start goesOn
  | again _ continues inductionHypothesis => exact .again inductionHypothesis continues

/-- What further rounds keep holds wherever a round begins. -/
theorem Reaches.invariant (kept : State → Prop) {initial state : State}
    (reached : Reaches body initial state) (begins : kept initial)
    (further : ∀ state next, kept state → body state = .again next → kept next) :
    kept state := by
  induction reached with
  | start => exact begins
  | again _ goesOn inductionHypothesis => exact further _ _ inductionHypothesis goesOn

/-- The result of a loop is that of its last round. -/
theorem exists_last {fuel : Nat} {initial : State} {result : Result}
    (runs : loop body fuel initial = some result) :
    ∃ last, Reaches body initial last ∧ body last = .done result := by
  induction fuel generalizing initial with
  | zero => cases runs
  | succ fuel inductionHypothesis =>
      rw [loop] at runs
      cases ended : body initial with
      | done other =>
          simp only [ended, Option.some.injEq] at runs
          exact ⟨initial, .start, ended.trans (congrArg _ runs)⟩
      | again next =>
          simp only [ended] at runs
          obtain ⟨last, reached, stops⟩ := inductionHypothesis runs
          exact ⟨last, reached.head ended, stops⟩

/-- A loop has its result from every state at which one of its rounds begins. -/
theorem Reaches.loop_eq {fuel : Nat} {initial state : State} {result : Result}
    (reached : Reaches body initial state) (runs : loop body fuel initial = some result) :
    ∃ rest, loop body rest state = some result := by
  induction reached with
  | start => exact ⟨fuel, runs⟩
  | again _ goesOn inductionHypothesis =>
      obtain ⟨rest, onward⟩ := inductionHypothesis
      cases rest with
      | zero => cases onward
      | succ rest =>
          simp only [loop, goesOn] at onward
          exact ⟨rest, onward⟩

/-- A round that ends the loop is its last one. -/
theorem Reaches.eq_result {fuel : Nat} {initial state : State} {result other : Result}
    (reached : Reaches body initial state) (runs : loop body fuel initial = some result)
    (stops : body state = .done other) : other = result := by
  obtain ⟨rest, onward⟩ := reached.loop_eq runs
  cases rest with
  | zero => cases onward
  | succ rest =>
      simp only [loop, stops, Option.some.injEq] at onward
      exact onward

/-- Where exactly the rounds that begin in a bad state end the loop badly, the result is
good if and only if no round begins in such a state. -/
theorem post_iff_forall_reaches {fuel : Nat} {initial : State} {result : Result}
    {good : State → Prop} (post : Result → Prop)
    (runs : loop body fuel initial = some result)
    (last : ∀ state result, good state → body state = .done result → post result)
    (bad : ∀ state, ¬ good state → ∃ result, body state = .done result ∧ ¬ post result) :
    post result ↔ ∀ state, Reaches body initial state → good state := by
  constructor
  · intro reachedGood state reached
    by_contra isBad
    obtain ⟨other, stops, refuted⟩ := bad state isBad
    exact refuted (reached.eq_result runs stops ▸ reachedGood)
  · intro allGood
    obtain ⟨state, reached, stops⟩ := exists_last runs
    exact last state result (allGood state reached) stops

end Round

end LlmObs.Foundation
