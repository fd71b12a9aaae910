import Mathlib.Data.List.Forall2

/-!
Owns the laws of computations that can fail, one step at a time: a sequence
returns when each part does, and fails with its first failure.
-/

namespace LlmObs.Foundation

variable {ε α β : Type}

/-- A sequence returns exactly when both of its parts do. -/
theorem bind_eq_ok {first : Except ε α} {rest : α → Except ε β} {result : β} :
    (first >>= rest) = .ok result ↔ ∃ value, first = .ok value ∧ rest value = .ok result := by
  cases first with
  | error failure => simp [bind, Except.bind]
  | ok value => simp [bind, Except.bind]

theorem map_eq_ok {outcome : Except ε α} {change : α → β} {result : β} :
    outcome.map change = .ok result ↔ ∃ value, outcome = .ok value ∧ change value = result := by
  cases outcome with
  | error failure => simp [Except.map]
  | ok value => simp [Except.map]

theorem map_isOk_iff {outcome : Except ε α} {change : α → β} :
    (∃ result, outcome.map change = .ok result) ↔ ∃ value, outcome = .ok value := by
  simp only [map_eq_ok]
  constructor
  · rintro ⟨_, value, returned, _⟩
    exact ⟨value, returned⟩
  · rintro ⟨value, returned⟩
    exact ⟨_, value, returned, rfl⟩

/-- Two values are put together exactly when both are returned. -/
theorem pair_isOk_iff {γ : Type} {first : Except ε α} {second : Except ε β} {join : α → β → γ} :
    (∃ result, (do
        let left ← first
        let right ← second
        return join left right) = .ok result) ↔
      (∃ left, first = .ok left) ∧ ∃ right, second = .ok right := by
  simp only [bind_eq_ok]
  constructor
  · rintro ⟨_, left, firstDone, right, secondDone, _⟩
    exact ⟨⟨left, firstDone⟩, right, secondDone⟩
  · rintro ⟨⟨left, firstDone⟩, right, secondDone⟩
    exact ⟨_, left, firstDone, right, secondDone, rfl⟩

theorem ok_bind (value : α) (rest : α → Except ε β) :
    ((.ok value : Except ε α) >>= rest) = rest value := rfl

theorem toOption_eq_some {outcome : Except ε α} {value : α} :
    outcome.toOption = some value ↔ outcome = .ok value := by
  cases outcome with
  | error failure => simp [Except.toOption]
  | ok returned => simp [Except.toOption]

theorem mapM_eq_ok_iff {compute : α → Except ε β} {items : List α} {results : List β} :
    items.mapM compute = .ok results ↔
      List.Forall₂ (fun item result => compute item = .ok result) items results := by
  induction items generalizing results with
  | nil =>
      rw [List.mapM_nil, List.forall₂_nil_left_iff]
      exact ⟨fun same => (Except.ok.inj same).symm, fun empty => congrArg Except.ok empty.symm⟩
  | cons item rest inductionHypothesis =>
      rw [List.mapM_cons, List.forall₂_cons_left_iff]
      constructor
      · intro done
        obtain ⟨result, computed, afterItem⟩ := bind_eq_ok.mp done
        obtain ⟨others, restDone, listed⟩ := bind_eq_ok.mp afterItem
        exact ⟨result, others, computed, inductionHypothesis.mp restDone,
          (Except.ok.inj listed).symm⟩
      · rintro ⟨result, others, computed, restDone, rfl⟩
        rw [computed, ok_bind, inductionHypothesis.mpr restDone]
        rfl

theorem exists_forall₂_iff {related : α → β → Prop} {items : List α} :
    (∃ results, List.Forall₂ related items results) ↔
      ∀ item ∈ items, ∃ result, related item result := by
  induction items with
  | nil => exact ⟨fun _ item member => absurd member List.not_mem_nil, fun _ => ⟨[], .nil⟩⟩
  | cons item rest inductionHypothesis =>
      rw [List.forall_mem_cons, ← inductionHypothesis]
      simp only [List.forall₂_cons_left_iff]
      constructor
      · rintro ⟨_, result, others, here, there, _⟩
        exact ⟨⟨result, here⟩, others, there⟩
      · rintro ⟨⟨result, here⟩, others, there⟩
        exact ⟨_, result, others, here, there, rfl⟩

theorem map_eq_map_of_forall₂ {γ : Type} {related : α → β → Prop} {left : α → γ}
    {right : β → γ} {items : List α} {results : List β}
    (same : ∀ item result, related item result → right result = left item)
    (each : List.Forall₂ related items results) : results.map right = items.map left := by
  induction each with
  | nil => rfl
  | cons here _ inductionHypothesis =>
      rw [List.map_cons, List.map_cons, same _ _ here, inductionHypothesis]

theorem forall_mem_of_forall₂ {related : α → β → Prop} {holds : β → Prop}
    {items : List α} {results : List β} (here : ∀ item result, related item result → holds result)
    (each : List.Forall₂ related items results) : ∀ result ∈ results, holds result := by
  induction each with
  | nil => exact fun _ member => absurd member List.not_mem_nil
  | cons first _ inductionHypothesis =>
      exact List.forall_mem_cons.mpr ⟨here _ _ first, inductionHypothesis⟩

theorem exists_mem_of_forall₂ {related : α → β → Prop} {items : List α}
    {results : List β} (each : List.Forall₂ related items results) :
    ∀ item ∈ items, ∃ result ∈ results, related item result := by
  induction each with
  | nil => exact fun _ member => absurd member List.not_mem_nil
  | cons first _ inductionHypothesis =>
      refine List.forall_mem_cons.mpr ⟨⟨_, List.mem_cons_self .., first⟩, ?_⟩
      intro item member
      obtain ⟨result, found, here⟩ := inductionHypothesis item member
      exact ⟨result, List.mem_cons_of_mem _ found, here⟩

/-- A computation over a list returns exactly when it does on each of its items. -/
theorem mapM_isOk_iff {compute : α → Except ε β} {items : List α} :
    (∃ results, items.mapM compute = .ok results) ↔
      ∀ item ∈ items, ∃ result, compute item = .ok result := by
  simp only [mapM_eq_ok_iff, exists_forall₂_iff]

/-- Two computations over a list return one list exactly when they return alike on each
of its items. -/
theorem exists_mapM_eq_ok_iff {γ : Type} {left : α → Except ε γ} {right : β → Except ε γ}
    {change : α → β} (items : List α) :
    (∃ results, items.mapM left = .ok results ∧ (items.map change).mapM right = .ok results) ↔
      ∀ item ∈ items, ∃ result, left item = .ok result ∧ right (change item) = .ok result := by
  simp only [mapM_eq_ok_iff, List.forall₂_map_left_iff, ← exists_forall₂_iff]
  constructor
  · rintro ⟨results, leftDone, rightDone⟩
    exact ⟨results, List.Forall₂.mp (fun _ _ here there => ⟨here, there⟩) leftDone rightDone⟩
  · rintro ⟨results, bothDone⟩
    exact ⟨results, bothDone.imp fun _ _ both => both.1, bothDone.imp fun _ _ both => both.2⟩

theorem error_bind (failure : ε) (rest : α → Except ε β) :
    ((.error failure : Except ε α) >>= rest) = .error failure := rfl

end LlmObs.Foundation
