import Mathlib.Init

/-!
Owns one row under read committed: its last committed version and the version
that an open transaction has written. A statement of another transaction reads
the committed version; a write waits until the row is free.

Nothing here names a concrete table.
-/

namespace LlmObs.Foundation

/-- The versions of one row. `uncommitted` names the transaction that wrote it. -/
structure Slot (Row : Type) where
  committed : Option Row
  uncommitted : Option (Nat × Row)
deriving DecidableEq, Repr

namespace Slot

variable {Row : Type}

def empty : Slot Row := ⟨none, none⟩

/-- No other transaction has written the row and not ended yet. -/
def Free (slot : Slot Row) (writer : Nat) : Prop :=
  match slot.uncommitted with
  | some (owner, _) => owner = writer
  | none => True

instance (slot : Slot Row) (writer : Nat) : Decidable (slot.Free writer) := by
  unfold Free
  split <;> infer_instance

/-- The version that a statement of `reader` sees. -/
def visible (slot : Slot Row) (reader : Nat) : Option Row :=
  match slot.uncommitted with
  | some (owner, row) => if owner = reader then some row else slot.committed
  | none => slot.committed

def write (slot : Slot Row) (writer : Nat) (row : Row) : Slot Row :=
  { slot with uncommitted := some (writer, row) }

def commit (slot : Slot Row) (writer : Nat) : Slot Row :=
  match slot.uncommitted with
  | some (owner, row) => if owner = writer then ⟨some row, none⟩ else slot
  | none => slot

def rollback (slot : Slot Row) (writer : Nat) : Slot Row :=
  match slot.uncommitted with
  | some (owner, _) => if owner = writer then ⟨slot.committed, none⟩ else slot
  | none => slot

/-- The transaction has written nothing to the row. -/
def Untouched (slot : Slot Row) (writer : Nat) : Prop :=
  ∀ row, slot.uncommitted ≠ some (writer, row)

theorem owner_eq {slot : Slot Row} {owner other : Nat} {row otherRow : Row}
    (held : slot.uncommitted = some (owner, row))
    (otherHeld : slot.uncommitted = some (other, otherRow)) : owner = other := by
  rw [held, Option.some.injEq, Prod.mk.injEq] at otherHeld
  exact otherHeld.1

theorem write_uncommitted {slot : Slot Row} {writer owner : Nat} {row version : Row}
    (held : (slot.write writer row).uncommitted = some (owner, version)) :
    owner = writer ∧ version = row := by
  simp only [write, Option.some.injEq, Prod.mk.injEq] at held
  exact ⟨held.1.symm, held.2.symm⟩

theorem Untouched.owner_ne {slot : Slot Row} {writer owner : Nat} {row : Row}
    (untouched : slot.Untouched writer) (held : slot.uncommitted = some (owner, row)) :
    owner ≠ writer := by
  rintro rfl
  exact untouched row held

/-- A row that another transaction has written. -/
theorem untouched_of_held {slot : Slot Row} {writer owner : Nat} {row : Row}
    (held : slot.uncommitted = some (owner, row)) (different : owner ≠ writer) :
    slot.Untouched writer :=
  fun _ mine => different (owner_eq held mine)

theorem uncommitted_of_free {slot : Slot Row} {writer : Nat} (free : slot.Free writer)
    (untouched : slot.Untouched writer) : slot.uncommitted = none := by
  cases held : slot.uncommitted with
  | none => rfl
  | some owned =>
      simp only [Free, held] at free
      exact absurd free (untouched.owner_ne held)

theorem visible_of_untouched {slot : Slot Row} {reader : Nat}
    (untouched : slot.Untouched reader) : slot.visible reader = slot.committed := by
  unfold visible
  split
  · rename_i held
    exact if_neg (untouched.owner_ne held)
  · rfl

theorem commit_of_held {slot : Slot Row} {writer : Nat} {row : Row}
    (held : slot.uncommitted = some (writer, row)) : slot.commit writer = ⟨some row, none⟩ := by
  simp [commit, held]

theorem commit_of_untouched {slot : Slot Row} {writer : Nat}
    (untouched : slot.Untouched writer) : slot.commit writer = slot := by
  unfold commit
  split
  · rename_i held
    exact if_neg (untouched.owner_ne held)
  · rfl

theorem rollback_of_held {slot : Slot Row} {writer : Nat} {row : Row}
    (held : slot.uncommitted = some (writer, row)) :
    slot.rollback writer = ⟨slot.committed, none⟩ := by
  simp [rollback, held]

theorem rollback_of_untouched {slot : Slot Row} {writer : Nat}
    (untouched : slot.Untouched writer) : slot.rollback writer = slot := by
  unfold rollback
  split
  · rename_i held
    exact if_neg (untouched.owner_ne held)
  · rfl

/-- The row was written by the transaction, or is left alone when it ends. -/
theorem held_or_untouched (slot : Slot Row) (writer : Nat) :
    (∃ row, slot.uncommitted = some (writer, row)) ∨ slot.Untouched writer := by
  by_cases held : ∃ row, slot.uncommitted = some (writer, row)
  · exact Or.inl held
  · exact Or.inr fun row same => held ⟨row, same⟩

/-- A row is committed by this commit, or was before it. -/
theorem commit_cases {slot : Slot Row} {writer : Nat} {row : Row}
    (known : (slot.commit writer).committed = some row) :
    slot.uncommitted = some (writer, row) ∨ slot.Untouched writer ∧ slot.committed = some row := by
  rcases slot.held_or_untouched writer with ⟨version, held⟩ | untouched
  · rw [commit_of_held held] at known
    cases known
    exact Or.inl held
  · rw [commit_of_untouched untouched] at known
    exact Or.inr ⟨untouched, known⟩

/-- A commit leaves the versions of the others. -/
theorem commit_uncommitted {slot : Slot Row} {writer owner : Nat} {row : Row}
    (held : (slot.commit writer).uncommitted = some (owner, row)) :
    owner ≠ writer ∧ slot.uncommitted = some (owner, row) := by
  rcases slot.held_or_untouched writer with ⟨version, mine⟩ | untouched
  · rw [commit_of_held mine] at held
    cases held
  · rw [commit_of_untouched untouched] at held
    exact ⟨untouched.owner_ne held, held⟩

/-- A rollback leaves the committed row and the versions of the others. -/
theorem rollback_spec (slot : Slot Row) (writer : Nat) :
    (slot.rollback writer).committed = slot.committed ∧
      ∀ owner row, (slot.rollback writer).uncommitted = some (owner, row) →
        owner ≠ writer ∧ slot.uncommitted = some (owner, row) := by
  rcases slot.held_or_untouched writer with ⟨held, known⟩ | untouched
  · rw [rollback_of_held known]
    exact ⟨rfl, fun owner row impossible => by cases impossible⟩
  · rw [rollback_of_untouched untouched]
    exact ⟨rfl, fun owner row known => ⟨untouched.owner_ne known, known⟩⟩

end Slot

end LlmObs.Foundation
