import Mathlib.Data.List.FinRange
import Mathlib.Data.List.Perm.Subperm

/-!
Owns counters, a count for each key with zero for the missing ones, and the scan that
consumes one: it keeps an item as long as the count of its key is positive. The scan keeps
the earliest items of each key.
-/

namespace LlmObs.Foundation

universe u v

/-- A `collections.Counter`. -/
structure Counter (Key : Type v) where
  count : Key → Int

namespace Counter

variable {Item : Type u} {Key : Type v} {keyOf : Item → Key}

/-! ### Earliest items -/

/-- The chosen items stand at increasing positions, and a position that is chosen has
every earlier one of its key chosen too. -/
def Earliest (keyOf : Item → Key) (items chosen : List Item) : Prop :=
  ∃ places : List (Fin items.length), places.Pairwise (· < ·) ∧
    places.map items.get = chosen ∧
      ∀ earlier later, later ∈ places → earlier < later →
        keyOf (items.get earlier) = keyOf (items.get later) → earlier ∈ places

/-- The positions behind the first one are positions of the rest. -/
theorem exists_map_succ {count : Nat} {places : List (Fin (count + 1))}
    (behind : ∀ place ∈ places, place ≠ 0) :
    ∃ others : List (Fin count), others.map Fin.succ = places := by
  induction places with
  | nil => exact ⟨[], rfl⟩
  | cons place rest inductionHypothesis =>
      obtain ⟨others, rfl⟩ := inductionHypothesis fun other member =>
        behind other (List.mem_cons_of_mem _ member)
      obtain ⟨shifted, rfl⟩ := Fin.exists_succ_eq.mpr (behind place (List.mem_cons_self ..))
      exact ⟨shifted :: others, rfl⟩

/-- Positions of the rest that are the earliest ones of the whole list are its earliest. -/
theorem earliest_of_shifted {item : Item} {rest : List Item} {others : List (Fin rest.length)}
    (increasing : (others.map Fin.succ).Pairwise (· < ·))
    (closed : ∀ earlier later : Fin rest.length, later ∈ others → earlier < later →
      keyOf (rest.get earlier) = keyOf (rest.get later) → earlier ∈ others) :
    Earliest keyOf rest ((others.map Fin.succ).map (item :: rest).get) := by
  refine ⟨others, ?_, ?_, closed⟩
  · exact (List.pairwise_map.mp increasing).imp Fin.succ_lt_succ_iff.mp
  · rw [List.map_map]
    rfl

theorem Earliest.cases {item : Item} {rest chosen : List Item}
    (earliest : Earliest keyOf (item :: rest) chosen) :
    (∃ others, chosen = item :: others ∧ Earliest keyOf rest others) ∨
      (keyOf item ∉ chosen.map keyOf ∧ Earliest keyOf rest chosen) := by
  obtain ⟨places, increasing, rfl, closed⟩ := earliest
  by_cases first : ∃ others, places = (0 : Fin (rest.length + 1)) :: others
  · obtain ⟨others, rfl⟩ := first
    obtain ⟨before, ordered⟩ := List.pairwise_cons.mp increasing
    obtain ⟨shifted, rfl⟩ := exists_map_succ fun place member => (before place member).ne'
    refine Or.inl ⟨_, rfl, earliest_of_shifted ordered ?_⟩
    intro earlier later member less same
    have found := closed earlier.succ later.succ
      (List.mem_cons_of_mem _ (List.mem_map_of_mem member)) (Fin.succ_lt_succ_iff.mpr less) same
    rcases List.mem_cons.mp found with zero | inShifted
    · exact absurd zero (Fin.succ_ne_zero _)
    · exact (List.mem_map_of_injective (Fin.succ_injective _)).mp inShifted
  · have behind : ∀ place ∈ places, place ≠ (0 : Fin (rest.length + 1)) := by
      rintro place member rfl
      cases places with
      | nil => cases member
      | cons head others =>
          rcases List.mem_cons.mp member with rfl | later
          · exact first ⟨others, rfl⟩
          · exact absurd ((List.pairwise_cons.mp increasing).1 _ later) (Fin.not_lt_zero _)
    refine Or.inr ⟨?_, ?_⟩
    · intro chosenKey
      obtain ⟨_, chosenItem, same⟩ := List.mem_map.mp chosenKey
      obtain ⟨place, member, rfl⟩ := List.mem_map.mp chosenItem
      exact behind 0 (closed 0 place member (Fin.pos_iff_ne_zero.mpr (behind place member))
        same.symm) rfl
    · obtain ⟨shifted, rfl⟩ := exists_map_succ behind
      refine earliest_of_shifted increasing ?_
      intro earlier later member less same
      have found := closed earlier.succ later.succ (List.mem_map_of_mem member)
        (Fin.succ_lt_succ_iff.mpr less) same
      exact (List.mem_map_of_injective (Fin.succ_injective _)).mp found

/-! ### Counting -/

section

variable [BEq Key]

/-- `Counter(keys)` -/
def ofList (keys : List Key) : Counter Key := ⟨fun key => keys.count key⟩

/-- `counter[key] -= 1` -/
def decrement (counter : Counter Key) (key : Key) : Counter Key :=
  ⟨fun other => counter.count other - if other == key then 1 else 0⟩

/-- The items that the scan keeps. -/
def consume (keyOf : Item → Key) : List Item → Counter Key → List Item
  | [], _ => []
  | item :: rest, remaining =>
      if remaining.count (keyOf item) ≤ 0 then consume keyOf rest remaining
      else item :: consume keyOf rest (remaining.decrement (keyOf item))

/-- How often the key of a position stands before it. -/
def occurrencesBefore (keyOf : Item → Key) (items : List Item) (place : Fin items.length) :
    Nat :=
  ((items.take place).map keyOf).count (keyOf (items.get place))

variable {items : List Item} {remaining : Counter Key}

@[simp] theorem count_ofList (keys : List Key) (key : Key) :
    (ofList keys).count key = keys.count key := rfl

theorem count_decrement (counter : Counter Key) (key other : Key) :
    (counter.decrement key).count other = counter.count other - if other == key then 1 else 0 :=
  rfl

theorem occurrencesBefore_succ (item : Item) (rest : List Item) (place : Fin rest.length) :
    occurrencesBefore keyOf (item :: rest) place.succ =
      occurrencesBefore keyOf rest place +
        if keyOf item == keyOf (rest.get place) then 1 else 0 := by
  show ((keyOf item :: (rest.take place).map keyOf).count (keyOf (rest.get place))) = _
  rw [List.count_cons]
  rfl

/-- A position before another of its key has fewer occurrences of the key before it. -/
theorem occurrencesBefore_mono {earlier later : Fin items.length} (before : earlier < later)
    (same : keyOf (items.get earlier) = keyOf (items.get later)) :
    occurrencesBefore keyOf items earlier ≤ occurrencesBefore keyOf items later := by
  unfold occurrencesBefore
  rw [same]
  have shorter : (items.take earlier).Sublist (items.take later) :=
    (List.take_prefix_take_left (by omega)).sublist
  exact (shorter.map keyOf).count_le _

/-- Counters of the same keys in another order are the same. -/
theorem ofList_perm {left right : List Key} (perm : left.Perm right) :
    ofList left = ofList right := by
  unfold ofList
  simp only [perm.count_eq]

variable [LawfulBEq Key]

/-- One occurrence less is left to consume. -/
theorem decrement_ofList {keys : List Key} {key : Key} (member : key ∈ keys) :
    (ofList keys).decrement key = ofList (keys.erase key) := by
  have positive : 0 < keys.count key := List.count_pos_iff.mpr member
  unfold decrement
  congr 1
  funext other
  rw [count_ofList]
  by_cases same : other = key
  · rw [if_pos (beq_iff_eq.mpr same), same, List.count_erase_self]
    omega
  · rw [if_neg (by simpa using same), List.count_erase_of_ne same]
    omega

/-- A position is kept when fewer earlier occurrences of its key precede it than the
counter allows. -/
def Keeps (keyOf : Item → Key) (items : List Item) (remaining : Counter Key)
    (place : Fin items.length) : Prop :=
  (occurrencesBefore keyOf items place : Int) < remaining.count (keyOf (items.get place))

instance (place : Fin items.length) : Decidable (Keeps keyOf items remaining place) :=
  inferInstanceAs (Decidable (_ < _))

/-- The positions that the scan keeps. -/
def places (keyOf : Item → Key) (items : List Item) (remaining : Counter Key) :
    List (Fin items.length) :=
  (List.finRange items.length).filter fun place => Keeps keyOf items remaining place

theorem keeps_succ_of_exhausted {item : Item} {rest : List Item}
    (exhausted : remaining.count (keyOf item) ≤ 0) (place : Fin rest.length) :
    Keeps keyOf (item :: rest) remaining place.succ ↔ Keeps keyOf rest remaining place := by
  have nonneg : (0 : Int) ≤ occurrencesBefore keyOf rest place := Int.natCast_nonneg _
  rw [Keeps, Keeps, occurrencesBefore_succ]
  show _ < remaining.count (keyOf (rest.get place)) ↔ _
  by_cases same : keyOf item = keyOf (rest.get place)
  · rw [if_pos (beq_iff_eq.mpr same), ← same]
    omega
  · rw [if_neg (by simpa using same), Nat.add_zero]

theorem keeps_succ_of_consumed (item : Item) {rest : List Item} (place : Fin rest.length) :
    Keeps keyOf (item :: rest) remaining place.succ ↔
      Keeps keyOf rest (remaining.decrement (keyOf item)) place := by
  rw [Keeps, Keeps, occurrencesBefore_succ, count_decrement]
  show _ < remaining.count (keyOf (rest.get place)) ↔ _
  by_cases same : keyOf item = keyOf (rest.get place)
  · rw [if_pos (beq_iff_eq.mpr same), if_pos (beq_iff_eq.mpr same.symm)]
    omega
  · rw [if_neg (by simpa using same), if_neg (by simpa using fun equal => same equal.symm)]
    omega

theorem places_cons (item : Item) (rest : List Item) :
    places keyOf (item :: rest) remaining =
      if remaining.count (keyOf item) ≤ 0 then (places keyOf rest remaining).map Fin.succ
      else ⟨0, Nat.succ_pos _⟩ ::
        (places keyOf rest (remaining.decrement (keyOf item))).map Fin.succ := by
  have first : Keeps keyOf (item :: rest) remaining ⟨0, Nat.succ_pos _⟩ ↔
      0 < remaining.count (keyOf item) := Iff.rfl
  have range : List.finRange (item :: rest).length =
      ⟨0, Nat.succ_pos _⟩ :: (List.finRange rest.length).map Fin.succ := List.finRange_succ
  unfold places
  rw [range, List.filter_cons, List.filter_map, Function.comp_def]
  by_cases exhausted : remaining.count (keyOf item) ≤ 0
  · rw [if_pos exhausted, if_neg (by rw [decide_eq_true_eq, first]; omega)]
    simp only [keeps_succ_of_exhausted exhausted]
  · rw [if_neg exhausted, if_pos (by rw [decide_eq_true_eq, first]; omega)]
    simp only [keeps_succ_of_consumed]

theorem consume_eq_places : consume keyOf items remaining =
    (places keyOf items remaining).map items.get := by
  induction items generalizing remaining with
  | nil => rfl
  | cons item rest inductionHypothesis =>
      have shifted (kept : List (Fin rest.length)) :
          (kept.map Fin.succ).map (item :: rest).get = kept.map rest.get := by
        rw [List.map_map]
        rfl
      rw [consume, places_cons]
      by_cases exhausted : remaining.count (keyOf item) ≤ 0
      · rw [if_pos exhausted, if_pos exhausted, inductionHypothesis]
        exact (shifted _).symm
      · rw [if_neg exhausted, if_neg exhausted, inductionHypothesis, List.map_cons, shifted]
        rfl

theorem consume_sublist : (consume keyOf items remaining).Sublist items := by
  have kept : ((places keyOf items remaining).map items.get).Sublist
      ((List.finRange items.length).map items.get) := List.filter_sublist.map items.get
  rwa [← consume_eq_places, List.map_get_finRange] at kept

/-- The scan takes as many items of a key as there are, up to its count. -/
theorem count_consume (key : Key) :
    (((consume keyOf items remaining).map keyOf).count key : Int) =
      min ((items.map keyOf).count key : Int) (max 0 (remaining.count key)) := by
  induction items generalizing remaining with
  | nil => simp [consume]
  | cons item rest inductionHypothesis =>
      rw [consume]
      by_cases exhausted : remaining.count (keyOf item) ≤ 0
      · rw [if_pos exhausted, inductionHypothesis, List.map_cons, List.count_cons]
        by_cases same : keyOf item = key
        · rw [← same]
          omega
        · simp [same]
      · rw [if_neg exhausted, List.map_cons, List.count_cons, List.map_cons, List.count_cons,
          Int.natCast_add, inductionHypothesis, count_decrement]
        by_cases same : keyOf item = key
        · rw [if_pos (beq_iff_eq.mpr same.symm), same, if_pos (by simp)]
          rw [same] at exhausted
          omega
        · rw [if_neg (by simpa using fun equal => same equal.symm),
            if_neg (by simpa using same)]
          simp

theorem earliest_consume : Earliest keyOf items (consume keyOf items remaining) := by
  refine ⟨places keyOf items remaining, ?_, consume_eq_places.symm, ?_⟩
  · exact (List.pairwise_lt_finRange _).sublist List.filter_sublist
  · intro earlier later member before same
    have keeps : Keeps keyOf items remaining later := by
      simpa using (List.mem_filter.mp member).2
    refine List.mem_filter.mpr ⟨List.mem_finRange _, ?_⟩
    have fewer := occurrencesBefore_mono before same
    rw [Keeps] at keeps
    rw [decide_eq_true_eq, Keeps, same]
    omega

/-- A counter of some of the keys is consumed completely. -/
theorem map_consume_perm {keys : List Key} (available : keys.Subperm (items.map keyOf)) :
    ((consume keyOf items (ofList keys)).map keyOf).Perm keys := by
  refine List.perm_iff_count.mpr fun key => ?_
  have taken : (((consume keyOf items (ofList keys)).map keyOf).count key : Int) = _ :=
    count_consume key
  have enough := available.count_le key
  rw [count_ofList] at taken
  omega

/-! ### The scan is the only such choice -/

/-- The earliest items with given keys are those that the scan keeps. -/
theorem Earliest.eq_consume {chosen : List Item} (earliest : Earliest keyOf items chosen) :
    chosen = consume keyOf items (ofList (chosen.map keyOf)) := by
  induction items generalizing chosen with
  | nil =>
      obtain ⟨places, -, rfl, -⟩ := earliest
      rw [consume, List.map_eq_nil_iff]
      exact List.eq_nil_iff_forall_not_mem.mpr fun place _ => place.elim0
  | cons item rest inductionHypothesis =>
      rw [consume, count_ofList]
      rcases earliest.cases with ⟨others, rfl, behind⟩ | ⟨other, behind⟩
      · have counted : 0 < ((item :: others).map keyOf).count (keyOf item) :=
          List.count_pos_iff.mpr (List.mem_cons_self ..)
        have left : ((item :: others).map keyOf).erase (keyOf item) = others.map keyOf := by
          rw [List.map_cons, List.erase_cons_head]
        rw [if_neg (by omega), decrement_ofList (List.count_pos_iff.mp counted), left,
          ← inductionHypothesis behind]
      · rw [if_pos (by rw [List.count_eq_zero.mpr other]; rfl)]
        exact inductionHypothesis behind

end

end Counter

end LlmObs.Foundation
