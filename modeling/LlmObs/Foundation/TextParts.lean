import Mathlib.Data.List.DropRight
import Mathlib.Data.List.Infix

/-!
Owns texts as lists of characters: trimming at both ends, and the removal of every
occurrence of a part. Two parts that end in one delimiter are removed one after the other,
and what this gives for a text is compared with what it gives for the image of the text
under a map of the characters.
-/

namespace LlmObs.Foundation

universe u

variable {α : Type u}

/-! ### Trimming -/

/-- The text without the blanks at its ends. -/
def trim (blank : α → Bool) (text : List α) : List α := (text.dropWhile blank).rdropWhile blank

section

variable {blank : α → Bool} {text : List α}

theorem trim_sublist : (trim blank text).Sublist text :=
  (List.rdropWhile_prefix _ _).sublist.trans (List.dropWhile_suffix _).sublist

theorem trim_eq_self (solid : ∀ char ∈ text, blank char = false) : trim blank text = text := by
  have front : text.dropWhile blank = text := by
    refine List.dropWhile_eq_self_iff.mpr fun nonempty => ?_
    rw [solid _ (List.getElem_mem nonempty)]
    decide
  rw [trim, front]
  refine List.rdropWhile_eq_self_iff.mpr fun nonempty => ?_
  rw [solid _ (List.getLast_mem nonempty)]
  decide

theorem trim_trim : trim blank (trim blank text) = trim blank text := by
  have front : (trim blank text).dropWhile blank = trim blank text := by
    refine List.dropWhile_eq_self_iff.mpr fun nonempty => ?_
    obtain ⟨tail, whole⟩ := List.rdropWhile_prefix blank (text.dropWhile blank)
    have kept : 0 < (text.dropWhile blank).length :=
      nonempty.trans_le (List.rdropWhile_prefix _ _).length_le
    have first := List.dropWhile_get_zero_not blank text kept
    have same : (trim blank text)[0] = (text.dropWhile blank)[0] :=
      (List.rdropWhile_prefix blank (text.dropWhile blank)).getElem nonempty
    rwa [same]
  rw [trim, front]
  exact List.rdropWhile_idempotent _ _

theorem map_trim {f : α → α} (same : ∀ char, blank (f char) = blank char) :
    (trim blank text).map f = trim blank (text.map f) := by
  have blanks : blank ∘ f = blank := funext same
  rw [trim, trim, List.rdropWhile, List.rdropWhile, List.dropWhile_map, blanks, ← List.map_reverse,
    List.dropWhile_map, blanks, ← List.map_reverse]

/-- A character that is not blank stays. -/
theorem mem_trim {char : α} (solid : blank char = false) :
    char ∈ trim blank text ↔ char ∈ text := by
  have dropped : ∀ text : List α, char ∈ text → char ∈ text.dropWhile blank := by
    intro text member
    rw [← List.takeWhile_append_dropWhile (p := blank) (l := text)] at member
    refine (List.mem_append.mp member).resolve_left fun front => ?_
    exact absurd (List.mem_takeWhile_imp front) (by rw [solid]; decide)
  refine ⟨fun member => trim_sublist.subset member, fun member => ?_⟩
  rw [trim, List.rdropWhile, List.mem_reverse]
  exact dropped _ (List.mem_reverse.mpr (dropped _ member))

end

/-! ### Removal -/

variable [DecidableEq α]

/-- The text without the occurrences of the part, behind `skip` characters that go as well. -/
def removeFrom (part : List α) : Nat → List α → List α
  | _, [] => []
  | skip + 1, _ :: rest => removeFrom part skip rest
  | 0, char :: rest =>
      if part <+: char :: rest then removeFrom part (part.length - 1) rest
      else char :: removeFrom part 0 rest

/-- `text.replace(part, "")` of a part that is not empty. -/
def removeAll (part text : List α) : List α := removeFrom part 0 text

section

variable {part text : List α}

theorem removeFrom_append (removed rest : List α) :
    removeFrom part removed.length (removed ++ rest) = removeAll part rest := by
  induction removed with
  | nil => rfl
  | cons char removed inductionHypothesis => exact inductionHypothesis

theorem removeAll_part_append (nonempty : part ≠ []) (rest : List α) :
    removeAll part (part ++ rest) = removeAll part rest := by
  cases part with
  | nil => exact absurd rfl nonempty
  | cons char others =>
      have found : char :: others <+: char :: (others ++ rest) := List.prefix_append _ rest
      rw [removeAll, List.cons_append, removeFrom, if_pos found]
      exact removeFrom_append others rest

theorem removeAll_cons {char : α} {rest : List α} (absent : ¬part <+: char :: rest) :
    removeAll part (char :: rest) = char :: removeAll part rest := by
  rw [removeAll, removeFrom, if_neg absent, removeAll]

/-- A text that lacks a character of the part has no occurrence of it. -/
theorem removeAll_eq_self {char : α} (inPart : char ∈ part) (absent : char ∉ text) :
    removeAll part text = text := by
  induction text with
  | nil => rfl
  | cons first rest inductionHypothesis =>
      rw [removeAll_cons fun found => absent (found.subset inPart),
        inductionHypothesis fun member => absent (List.mem_cons_of_mem _ member)]

/-- What goes belongs to the part. -/
theorem mem_removeAll_or_mem (nonempty : part ≠ []) {char : α} (member : char ∈ text) :
    char ∈ removeAll part text ∨ char ∈ part := by
  induction size : text.length using Nat.strong_induction_on generalizing text with
  | _ length inductionHypothesis =>
      cases text with
      | nil => cases member
      | cons first rest =>
          by_cases found : part <+: first :: rest
          · obtain ⟨others, split⟩ := found
            have shorter : others.length < length := by
              have total := congrArg List.length split
              have positive := List.length_pos_iff.mpr nonempty
              rw [List.length_append] at total
              omega
            rw [← split, removeAll_part_append nonempty]
            rw [← split] at member
            rcases List.mem_append.mp member with inPart | behind
            · exact Or.inr inPart
            · exact inductionHypothesis _ shorter behind rfl
          · rw [removeAll_cons found]
            rcases List.mem_cons.mp member with rfl | behind
            · exact Or.inl (List.mem_cons_self ..)
            · have shorter : rest.length < length := by
                rw [← size, List.length_cons]
                omega
              exact (inductionHypothesis _ shorter behind rfl).imp_left (List.mem_cons_of_mem _)

end

/-! ### Parts that end in a delimiter -/

section

variable {delimiter : α} {part : List α}

omit [DecidableEq α] in
/-- Texts are cut behind each delimiter. -/
theorem delimited_induction (delimiter : α) {motive : List α → Prop}
    (last : ∀ segment, delimiter ∉ segment → motive segment)
    (next : ∀ segment rest, delimiter ∉ segment → motive rest →
      motive (segment ++ delimiter :: rest)) (text : List α) : motive text := by
  induction size : text.length using Nat.strong_induction_on generalizing text with
  | _ length inductionHypothesis =>
      by_cases member : delimiter ∈ text
      · obtain ⟨segment, rest, rfl, clear⟩ := List.eq_append_cons_of_mem member
        refine next segment rest clear (inductionHypothesis rest.length ?_ rest rfl)
        rw [← size, List.length_append, List.length_cons]
        omega
      · exact last text member

theorem concat_prefix_iff (clear : delimiter ∉ part) {segment rest : List α}
    (clearSegment : delimiter ∉ segment) :
    part ++ [delimiter] <+: segment ++ delimiter :: rest ↔ part = segment := by
  have front : ∀ {text : List α} (others : List α), delimiter ∉ text →
      (text ++ delimiter :: others).takeWhile (· ≠ delimiter) = text := by
    intro text others clear
    have others : ∀ char ∈ text, decide (char ≠ delimiter) = true := fun char member =>
      decide_eq_true fun same => clear (same ▸ member)
    rw [List.takeWhile_append_of_pos others]
    simp
  constructor
  · rintro ⟨others, same⟩
    rw [List.append_assoc, List.singleton_append] at same
    rw [← front others clear, same, front rest clearSegment]
  · rintro rfl
    exact ⟨rest, by simp⟩

/-- A part is removed from the end of a segment, with the delimiter behind it. -/
theorem removeAll_append_part (clear : delimiter ∉ part) {kept rest : List α}
    (clearKept : delimiter ∉ kept) :
    removeAll (part ++ [delimiter]) (kept ++ part ++ delimiter :: rest) =
      kept ++ removeAll (part ++ [delimiter]) rest := by
  induction kept with
  | nil =>
      have whole : part ++ delimiter :: rest = part ++ [delimiter] ++ rest := by simp
      rw [List.nil_append, whole]
      exact removeAll_part_append (by simp) rest
  | cons char kept inductionHypothesis =>
      have absent : ¬part ++ [delimiter] <+: char :: kept ++ part ++ delimiter :: rest := by
        intro found
        have same := (concat_prefix_iff clear (List.not_mem_append clearKept clear)).mp found
        have lengths := congrArg List.length same
        rw [List.length_append, List.length_cons] at lengths
        omega
      have others := inductionHypothesis fun member => clearKept (List.mem_cons_of_mem _ member)
      rw [List.cons_append, List.cons_append] at absent ⊢
      rw [removeAll_cons absent, others, List.cons_append]

/-- A segment that does not end in the part stays with its delimiter. -/
theorem removeAll_append_delimiter (clear : delimiter ∉ part) {segment rest : List α}
    (clearSegment : delimiter ∉ segment) (other : ¬part <:+ segment) :
    removeAll (part ++ [delimiter]) (segment ++ delimiter :: rest) =
      segment ++ delimiter :: removeAll (part ++ [delimiter]) rest := by
  induction segment with
  | nil =>
      refine removeAll_cons fun found => other ?_
      rw [(concat_prefix_iff clear (List.not_mem_nil (a := delimiter))).mp found]
  | cons char segment inductionHypothesis =>
      have absent : ¬part ++ [delimiter] <+: char :: segment ++ delimiter :: rest := by
        intro found
        rw [(concat_prefix_iff clear clearSegment).mp found] at other
        exact other (List.suffix_refl _)
      have others := inductionHypothesis
        (fun member => clearSegment (List.mem_cons_of_mem _ member))
        (fun ends => other (ends.trans (List.suffix_cons ..)))
      rw [List.cons_append] at absent ⊢
      rw [removeAll_cons absent, others, List.cons_append]

/-- If every delimiter of a text goes with one of two parts, of which neither ends in the
other, then each goes in the image of the text too. -/
theorem removeAll_removeAll_map {first second : List α} {f : α → α}
    (clearFirst : delimiter ∉ first) (clearSecond : delimiter ∉ second)
    (mapFirst : first.map f = first) (mapSecond : second.map f = second)
    (mapDelimiter : ∀ char, f char = delimiter ↔ char = delimiter)
    (apart : ¬first <:+ second) (apart' : ¬second <:+ first) (text before : List α)
    (clear : delimiter ∉ before)
    (gone : delimiter ∉ removeAll (second ++ [delimiter])
      (before ++ removeAll (first ++ [delimiter]) text)) :
    removeAll (second ++ [delimiter])
        (before.map f ++ removeAll (first ++ [delimiter]) (text.map f)) =
      (removeAll (second ++ [delimiter])
        (before ++ removeAll (first ++ [delimiter]) text)).map f := by
  have clearMap : ∀ {text : List α}, delimiter ∉ text → delimiter ∉ text.map f := by
    intro text clear member
    obtain ⟨char, inText, same⟩ := List.mem_map.mp member
    exact clear ((mapDelimiter char).mp same ▸ inText)
  have ends : ∀ part : List α, delimiter ∈ part ++ [delimiter] := fun part => by simp
  -- segment by segment; `before` is what the first removal joined to the next one
  induction text using delimited_induction delimiter generalizing before with
  | last segment clearSegment =>
      have clearBoth := List.not_mem_append clear clearSegment
      rw [removeAll_eq_self (ends first) clearSegment,
        removeAll_eq_self (ends first) (clearMap clearSegment), ← List.map_append,
        removeAll_eq_self (ends second) clearBoth,
        removeAll_eq_self (ends second) (clearMap clearBoth)]
  | next segment rest clearSegment inductionHypothesis =>
      rw [List.map_append, List.map_cons, (mapDelimiter delimiter).mpr rfl]
      by_cases ending : first <:+ segment
      · obtain ⟨kept, rfl⟩ := ending
        have clearKept : delimiter ∉ kept := fun member =>
          clearSegment (List.mem_append_left _ member)
        rw [removeAll_append_part clearFirst clearKept, ← List.append_assoc] at gone ⊢
        rw [List.map_append, mapFirst, removeAll_append_part clearFirst (clearMap clearKept),
          ← List.append_assoc, ← List.map_append]
        exact inductionHypothesis _ (List.not_mem_append clear clearKept) gone
      · have clearBoth := List.not_mem_append clear clearSegment
        rw [removeAll_append_delimiter clearFirst clearSegment ending, ← List.append_assoc]
          at gone ⊢
        by_cases endsSecond : second <:+ before ++ segment
        · -- the image of the segment ends as `second` does, so not in `first`
          have imageEnds : second <:+ (before ++ segment).map f := by
            have mapped := endsSecond.map f
            rwa [mapSecond] at mapped
          have imageApart : ¬first <:+ segment.map f := by
            intro found
            have both := found.trans (List.suffix_append (before.map f) _)
            rw [← List.map_append] at both
            rcases List.suffix_or_suffix_of_suffix both imageEnds with within | within
            · exact apart within
            · exact apart' within
          obtain ⟨kept, split⟩ := endsSecond
          have clearKept : delimiter ∉ kept := fun member =>
            clearBoth (split ▸ List.mem_append_left _ member)
          rw [← split, removeAll_append_part clearSecond clearKept] at gone ⊢
          have others := inductionHypothesis [] List.not_mem_nil fun member =>
            gone (List.mem_append_right _ member)
          rw [removeAll_append_delimiter clearFirst (clearMap clearSegment) imageApart,
            ← List.append_assoc, ← List.map_append, ← split, List.map_append, mapSecond,
            removeAll_append_part clearSecond (clearMap clearKept), List.map_append]
          exact congrArg (kept.map f ++ ·) others
        · rw [removeAll_append_delimiter clearSecond clearBoth endsSecond] at gone
          exact absurd gone (by simp)

end

end LlmObs.Foundation
