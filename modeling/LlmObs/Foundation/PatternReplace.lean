import Mathlib.Data.List.Basic
import Mathlib.Data.List.Infix
import Mathlib.Data.List.TakeWhile

/-!
Owns the replacing of a pattern everywhere in a text: `regexp_replace` with the flag `g`, for
patterns whose matches stay in an alphabet. A letter outside of it cuts the text in two that
are replaced apart; a text where the pattern was replaced has none left; and of a tagged run
that was replaced nothing is told.

Nothing here names a concrete pattern.
-/

namespace LlmObs.Foundation

universe u

variable {Letter : Type u}

/-- A pattern by the length of its match at the start of a text, 0 for none. -/
structure Pattern (Letter : Type u) where
  alphabet : Letter → Bool
  matchLength : List Letter → Nat
  length_le : ∀ text, matchLength text ≤ text.length
  /-- A match ends before a letter that is not in the alphabet. -/
  cut : ∀ text letter rest, alphabet letter = false →
    matchLength (text ++ letter :: rest) = matchLength text
  extend : ∀ text more, matchLength text ≠ 0 → matchLength (text ++ more) ≠ 0

namespace Pattern

variable {pattern other : Pattern Letter} {mark text : List Letter}

@[simp] theorem matchLength_nil (pattern : Pattern Letter) : pattern.matchLength [] = 0 :=
  Nat.le_zero.mp (pattern.length_le [])

theorem matchLength_cons_of_outside {letter : Letter} (outside : pattern.alphabet letter = false)
    (rest : List Letter) : pattern.matchLength (letter :: rest) = 0 := by
  have ends := pattern.cut [] letter rest outside
  rwa [List.nil_append, matchLength_nil] at ends

/-- Replace the matches from left to right, after `skip` letters of the last one. -/
def replaceFrom (pattern : Pattern Letter) (mark : List Letter) : Nat → List Letter → List Letter
  | _, [] => []
  | skip + 1, _ :: rest => replaceFrom pattern mark skip rest
  | 0, letter :: rest =>
      match pattern.matchLength (letter :: rest) with
      | 0 => letter :: replaceFrom pattern mark 0 rest
      | length + 1 => mark ++ replaceFrom pattern mark length rest

/-- `regexp_replace(text, pattern, mark, 'g')` -/
def replaceAll (pattern : Pattern Letter) (mark text : List Letter) : List Letter :=
  replaceFrom pattern mark 0 text

@[simp] theorem replaceFrom_nil (pattern : Pattern Letter) (mark : List Letter) (skip : Nat) :
    replaceFrom pattern mark skip [] = [] := by
  cases skip <;> rfl

@[simp] theorem replaceFrom_succ (skip : Nat) (letter : Letter) (rest : List Letter) :
    replaceFrom pattern mark (skip + 1) (letter :: rest) = replaceFrom pattern mark skip rest := rfl

theorem replaceFrom_keep {letter : Letter} {rest : List Letter}
    (none' : pattern.matchLength (letter :: rest) = 0) :
    replaceFrom pattern mark 0 (letter :: rest) = letter :: replaceFrom pattern mark 0 rest := by
  rw [replaceFrom, none']

theorem replaceFrom_match {letter : Letter} {rest : List Letter} {length : Nat}
    (found : pattern.matchLength (letter :: rest) = length + 1) :
    replaceFrom pattern mark 0 (letter :: rest) =
      mark ++ replaceFrom pattern mark length rest := by
  rw [replaceFrom, found]

theorem replaceFrom_skip (left right : List Letter) :
    replaceFrom pattern mark left.length (left ++ right) = replaceFrom pattern mark 0 right := by
  induction left with
  | nil => rfl
  | cons letter rest inductionHypothesis => exact inductionHypothesis

/-- A letter outside the alphabet cuts the text in two. -/
theorem replaceFrom_cut {letter : Letter} (outside : pattern.alphabet letter = false) {skip : Nat}
    {left : List Letter} (inside : skip ≤ left.length) (right : List Letter) :
    replaceFrom pattern mark skip (left ++ letter :: right) =
      replaceFrom pattern mark skip left ++ letter :: replaceFrom pattern mark 0 right := by
  induction left generalizing skip with
  | nil =>
      have start : skip = 0 := Nat.le_zero.mp inside
      rw [start, List.nil_append, replaceFrom_keep (matchLength_cons_of_outside outside right)]
      rfl
  | cons first rest inductionHypothesis =>
      rw [List.length_cons] at inside
      cases skip with
      | succ skip =>
          rw [List.cons_append, replaceFrom_succ, replaceFrom_succ,
            inductionHypothesis (by omega)]
      | zero =>
          have same := pattern.cut (first :: rest) letter right outside
          have within := pattern.length_le (first :: rest)
          rw [List.cons_append] at same ⊢
          cases found : pattern.matchLength (first :: rest) with
          | zero =>
              rw [found] at same
              rw [replaceFrom_keep same, replaceFrom_keep found, inductionHypothesis (by omega)]
              rfl
          | succ length =>
              rw [found] at same
              rw [found, List.length_cons] at within
              rw [replaceFrom_match same, replaceFrom_match found,
                inductionHypothesis (by omega), List.append_assoc]

theorem replaceAll_cut {letter : Letter} (outside : pattern.alphabet letter = false)
    (left right : List Letter) :
    replaceAll pattern mark (left ++ letter :: right) =
      replaceAll pattern mark left ++ letter :: replaceAll pattern mark right :=
  replaceFrom_cut outside (Nat.zero_le _) right

/-! ### Texts without a match -/

/-- The pattern matches nowhere in the text. -/
def Free (pattern : Pattern Letter) (text : List Letter) : Prop :=
  ∀ before after, text = before ++ after → pattern.matchLength after = 0

instance (pattern : Pattern Letter) (text : List Letter) : Decidable (pattern.Free text) :=
  decidable_of_iff (∀ after ∈ text.tails, pattern.matchLength after = 0)
    ⟨fun all before after split => all after ((List.mem_tails after text).mpr ⟨before, split.symm⟩),
      fun free after member =>
        let ⟨before, split⟩ := (List.mem_tails after text).mp member
        free before after split.symm⟩

theorem free_nil (pattern : Pattern Letter) : pattern.Free [] := by
  intro before after split
  rw [(List.append_eq_nil_iff.mp split.symm).2, matchLength_nil]

theorem free_cons {letter : Letter} (here : pattern.matchLength (letter :: text) = 0)
    (free : pattern.Free text) : pattern.Free (letter :: text) := by
  intro before after split
  cases before with
  | nil =>
      rw [List.nil_append] at split
      exact split ▸ here
  | cons first rest => exact free rest after (List.cons.inj split).2

theorem Free.tail {letter : Letter} (free : pattern.Free (letter :: text)) : pattern.Free text :=
  fun before after split => free (letter :: before) after (by rw [split, List.cons_append])

theorem Free.head (free : pattern.Free text) : pattern.matchLength text = 0 := free [] text rfl

theorem Free.of_append {more : List Letter} (free : pattern.Free (text ++ more)) :
    pattern.Free text := by
  intro before after split
  by_contra found
  refine pattern.extend after more found (free before (after ++ more) ?_)
  rw [split, List.append_assoc]

theorem Free.take (free : pattern.Free text) (count : Nat) : pattern.Free (text.take count) := by
  rw [← List.take_append_drop count text] at free
  exact free.of_append

theorem Free.append_cut {letter : Letter} (outside : pattern.alphabet letter = false)
    {left right : List Letter} (freeLeft : pattern.Free left) (freeRight : pattern.Free right) :
    pattern.Free (left ++ letter :: right) := by
  induction left with
  | nil => exact free_cons (matchLength_cons_of_outside outside right) freeRight
  | cons first rest inductionHypothesis =>
      refine free_cons ?_ (inductionHypothesis freeLeft.tail)
      exact (pattern.cut (first :: rest) letter right outside).trans freeLeft.head

theorem Free.replaceAll_eq (free : pattern.Free text) (mark : List Letter) :
    replaceAll pattern mark text = text := by
  rw [replaceAll]
  induction text with
  | nil => rfl
  | cons letter rest inductionHypothesis =>
      rw [replaceFrom_keep free.head, inductionHypothesis free.tail]

/-- A part that is free of the pattern, and that no match reaches into, stays as it is. -/
theorem replaceAll_keeps {first : Letter} {rest : List Letter}
    (opens : pattern.alphabet first = false) (free : pattern.Free (first :: rest))
    (mark before after : List Letter)
    (ends : ∀ letter ∈ after.head?, pattern.alphabet letter = false) :
    replaceAll pattern mark (before ++ (first :: rest) ++ after) =
      replaceAll pattern mark before ++ (first :: rest) ++ replaceAll pattern mark after := by
  have behind : replaceAll pattern mark (rest ++ after) = rest ++ replaceAll pattern mark after := by
    cases after with
    | nil =>
        rw [List.append_nil, free.tail.replaceAll_eq, replaceAll, replaceFrom_nil, List.append_nil]
    | cons letter after =>
        have outside := ends letter rfl
        have starts : replaceAll pattern mark (letter :: after) =
            letter :: replaceAll pattern mark after := replaceAll_cut outside [] after
        rw [replaceAll_cut outside, free.tail.replaceAll_eq, starts]
  rw [List.append_assoc, List.cons_append, replaceAll_cut opens, behind, List.append_assoc,
    List.cons_append]

/-- What stays of a text up to the first match is a start of it. -/
theorem exists_replaceFrom (pattern : Pattern Letter) (mark text : List Letter) :
    ∃ kept rest replaced, text = kept ++ rest ∧
      replaceFrom pattern mark 0 text = kept ++ replaced ∧
      (replaced = [] ∨ ∃ later, replaced = mark ++ later) := by
  induction text with
  | nil => exact ⟨[], [], [], rfl, rfl, Or.inl rfl⟩
  | cons letter text inductionHypothesis =>
      cases found : pattern.matchLength (letter :: text) with
      | zero =>
          obtain ⟨kept, rest, replaced, split, result, ends⟩ := inductionHypothesis
          refine ⟨letter :: kept, rest, replaced, by rw [split]; rfl, ?_, ends⟩
          rw [replaceFrom_keep found, result]
          rfl
      | succ length =>
          exact ⟨[], letter :: text, _, rfl, replaceFrom_match found, Or.inr ⟨_, rfl⟩⟩

/-- A pattern that matches nowhere but where the replaced one does matches nowhere in the
result, if the mark neither has a match nor is part of one. -/
theorem free_replaceFrom {first last : Letter} {middle : List Letter}
    (opens : other.alphabet first = false) (closes : other.alphabet last = false)
    (unmarked : other.Free (first :: middle)) {skip : Nat}
    (only : ∀ before after, text = before ++ after → pattern.matchLength after = 0 →
      other.matchLength after = 0) :
    other.Free (replaceFrom pattern (first :: middle ++ [last]) skip text) := by
  induction text generalizing skip with
  | nil =>
      rw [replaceFrom_nil]
      exact free_nil other
  | cons letter rest inductionHypothesis =>
      have onlyLater : ∀ before after, rest = before ++ after → pattern.matchLength after = 0 →
          other.matchLength after = 0 := fun before after split =>
        only (letter :: before) after (by rw [split, List.cons_append])
      cases skip with
      | succ skip => exact inductionHypothesis onlyLater
      | zero =>
          cases found : pattern.matchLength (letter :: rest) with
          | zero =>
              have nowhere := only [] (letter :: rest) rfl found
              rw [replaceFrom_keep found]
              refine free_cons ?_ (inductionHypothesis onlyLater)
              obtain ⟨kept, later, replaced, split, result, ends⟩ :=
                exists_replaceFrom pattern (first :: middle ++ [last]) rest
              have start : other.matchLength (letter :: kept) = 0 := by
                by_contra some'
                refine other.extend (letter :: kept) later some' ?_
                rwa [List.cons_append, ← split]
              rw [result]
              rcases ends with rfl | ⟨more, rfl⟩
              · rwa [List.append_nil]
              · exact (other.cut (letter :: kept) first _ opens).trans start
          | succ length =>
              rw [replaceFrom_match found, List.append_assoc, List.singleton_append]
              exact unmarked.append_cut closes (inductionHypothesis onlyLater)

/-! ### Patterns of one length -/

/-- The text starts with one letter of each class. -/
def startsWith : List (Letter → Bool) → List Letter → Bool
  | [], _ => true
  | _ :: _, [] => false
  | accepts :: classes, letter :: text => accepts letter && startsWith classes text

theorem startsWith_length {classes : List (Letter → Bool)} {text : List Letter}
    (starts : startsWith classes text = true) : classes.length ≤ text.length := by
  induction classes generalizing text with
  | nil => exact Nat.zero_le _
  | cons accepts classes inductionHypothesis =>
      cases text with
      | nil => cases starts
      | cons letter text =>
          rw [startsWith, Bool.and_eq_true] at starts
          exact Nat.succ_le_succ (inductionHypothesis starts.2)

theorem startsWith_cut {classes : List (Letter → Bool)} {letter : Letter}
    (outside : (classes.any fun accepts => accepts letter) = false) (text rest : List Letter) :
    startsWith classes (text ++ letter :: rest) = startsWith classes text := by
  induction classes generalizing text with
  | nil => rfl
  | cons accepts classes inductionHypothesis =>
      rw [List.any_cons, Bool.or_eq_false_iff] at outside
      cases text with
      | nil => rw [List.nil_append, startsWith, startsWith, outside.1, Bool.false_and]
      | cons first text =>
          rw [List.cons_append, startsWith, startsWith, inductionHypothesis outside.2]

theorem startsWith_extend {classes : List (Letter → Bool)} {text : List Letter}
    (starts : startsWith classes text = true) (more : List Letter) :
    startsWith classes (text ++ more) = true := by
  induction classes generalizing text with
  | nil => rfl
  | cons accepts classes inductionHypothesis =>
      cases text with
      | nil => cases starts
      | cons letter text =>
          rw [startsWith, Bool.and_eq_true] at starts
          rw [List.cons_append, startsWith, starts.1, inductionHypothesis starts.2, Bool.and_true]

/-- One letter of each class. -/
def fixed (classes : List (Letter → Bool)) : Pattern Letter where
  alphabet letter := classes.any fun accepts => accepts letter
  matchLength text := if startsWith classes text then classes.length else 0
  length_le text := by
    split
    · exact startsWith_length ‹_›
    · exact Nat.zero_le _
  cut text letter rest outside := by rw [startsWith_cut outside]
  extend text more found := by
    have starts : startsWith classes text = true := by
      by_contra never
      rw [if_neg never] at found
      exact found rfl
    rw [if_pos (startsWith_extend starts more)]
    rwa [if_pos starts] at found

/-- Which letters stand for the classes is not seen in the result. -/
theorem replaceFrom_fixed {classes : List (Letter → Bool)} {token : List Letter}
    (positive : token ≠ []) (starts : startsWith classes token = true)
    (length : token.length = classes.length) (after : List Letter) :
    replaceFrom (fixed classes) mark 0 (token ++ after) =
      mark ++ replaceFrom (fixed classes) mark 0 after := by
  obtain ⟨first, rest, rfl⟩ := List.exists_cons_of_ne_nil positive
  have found : (fixed classes).matchLength (first :: rest ++ after) = rest.length + 1 := by
    show (if startsWith classes (first :: rest ++ after) then classes.length else 0) = _
    rw [if_pos (startsWith_extend starts after), ← length]
    rfl
  rw [List.cons_append] at found ⊢
  rw [replaceFrom_match found, replaceFrom_skip]

/-! ### Tagged runs -/

section Tagged

variable [DecidableEq Letter] {fold : Letter → Letter} {tags : List (List Letter)}
  {body : Letter → Bool}

/-- The text starts with the tag, up to case, and goes on with a letter of the body. -/
def startsTag (fold : Letter → Letter) (body : Letter → Bool) (text tag : List Letter) : Bool :=
  tag.isPrefixOf (text.map fold) && (text.drop tag.length).head?.any body

theorem startsTag_iff {tag : List Letter} : startsTag fold body text tag = true ↔
    ∃ start first rest, text = start ++ first :: rest ∧ start.map fold = tag ∧
      body first = true := by
  rw [startsTag, Bool.and_eq_true, List.isPrefixOf_iff_prefix]
  constructor
  · rintro ⟨starts, goesOn⟩
    have taken : (text.take tag.length).map fold = tag := by
      rw [List.map_take]
      exact List.prefix_iff_eq_take.mp starts |>.symm
    cases behind : text.drop tag.length with
    | nil =>
        rw [behind] at goesOn
        cases goesOn
    | cons first rest =>
        rw [behind] at goesOn
        refine ⟨text.take tag.length, first, rest, ?_, taken, goesOn⟩
        rw [← behind, List.take_append_drop]
  · rintro ⟨start, first, rest, rfl, rfl, goesOn⟩
    refine ⟨?_, ?_⟩
    · rw [List.map_append]
      exact List.prefix_append _ _
    · rw [List.length_map, List.drop_left]
      exact goesOn

theorem startsTag_extend {tag : List Letter} (starts : startsTag fold body text tag = true)
    (more : List Letter) : startsTag fold body (text ++ more) tag = true := by
  obtain ⟨start, first, rest, rfl, folded, goesOn⟩ := startsTag_iff.mp starts
  exact startsTag_iff.mpr ⟨start, first, rest ++ more, by simp, folded, goesOn⟩

theorem startsTag_cut {letter : Letter} {tag : List Letter} (outside : body letter = false)
    (untagged : fold letter ∉ tag) (rest : List Letter) :
    startsTag fold body (text ++ letter :: rest) tag = startsTag fold body text tag := by
  refine Bool.eq_iff_iff.mpr ⟨fun starts => ?_, fun starts => startsTag_extend starts _⟩
  obtain ⟨start, first, behind, split, rfl, goesOn⟩ := startsTag_iff.mp starts
  refine startsTag_iff.mpr ?_
  rcases List.append_eq_append_iff.mp split with ⟨middle, rfl, later⟩ | ⟨middle, rfl, later⟩
  · -- The tag would have the letter, or the letter would be the one behind it.
    cases middle with
    | nil =>
        rw [List.nil_append, List.cons.injEq] at later
        rw [later.1, goesOn] at outside
        cases outside
    | cons other middle =>
        rw [List.cons_append, List.cons.injEq] at later
        refine absurd ?_ untagged
        rw [later.1, List.map_append]
        exact List.mem_append_right _ (List.mem_cons_self ..)
  · cases middle with
    | nil =>
        rw [List.nil_append, List.cons.injEq] at later
        rw [← later.1, goesOn] at outside
        cases outside
    | cons other middle =>
        rw [List.cons_append, List.cons.injEq] at later
        exact ⟨start, first, middle, by rw [later.1], rfl, goesOn⟩

omit [DecidableEq Letter] in
theorem takeWhile_cut {letter : Letter} (outside : body letter = false) (text rest : List Letter) :
    (text ++ letter :: rest).takeWhile body = text.takeWhile body := by
  rw [List.takeWhile_append]
  split
  · rename_i everything
    have whole := (List.takeWhile_prefix body (l := text)).eq_of_length everything
    rw [List.takeWhile_cons_of_neg (by rw [outside]; exact Bool.false_ne_true), List.append_nil,
      whole]
  · rfl

/-- The length of the first tag that starts the text, and of the run of the body behind it. -/
def taggedLength (fold : Letter → Letter) (tags : List (List Letter)) (body : Letter → Bool)
    (text : List Letter) : Nat :=
  match tags.find? (startsTag fold body text) with
  | none => 0
  | some tag => tag.length + ((text.drop tag.length).takeWhile body).length

theorem taggedLength_of_startsTag {tag : List Letter} (member : tag ∈ tags)
    (starts : startsTag fold body text tag = true) :
    ∃ start first rest, text = start ++ first :: rest ∧ start.map fold ∈ tags ∧
      body first = true ∧ taggedLength fold tags body text =
        start.length + ((first :: rest).takeWhile body).length := by
  cases found : tags.find? (startsTag fold body text) with
  | none => exact absurd starts (List.find?_eq_none.mp found tag member)
  | some other =>
      obtain ⟨start, first, rest, rfl, rfl, goesOn⟩ := startsTag_iff.mp (List.find?_some found)
      refine ⟨start, first, rest, rfl, List.mem_of_find?_eq_some found, goesOn, ?_⟩
      rw [taggedLength, found]
      show (start.map fold).length + _ = _
      rw [List.length_map, List.drop_left]

theorem taggedLength_ne_zero_iff : taggedLength fold tags body text ≠ 0 ↔
    ∃ tag ∈ tags, startsTag fold body text tag = true := by
  constructor
  · intro some'
    by_contra never
    refine some' ?_
    have none' : tags.find? (startsTag fold body text) = none :=
      List.find?_eq_none.mpr fun tag member starts => never ⟨tag, member, starts⟩
    rw [taggedLength, none']
  · rintro ⟨tag, member, starts⟩
    obtain ⟨start, first, rest, -, -, goesOn, length⟩ := taggedLength_of_startsTag member starts
    rw [length, List.takeWhile_cons_of_pos goesOn, List.length_cons]
    omega

/-- `(tag|tag|..)body+`, the tags up to case. -/
def tagged (fold : Letter → Letter) (tags : List (List Letter)) (body : Letter → Bool)
    (inBody : ∀ letter, body letter = false → ∀ tag ∈ tags, fold letter ∉ tag) :
    Pattern Letter where
  alphabet := body
  matchLength := taggedLength fold tags body
  length_le text := by
    by_cases none' : taggedLength fold tags body text = 0
    · rw [none']
      exact Nat.zero_le _
    · obtain ⟨tag, member, starts⟩ := taggedLength_ne_zero_iff.mp none'
      obtain ⟨start, first, rest, rfl, -, -, length⟩ := taggedLength_of_startsTag member starts
      have within := (List.takeWhile_prefix body (l := first :: rest)).length_le
      rw [length, List.length_append]
      omega
  cut text letter rest outside := by
    have same : tags.find? (startsTag fold body (text ++ letter :: rest)) =
        tags.find? (startsTag fold body text) := by
      rw [← List.head?_filter, ← List.head?_filter]
      exact congrArg _ (List.filter_congr fun tag member =>
        startsTag_cut outside (inBody letter outside tag member) rest)
    rw [taggedLength, taggedLength, same]
    cases found : tags.find? (startsTag fold body text) with
    | none => rfl
    | some tag =>
        obtain ⟨start, first, behind, rfl, rfl, -⟩ := startsTag_iff.mp (List.find?_some found)
        show (start.map fold).length + _ = (start.map fold).length + _
        rw [List.length_map, List.append_assoc, List.drop_left, List.drop_left,
          takeWhile_cut outside]
  extend text more found := by
    obtain ⟨tag, member, starts⟩ := taggedLength_ne_zero_iff.mp found
    exact taggedLength_ne_zero_iff.mpr ⟨tag, member, startsTag_extend starts more⟩

variable {inBody : ∀ letter, body letter = false → ∀ tag ∈ tags, fold letter ∉ tag}

/-- No tag starts within another one. -/
def Apart (tags : List (List Letter)) : Prop :=
  ∀ tag ∈ tags, ∀ other ∈ tags, ∀ count < tag.length, 0 < count →
    ¬ tag.drop count <+: other ∧ ¬ other <+: tag.drop count

instance : Decidable (Apart tags) :=
  inferInstanceAs (Decidable (∀ tag ∈ tags, ∀ other ∈ tags, ∀ count < tag.length, 0 < count →
    ¬ tag.drop count <+: other ∧ ¬ other <+: tag.drop count))

/-- In letters of the body alone a match goes on to the end. -/
theorem matchLength_tagged_run {text : List Letter} (run : ∀ letter ∈ text, body letter = true) :
    (tagged fold tags body inBody).matchLength text = 0 ∨
      (tagged fold tags body inBody).matchLength text = text.length := by
  refine or_iff_not_imp_left.mpr fun some' => ?_
  obtain ⟨tag, member, starts⟩ := taggedLength_ne_zero_iff.mp some'
  obtain ⟨start, first, rest, rfl, -, -, length⟩ := taggedLength_of_startsTag member starts
  have everything : (first :: rest).takeWhile body = first :: rest :=
    List.takeWhile_eq_self_iff.mpr fun letter within => run letter (List.mem_append_right _ within)
  show taggedLength fold tags body _ = _
  rw [length, everything, List.length_append]

/-- Before a tagged run, a match does not depend on what the run is. -/
theorem matchLength_tagged_before (apart : Apart tags) {before key run other : List Letter}
    (positive : before ≠ []) (isTag : key.map fold ∈ tags)
    (matched : (tagged fold tags body inBody).matchLength (before ++ (key ++ run)) ≠ 0)
    (some' : other ≠ []) (runs : ∀ letter ∈ before ++ (key ++ other), body letter = true) :
    (tagged fold tags body inBody).matchLength (before ++ (key ++ other)) ≠ 0 := by
  obtain ⟨tag, member, starts⟩ := taggedLength_ne_zero_iff.mp matched
  refine taggedLength_ne_zero_iff.mpr ⟨tag, member, ?_⟩
  obtain ⟨start, first, rest, split, rfl, goesOn⟩ := startsTag_iff.mp starts
  have within (middle : List Letter) (whole : before = start ++ middle) :
      startsTag fold body (before ++ (key ++ other)) (start.map fold) = true := by
    have behind : middle ++ (key ++ other) ≠ [] := by simp [some']
    obtain ⟨next, more, goesOn⟩ := List.exists_cons_of_ne_nil behind
    refine startsTag_iff.mpr ⟨start, next, more, ?_, rfl, ?_⟩
    · rw [whole, List.append_assoc, goesOn]
    · refine runs next ?_
      rw [whole, List.append_assoc, goesOn]
      exact List.mem_append_right _ (List.mem_cons_self ..)
  rcases List.append_eq_append_iff.mp split with ⟨middle, rfl, later⟩ | ⟨middle, whole, -⟩
  · by_cases ends : middle = []
    · exact within [] (by rw [ends, List.append_nil, List.append_nil])
    · -- The tag that starts before the key would overlap the tag of the key.
      have shorter : before.length < ((before ++ middle).map fold).length := by
        have rest := List.length_pos_of_ne_nil ends
        rw [List.length_map, List.length_append]
        omega
      have none' := apart _ member _ isTag before.length shorter (List.length_pos_of_ne_nil positive)
      rw [← List.map_drop, List.drop_left] at none'
      have inside : middle <+: key ++ run := later ▸ List.prefix_append _ _
      rcases List.prefix_or_prefix_of_prefix inside (List.prefix_append key run) with
        shorter | longer
      · exact absurd (shorter.map fold) none'.1
      · exact absurd (longer.map fold) none'.2
  · exact within middle whole

/-- A match in letters of the body alone leaves the mark. -/
theorem replaceFrom_run {text : List Letter} (run : ∀ letter ∈ text, body letter = true)
    (some' : (tagged fold tags body inBody).matchLength text ≠ 0) :
    replaceFrom (tagged fold tags body inBody) mark 0 text = mark := by
  have whole : (tagged fold tags body inBody).matchLength text = text.length :=
    (matchLength_tagged_run run).resolve_left some'
  cases text with
  | nil => exact absurd (matchLength_nil _) some'
  | cons letter rest =>
      have nothing : replaceFrom (tagged fold tags body inBody) mark rest.length (rest ++ []) =
          replaceFrom (tagged fold tags body inBody) mark 0 [] := replaceFrom_skip rest []
      rw [List.append_nil, replaceFrom_nil] at nothing
      rw [replaceFrom_match whole, nothing, List.append_nil]

/-- The result does not depend on the run behind a tag, wherever a match before it ends. -/
theorem replaceFrom_tagged (apart : Apart tags) {before key run other : List Letter}
    {skip : Nat} (inside : skip ≤ before.length) (isTag : key.map fold ∈ tags)
    (some' : run ≠ [] ∧ other ≠ []) (runs : ∀ letter ∈ key ++ run, body letter = true)
    (others : ∀ letter ∈ key ++ other, body letter = true) :
    replaceFrom (tagged fold tags body inBody) mark skip (before ++ (key ++ run)) =
      replaceFrom (tagged fold tags body inBody) mark skip (before ++ (key ++ other)) := by
  induction before generalizing skip with
  | nil =>
      have found (letters : List Letter) (positive : letters ≠ [])
          (all : ∀ letter ∈ key ++ letters, body letter = true) :
          (tagged fold tags body inBody).matchLength (key ++ letters) ≠ 0 := by
        obtain ⟨first, rest, rfl⟩ := List.exists_cons_of_ne_nil positive
        exact taggedLength_ne_zero_iff.mpr ⟨_, isTag, startsTag_iff.mpr
          ⟨key, first, rest, rfl, rfl, all first (by simp)⟩⟩
      have start : skip = 0 := Nat.le_zero.mp inside
      rw [start, List.nil_append, List.nil_append, replaceFrom_run runs (found run some'.1 runs),
        replaceFrom_run others (found other some'.2 others)]
  | cons letter before inductionHypothesis =>
      cases skip with
      | succ skip => exact inductionHypothesis (Nat.le_of_succ_le_succ inside)
      | zero =>
          have keep := inductionHypothesis (Nat.zero_le _)
          by_cases all : ∀ found ∈ letter :: before, body found = true
          · have everywhere (letters : List Letter) (rest : ∀ found ∈ key ++ letters,
                body found = true) : ∀ found ∈ letter :: before ++ (key ++ letters),
                  body found = true := fun found member =>
              (List.mem_append.mp member).elim (all found) (rest found)
            have started := List.cons_ne_nil letter before
            by_cases none' : (tagged fold tags body inBody).matchLength
                (letter :: before ++ (key ++ run)) = 0
            · have also : (tagged fold tags body inBody).matchLength
                  (letter :: before ++ (key ++ other)) = 0 := by
                by_contra found
                exact matchLength_tagged_before apart started isTag found some'.1
                  (everywhere run runs) none'
              rw [List.cons_append] at none' also ⊢
              rw [replaceFrom_keep none', List.cons_append, replaceFrom_keep also, keep]
            · rw [replaceFrom_run (everywhere run runs) none',
                replaceFrom_run (everywhere other others) (matchLength_tagged_before apart started
                  isTag none' some'.2 (everywhere other others))]
          · push Not at all
            obtain ⟨found, member, outside⟩ := all
            replace outside := Bool.eq_false_iff.mpr outside
            obtain ⟨start, behind, split⟩ := List.append_of_mem member
            have same (letters : List Letter) : (tagged fold tags body inBody).matchLength
                (letter :: (before ++ letters)) =
                  (tagged fold tags body inBody).matchLength start := by
              rw [← List.cons_append, split, List.append_assoc, List.cons_append]
              exact (tagged fold tags body inBody).cut start found _ outside
            have within := (tagged fold tags body inBody).length_le start
            have length := congrArg List.length split
            rw [List.length_append, List.length_cons, List.length_cons] at length
            rw [List.cons_append, List.cons_append]
            cases matched : (tagged fold tags body inBody).matchLength start with
            | zero => rw [replaceFrom_keep ((same _).trans matched),
                replaceFrom_keep ((same _).trans matched), keep]
            | succ count =>
                rw [matched] at within
                rw [replaceFrom_match ((same _).trans matched),
                  replaceFrom_match ((same _).trans matched),
                  inductionHypothesis (by omega)]

/-- Of a tagged run that ends before a letter outside the body nothing is told. -/
theorem replaceAll_tagged (apart : Apart tags) {key run other : List Letter}
    (isTag : key.map fold ∈ tags) (some' : run ≠ [] ∧ other ≠ [])
    (runs : ∀ letter ∈ key ++ run, body letter = true)
    (others : ∀ letter ∈ key ++ other, body letter = true) (before after : List Letter)
    (ends : ∀ letter ∈ after.head?, body letter = false) :
    replaceAll (tagged fold tags body inBody) mark (before ++ (key ++ run) ++ after) =
      replaceAll (tagged fold tags body inBody) mark (before ++ (key ++ other) ++ after) := by
  have same : replaceAll (tagged fold tags body inBody) mark (before ++ (key ++ run)) =
      replaceAll (tagged fold tags body inBody) mark (before ++ (key ++ other)) :=
    replaceFrom_tagged apart (Nat.zero_le _) isTag some' runs others
  cases after with
  | nil => rw [List.append_nil, List.append_nil, same]
  | cons letter rest =>
      have outside : (tagged fold tags body inBody).alphabet letter = false := ends letter rfl
      rw [replaceAll_cut outside, replaceAll_cut outside, same]

end Tagged

end Pattern

end LlmObs.Foundation
