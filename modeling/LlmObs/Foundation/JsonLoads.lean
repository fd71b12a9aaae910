import LlmObs.Foundation.JsonParse

/-!
Owns what `json.loads` makes of the texts that `json.dumps` writes: a document is read as
it was written whatever it nests, a text of a container that was cut short is refused, and
room for more open containers changes no value that was read.
-/

namespace LlmObs.Foundation

namespace JsonScanner

open JsonParse (Delimited firstStage? next?_of_delimiter delimited_comma delimited_bracket
  delimited_brace)

/-! ### Room for containers -/

theorem stepWithin_mono {limit bigger : Nat} (more : limit ≤ bigger) {scan next : Scan}
    {character : Char} (stepped : stepWithin limit scan character = .ok next) :
    stepWithin bigger scan character = .ok next := by
  rw [stepWithin] at stepped ⊢
  cases reached : step scan character with
  | none => rw [reached] at stepped; cases stepped
  | some other =>
      simp only [reached] at stepped ⊢
      split at stepped
      · cases stepped
      · rename_i within
        have room : ¬ bigger < other.stack.length := by omega
        rw [if_neg room]
        exact stepped

theorem run_mono {limit bigger : Nat} (more : limit ≤ bigger) {scan final : Scan}
    {text : List Char} (ran : run limit scan text = .ok final) :
    run bigger scan text = .ok final := by
  induction text generalizing scan with
  | nil => exact ran
  | cons character rest inductionHypothesis =>
      rw [run_cons] at ran ⊢
      cases stepped : stepWithin limit scan character with
      | error failure => rw [stepped] at ran; cases ran
      | ok next =>
          rw [stepped] at ran
          rw [stepWithin_mono more stepped]
          exact inductionHypothesis ran

/-- A value that was read is read with more room too. -/
theorem loads_mono {limit bigger : Nat} (more : limit ≤ bigger) {text : List Char}
    {value : Value} (read : loads limit text = .ok value) : loads bigger text = .ok value := by
  rw [loads] at read ⊢
  cases ran : run limit start text with
  | error failure => rw [ran] at read; cases read
  | ok final =>
      rw [ran] at read
      rw [run_mono more ran]
      exact read

theorem run_append (limit : Nat) (scan : Scan) (first second : List Char) :
    run limit scan (first ++ second) =
      run limit scan first >>= fun next => run limit next second := by
  rw [run, List.foldlM_append]
  rfl

/-! ### Numbers -/

/-- The stage that the text of a number ends in. -/
def stageOf? : List Char → Option NumberStage
  | [] => none
  | character :: rest =>
      (firstStage? character).bind fun stage => rest.foldlM NumberStage.next? stage

/-- The text is a number that `json.loads` reads whole. -/
def IsNumber (text : List Char) : Prop :=
  ∃ stage, stageOf? text = some stage ∧ endNumber stage text = some (.number text)

theorem stageOf?_append {text : List Char} {stage : NumberStage}
    (reached : stageOf? text = some stage) (rest : List Char) :
    stageOf? (text ++ rest) = rest.foldlM NumberStage.next? stage := by
  cases text with
  | nil => cases reached
  | cons character others =>
      obtain ⟨first, starts, goesOn⟩ := Option.bind_eq_some_iff.mp reached
      rw [List.cons_append, stageOf?, starts, Option.bind_some, List.foldlM_append, goesOn]
      rfl

/-- Induction on the characters of the number that are left. -/
theorem run_literal {limit : Nat} {stack : List Container} (room : stack.length ≤ limit)
    {stage reached : NumberStage} (literal : List Char) {rest : List Char}
    (goesOn : rest.foldlM NumberStage.next? stage = some reached) (after : List Char) :
    run limit ⟨.number stage literal, stack⟩ (rest ++ after) =
      run limit ⟨.number reached (literal ++ rest), stack⟩ after := by
  induction rest generalizing stage literal with
  | nil =>
      rw [Option.some.inj goesOn, List.append_nil, List.nil_append]
  | cons character others inductionHypothesis =>
      obtain ⟨next, continued, later⟩ := Option.bind_eq_some_iff.mp goesOn
      have read : step ⟨.number stage literal, stack⟩ character =
          some ⟨.number next (literal ++ [character]), stack⟩ := by
        simp only [step, continued]
      rw [List.cons_append, run_of_step read room, inductionHypothesis _ later,
        List.append_assoc, List.singleton_append]

/-- The first character of a number opens a value, and nothing else. -/
theorem step_firstStage {character : Char} {stage : NumberStage}
    (first : firstStage? character = some stage) (stack : List Container) :
    step ⟨.value, stack⟩ character = some ⟨.number stage [character], stack⟩ := by
  obtain ⟨notBlank, _, _, notQuote, notList, notObject, notNull, notTrue, notFalse⟩ :=
    JsonParse.opens_of_firstStage first
  have notNan : character ≠ 'N' := by rintro rfl; cases first
  have notInfinity : character ≠ 'I' := by rintro rfl; cases first
  simp only [firstStage?] at first
  simp only [step, notBlank, startValue, notQuote, notList, notObject, notNull, notTrue, notFalse,
    notNan, notInfinity, if_false, Bool.false_eq_true]
  split at first
  · rename_i minus
    rw [← Option.some.inj first, if_pos minus, minus]
  · rename_i notMinus
    rw [if_neg notMinus]
    split at first
    · rename_i zero
      rw [← Option.some.inj first, if_pos zero, zero]
    · rename_i notZero
      rw [if_neg notZero]
      split at first
      · rename_i digit
        rw [← Option.some.inj first, if_pos digit]
      · cases first

theorem run_isNumber {limit : Nat} {stack : List Container} (room : stack.length ≤ limit)
    {text : List Char} {stage : NumberStage} (reached : stageOf? text = some stage)
    (after : List Char) :
    run limit ⟨.value, stack⟩ (text ++ after) =
      run limit ⟨.number stage text, stack⟩ after := by
  cases text with
  | nil => cases reached
  | cons character rest =>
      obtain ⟨first, starts, goesOn⟩ := Option.bind_eq_some_iff.mp reached
      rw [List.cons_append, run_of_step (step_firstStage starts stack) room,
        run_literal room [character] goesOn]
      rfl

/-- A number ends before a delimiter, as a value that was complete before. -/
theorem step_number_delimiter {stack : List Container} {stage : NumberStage}
    {literal : List Char} {value : Value} (ended : endNumber stage literal = some value)
    {character : Char} (delimiter : character = ',' ∨ character = ']' ∨ character = '\x7d') :
    step ⟨.number stage literal, stack⟩ character = step (complete value stack) character := by
  have notWord : ¬ (stage = .minus ∧ character = 'I') := by
    rintro ⟨rfl, _⟩
    cases ended
  have completed : step (complete value stack) character =
      afterValue (complete value stack) character := by
    cases stack with
    | nil => rfl
    | cons container others => cases container <;> rfl
  rw [completed]
  simp only [step, next?_of_delimiter delimiter, notWord, if_false, ended, Option.bind_some]

theorem run_number {limit : Nat} {stack : List Container} (room : stack.length ≤ limit)
    {text : List Char} (isNumber : IsNumber text) {character : Char}
    (delimiter : character = ',' ∨ character = ']' ∨ character = '\x7d') (after : List Char) :
    run limit ⟨.value, stack⟩ (text ++ character :: after) =
      run limit (complete (.number text) stack) (character :: after) := by
  obtain ⟨stage, reached, ended⟩ := isNumber
  rw [run_isNumber room reached, run_cons, run_cons, stepWithin, stepWithin,
    step_number_delimiter ended delimiter]

/-- The digits of a number, by induction on the last of them. -/
theorem stageOf?_toDigits (number : Nat) :
    stageOf? (Nat.toDigits 10 number) = some (if number = 0 then .zero else .integer) := by
  induction number using Nat.strongRecOn with
  | ind number inductionHypothesis =>
      by_cases short : number < 10
      · rw [Nat.toDigits_of_lt_base short]
        have checked : ∀ digit < 10, stageOf? [Nat.digitChar digit] =
            some (if digit = 0 then .zero else .integer) := by decide
        exact checked number short
      · have front := inductionHypothesis (number / 10) (by omega)
        have positive : number / 10 ≠ 0 := by omega
        have notZero : number ≠ 0 := by omega
        have goesOn : ∀ digit < 10, NumberStage.integer.next? (Nat.digitChar digit) =
            some .integer := by decide
        rw [if_neg positive] at front
        rw [Nat.toDigits_of_base_le (by decide) (by omega), stageOf?_append front, if_neg notZero,
          List.foldlM_cons, goesOn _ (Nat.mod_lt _ (by decide))]
        rfl

/-- A sign changes nothing but the first character. -/
theorem stageOf?_minus {text : List Char} {stage : NumberStage}
    (reached : stageOf? text = some stage) (digits : ∀ character ∈ text, character ≠ '-') :
    stageOf? ('-' :: text) = some stage := by
  cases text with
  | nil => cases reached
  | cons character rest =>
      obtain ⟨first, starts, goesOn⟩ := Option.bind_eq_some_iff.mp reached
      have notMinus := digits character (List.mem_cons_self ..)
      have begins : NumberStage.minus.next? character = some first := by
        simpa [firstStage?, notMinus, NumberStage.next?] using starts
      show (character :: rest).foldlM NumberStage.next? NumberStage.minus = some stage
      rw [List.foldlM_cons, begins]
      exact goesOn

/-- An integer with as many digits as `int` reads is a number of JSON. -/
theorem isNumber_int {value : Int} (short : value.natAbs < 10 ^ maxStrDigits) :
    IsNumber (toString value).toList := by
  have digits : ∀ number : Nat, ∀ character ∈ Nat.toDigits 10 number, character ≠ '-' := by
    rintro number character member rfl
    exact absurd (Nat.isDigit_of_mem_toDigits (by decide) (by decide) member) (by decide)
  have length : (Nat.toDigits 10 value.natAbs).length ≤ maxStrDigits :=
    (Nat.length_toDigits_le_iff (by decide) (by decide)).mpr short
  have ends : ∀ text : List Char, (text.filter isDigit).length ≤ maxStrDigits →
      endNumber (if value.natAbs = 0 then .zero else .integer) text = some (.number text) := by
    intro text few
    split
    · rfl
    · exact if_pos few
  have reached := stageOf?_toDigits value.natAbs
  cases value with
  | ofNat number =>
      have text : (toString (Int.ofNat number)).toList = Nat.toDigits 10 number := Nat.toList_repr
      rw [text]
      exact ⟨_, reached, ends _ ((List.length_filter_le _ _).trans length)⟩
  | negSucc number =>
      have text : (toString (Int.negSucc number)).toList = '-' :: Nat.toDigits 10 (number + 1) := by
        show ("-" ++ (number + 1).repr).toList = _
        rw [String.toList_append, Nat.toList_repr]
        rfl
      rw [text]
      refine ⟨_, stageOf?_minus reached (digits _), ends _ ?_⟩
      have sign : isDigit '-' = false := by decide
      rw [List.filter_cons_of_neg (by simp [sign])]
      exact (List.length_filter_le _ _).trans length

/-! ### Documents as they are read -/

section Documents

variable (floatRepr : ℚ → String)

mutual

/-- The value that `json.loads` reads for a document. -/
def ofJson : Json → Value
  | .null => .null
  | .bool value => .bool value
  | .int value => .number (toString value).toList
  | .float value => .number (floatRepr value).toList
  | .str text => .str (.ofString text)
  | .arr items => .arr (ofJsonItems items)
  | .obj entries => .obj (ofJsonEntries entries)

def ofJsonItems : List Json → List Value
  | [] => []
  | item :: rest => ofJson item :: ofJsonItems rest

def ofJsonEntries : List (String × Json) → List (PyStr × Value)
  | [] => []
  | (key, value) :: rest => (.ofString key, ofJson value) :: ofJsonEntries rest

end

mutual

/-- Every number of the document is written as one that is read. -/
def Written : Json → Prop
  | .int value => IsNumber (toString value).toList
  | .float value => IsNumber (floatRepr value).toList
  | .arr items => WrittenItems items
  | .obj entries => WrittenEntries entries
  | _ => True

def WrittenItems : List Json → Prop
  | [] => True
  | item :: rest => Written item ∧ WrittenItems rest

def WrittenEntries : List (String × Json) → Prop
  | [] => True
  | (_, value) :: rest => Written value ∧ WrittenEntries rest

end

end Documents

mutual

/-- How many containers the text of a document has open at once. -/
def openContainers : Json → Nat
  | .arr items => openInItems items + 1
  | .obj entries => openInEntries entries + 1
  | _ => 0

def openInItems : List Json → Nat
  | [] => 0
  | item :: rest => max (openContainers item) (openInItems rest)

def openInEntries : List (String × Json) → Nat
  | [] => 0
  | (_, value) :: rest => max (openContainers value) (openInEntries rest)

end

/-! ### Documents as they are written -/

section Written

variable {floatRepr : ℚ → String} {limit : Nat}

theorem length_complete (value : Value) (stack : List Container) :
    (complete value stack).stack.length = stack.length := by
  cases stack with
  | nil => rfl
  | cons container others => cases container <;> rfl

/-- A word is read up to its end. -/
theorem run_word {stack : List Container} (room : stack.length ≤ limit) (value : Value)
    (first : Char) (rest after : List Char) :
    run limit ⟨.word (first :: rest) value, stack⟩ (first :: rest ++ after) =
      run limit (complete value stack) after := by
  induction rest generalizing first with
  | nil =>
      have read : step ⟨.word [first] value, stack⟩ first = some (complete value stack) := by
        simp [step]
      have roomAfter : (complete value stack).stack.length ≤ limit := by
        rw [length_complete]
        exact room
      exact run_of_step read roomAfter after
  | cons next others inductionHypothesis =>
      have read : step ⟨.word (first :: next :: others) value, stack⟩ first =
          some ⟨.word (next :: others) value, stack⟩ := by
        simp [step]
      rw [List.cons_append, run_of_step read room]
      exact inductionHypothesis next

/-- A text that begins a value where an array may also end. -/
def Begins (text : List Char) : Prop :=
  ∃ character rest, text = character :: rest ∧ isBlank character = false ∧ character ≠ ']'

theorem run_firstItem {text : List Char} (begins : Begins text) (stack : List Container) :
    run limit ⟨.firstItem, stack⟩ text = run limit ⟨.value, stack⟩ text := by
  obtain ⟨character, rest, rfl, notBlank, notEnd⟩ := begins
  have same : step ⟨.firstItem, stack⟩ character = step ⟨.value, stack⟩ character := by
    simp [step, notBlank, notEnd]
  rw [run_cons, run_cons, stepWithin, stepWithin, same]

theorem begins_dumps (document : Json) (written : Written floatRepr document)
    (after : List Char) : Begins (document.dumpsDefault floatRepr ++ after) := by
  have number : ∀ text : List Char, IsNumber text → Begins (text ++ after) := by
    rintro text ⟨stage, reached, _⟩
    cases text with
    | nil => cases reached
    | cons character rest =>
        obtain ⟨first, starts, _⟩ := Option.bind_eq_some_iff.mp reached
        obtain ⟨notBlank, notEnd, _⟩ := JsonParse.opens_of_firstStage starts
        exact ⟨character, rest ++ after, rfl, notBlank, notEnd⟩
  match document, written with
  | .null, _ => exact ⟨'n', _, rfl, by decide, by decide⟩
  | .bool true, _ => exact ⟨'t', _, rfl, by decide, by decide⟩
  | .bool false, _ => exact ⟨'f', _, rfl, by decide, by decide⟩
  | .int value, written => exact number _ written
  | .float value, written => exact number _ written
  | .str text, _ =>
      exact ⟨'"', _, JsonParse.quote_append text after, by decide, by decide⟩
  | .arr items, _ => exact ⟨'[', _, rfl, by decide, by decide⟩
  | .obj entries, _ => exact ⟨'\x7b', _, rfl, by decide, by decide⟩

/-- A key, up to the value behind it. -/
theorem run_key {stack : List Container} {mode : Mode} (room : stack.length + 1 ≤ limit)
    (entries : List (PyStr × Value)) (previous : PyStr) (key : String)
    (opened : step ⟨mode, .object entries previous :: stack⟩ '"' =
      some ⟨.text [] true, .object entries previous :: stack⟩) (rest : List Char) :
    run limit ⟨mode, .object entries previous :: stack⟩ (Json.quote key ++ ':' :: ' ' :: rest) =
      run limit ⟨.value, .object entries (.ofString key) :: stack⟩ rest := by
  have closed : endText (key.toList.flatMap unitsOf) true (.object entries previous :: stack) =
      some ⟨.colon, .object entries (PyStr.ofString key) :: stack⟩ := by
    simp [endText, joinSurrogates_unitsOf, PyStr.ofString]
  have separated : step ⟨.colon, .object entries (PyStr.ofString key) :: stack⟩ ':' =
      some ⟨.value, .object entries (PyStr.ofString key) :: stack⟩ := rfl
  have blank : step ⟨.value, .object entries (PyStr.ofString key) :: stack⟩ ' ' =
      some ⟨.value, .object entries (PyStr.ofString key) :: stack⟩ := rfl
  rw [run_quote room opened closed room, run_of_step separated room, run_of_step blank room]

mutual

/-- A document inside a container, up to the delimiter behind it. -/
theorem run_dumps (document : Json) (written : Written floatRepr document)
    {stack : List Container} (room : stack.length + openContainers document ≤ limit)
    {character : Char} (delimiter : character = ',' ∨ character = ']' ∨ character = '\x7d')
    (after : List Char) :
    run limit ⟨.value, stack⟩ (document.dumpsDefault floatRepr ++ character :: after) =
      run limit (complete (ofJson floatRepr document) stack) (character :: after) := by
  have within : stack.length ≤ limit := Nat.le_of_add_right_le room
  match document, written, room with
  | .null, _, _ =>
      have opened : step ⟨.value, stack⟩ 'n' = some ⟨.word ['u', 'l', 'l'] .null, stack⟩ := rfl
      exact (run_of_step opened within _).trans (run_word within .null 'u' ['l', 'l'] _)
  | .bool true, _, _ =>
      have opened : step ⟨.value, stack⟩ 't' =
          some ⟨.word ['r', 'u', 'e'] (.bool true), stack⟩ := rfl
      exact (run_of_step opened within _).trans (run_word within _ 'r' ['u', 'e'] _)
  | .bool false, _, _ =>
      have opened : step ⟨.value, stack⟩ 'f' =
          some ⟨.word ['a', 'l', 's', 'e'] (.bool false), stack⟩ := rfl
      exact (run_of_step opened within _).trans (run_word within _ 'a' ['l', 's', 'e'] _)
  | .int value, written, _ => exact run_number within written delimiter after
  | .float value, written, _ => exact run_number within written delimiter after
  | .str text, _, _ => exact run_quote_value within text _
  | .arr items, written, room => exact run_array items written room _
  | .obj entries, written, room => exact run_object entries written room _

/-- An array, from its bracket to the one that ends it. -/
theorem run_array (items : List Json) (written : WrittenItems floatRepr items)
    {stack : List Container} (room : stack.length + openContainers (.arr items) ≤ limit)
    (after : List Char) :
    run limit ⟨.value, stack⟩ ((Json.arr items).dumpsDefault floatRepr ++ after) =
      run limit (complete (.arr (ofJsonItems floatRepr items)) stack) after := by
  simp only [openContainers] at room
  have opened : step ⟨.value, stack⟩ '[' = some ⟨.firstItem, .list [] :: stack⟩ := rfl
  have roomInside : (Container.list [] :: stack).length ≤ limit := by
    rw [List.length_cons]
    omega
  rw [Json.dumpsDefault, List.cons_append, List.cons_append, run_of_step opened roomInside,
    List.append_assoc, List.singleton_append]
  match items, written, room with
  | [], _, _ =>
      have closed : step ⟨.firstItem, .list [] :: stack⟩ ']' = some (complete (.arr []) stack) :=
        rfl
      refine run_of_step closed ?_ after
      rw [length_complete]
      omega
  | item :: rest, written, room =>
      have begins : Begins (Json.commaBlankSeparated
          (Json.dumpsDefaultItems floatRepr (item :: rest)) ++ ']' :: after) := by
        cases rest with
        | nil =>
            rw [Json.dumpsDefaultItems, Json.dumpsDefaultItems, Json.commaBlankSeparated_single]
            exact begins_dumps item written.1 _
        | cons next others =>
            rw [Json.dumpsDefaultItems, Json.dumpsDefaultItems, Json.commaBlankSeparated_cons,
              List.append_assoc]
            exact begins_dumps item written.1 _
      rw [run_firstItem begins]
      exact run_items (item :: rest) (List.cons_ne_nil _ _) written [] (by omega) after

/-- The items of an array after some others, up to its end. -/
theorem run_items (items : List Json) (some' : items ≠ [])
    (written : WrittenItems floatRepr items) (read : List Value)
    {stack : List Container} (room : stack.length + 1 + openInItems items ≤ limit)
    (after : List Char) :
    run limit ⟨.value, .list read :: stack⟩ (Json.commaBlankSeparated
        (Json.dumpsDefaultItems floatRepr items) ++ ']' :: after) =
      run limit (complete (.arr (read ++ ofJsonItems floatRepr items)) stack) after := by
  have roomInside : ∀ items : List Value, (Container.list items :: stack).length ≤ limit := by
    intro items
    rw [List.length_cons]
    omega
  match items, some', written, room with
  | [item], _, written, room =>
      have roomItem : (Container.list read :: stack).length + openContainers item ≤ limit := by
        simp only [openInItems] at room
        rw [List.length_cons]
        omega
      have closed : step ⟨.afterItem, .list (read ++ [ofJson floatRepr item]) :: stack⟩ ']' =
          some (complete (.arr (read ++ [ofJson floatRepr item])) stack) := rfl
      rw [Json.dumpsDefaultItems, Json.dumpsDefaultItems, Json.commaBlankSeparated_single,
        run_dumps item written.1 roomItem (Or.inr (Or.inl rfl))]
      refine run_of_step closed ?_ after
      rw [length_complete]
      omega
  | item :: next :: others, _, written, room =>
      have roomItem : (Container.list read :: stack).length + openContainers item ≤ limit := by
        simp only [openInItems] at room
        rw [List.length_cons]
        omega
      have separated : step ⟨.afterItem, .list (read ++ [ofJson floatRepr item]) :: stack⟩ ',' =
          some ⟨.value, .list (read ++ [ofJson floatRepr item]) :: stack⟩ := rfl
      have blank : step ⟨.value, .list (read ++ [ofJson floatRepr item]) :: stack⟩ ' ' =
          some ⟨.value, .list (read ++ [ofJson floatRepr item]) :: stack⟩ := rfl
      have roomLater : stack.length + 1 + openInItems (next :: others) ≤ limit := by
        rw [openInItems] at room
        omega
      have later := run_items (next :: others) (List.cons_ne_nil _ _) written.2
        (read ++ [ofJson floatRepr item]) roomLater after
      rw [Json.dumpsDefaultItems, Json.dumpsDefaultItems, Json.commaBlankSeparated_cons,
        List.append_assoc, List.cons_append, List.cons_append,
        run_dumps item written.1 roomItem (Or.inl rfl)]
      show run limit ⟨.afterItem, .list (read ++ [ofJson floatRepr item]) :: stack⟩ _ = _
      rw [run_of_step separated (roomInside _), run_of_step blank (roomInside _),
        ← Json.dumpsDefaultItems, later, List.append_assoc]
      rfl

/-- An object, from its brace to the one that ends it. -/
theorem run_object (entries : List (String × Json)) (written : WrittenEntries floatRepr entries)
    {stack : List Container} (room : stack.length + openContainers (.obj entries) ≤ limit)
    (after : List Char) :
    run limit ⟨.value, stack⟩ ((Json.obj entries).dumpsDefault floatRepr ++ after) =
      run limit (complete (.obj (ofJsonEntries floatRepr entries)) stack) after := by
  simp only [openContainers] at room
  have opened : step ⟨.value, stack⟩ '\x7b' = some ⟨.firstKey, .object [] [] :: stack⟩ := rfl
  have roomInside : (Container.object [] [] :: stack).length ≤ limit := by
    rw [List.length_cons]
    omega
  rw [Json.dumpsDefault, List.cons_append, List.cons_append, run_of_step opened roomInside,
    List.append_assoc, List.singleton_append]
  match entries, written, room with
  | [], _, _ =>
      have closed : step ⟨.firstKey, .object [] [] :: stack⟩ '\x7d' =
          some (complete (.obj []) stack) := rfl
      refine run_of_step closed ?_ after
      rw [length_complete]
      omega
  | entry :: rest, written, room =>
      exact run_entries (entry :: rest) (List.cons_ne_nil _ _) written [] [] rfl (by omega) after

/-- The members of an object after some others, up to its end. -/
theorem run_entries (entries : List (String × Json)) (some' : entries ≠ [])
    (written : WrittenEntries floatRepr entries) (read : List (PyStr × Value)) (previous : PyStr)
    {stack : List Container} {mode : Mode}
    (opened : step ⟨mode, .object read previous :: stack⟩ '"' =
      some ⟨.text [] true, .object read previous :: stack⟩)
    (room : stack.length + 1 + openInEntries entries ≤ limit) (after : List Char) :
    run limit ⟨mode, .object read previous :: stack⟩ (Json.commaBlankSeparated
        (Json.dumpsDefaultEntries floatRepr entries) ++ '\x7d' :: after) =
      run limit (complete (.obj (read ++ ofJsonEntries floatRepr entries)) stack) after := by
  have roomInside : ∀ items previous, (Container.object items previous :: stack).length ≤ limit := by
    intro items previous
    rw [List.length_cons]
    omega
  have opensKey : ∀ items previous, step ⟨.nextKey, .object items previous :: stack⟩ '"' =
      some ⟨.text [] true, .object items previous :: stack⟩ := fun _ _ => rfl
  match entries, some', written, room with
  | [(key, document)], _, written, room =>
      have roomValue : (Container.object read (PyStr.ofString key) :: stack).length +
          openContainers document ≤ limit := by
        simp only [openInEntries] at room
        rw [List.length_cons]
        omega
      have closed : step ⟨.afterItem, .object (read ++ [(.ofString key, ofJson floatRepr document)])
          (.ofString key) :: stack⟩ '\x7d' =
          some (complete (.obj (read ++ [(.ofString key, ofJson floatRepr document)])) stack) := rfl
      rw [Json.dumpsDefaultEntries, Json.dumpsDefaultEntries, Json.commaBlankSeparated_single,
        List.append_assoc, List.cons_append, List.cons_append, run_key (roomInside [] []) _ _ _ opened,
        run_dumps document written.1 roomValue (Or.inr (Or.inr rfl))]
      refine run_of_step closed ?_ after
      rw [length_complete]
      omega
  | (key, document) :: next :: others, _, written, room =>
      have roomValue : (Container.object read (PyStr.ofString key) :: stack).length +
          openContainers document ≤ limit := by
        simp only [openInEntries] at room
        rw [List.length_cons]
        omega
      have separated : step ⟨.afterItem, .object
          (read ++ [(.ofString key, ofJson floatRepr document)]) (.ofString key) :: stack⟩ ',' =
          some ⟨.nextKey, .object (read ++ [(.ofString key, ofJson floatRepr document)])
            (.ofString key) :: stack⟩ := rfl
      have blank : step ⟨.nextKey, .object
          (read ++ [(.ofString key, ofJson floatRepr document)]) (.ofString key) :: stack⟩ ' ' =
          some ⟨.nextKey, .object (read ++ [(.ofString key, ofJson floatRepr document)])
            (.ofString key) :: stack⟩ := rfl
      have roomLater : stack.length + 1 + openInEntries (next :: others) ≤ limit := by
        rw [openInEntries] at room
        omega
      have later := run_entries (next :: others) (List.cons_ne_nil _ _) written.2
        (read ++ [(.ofString key, ofJson floatRepr document)]) (.ofString key)
        (opensKey _ _) roomLater after
      rw [Json.dumpsDefaultEntries, Json.dumpsDefaultEntries, Json.commaBlankSeparated_cons,
        List.append_assoc, List.append_assoc, List.cons_append, List.cons_append, List.cons_append,
        List.cons_append, run_key (roomInside [] []) _ _ _ opened,
        run_dumps document written.1 roomValue (Or.inl rfl)]
      show run limit ⟨.afterItem, .object (read ++ [(.ofString key, ofJson floatRepr document)])
        (.ofString key) :: stack⟩ _ = _
      rw [run_of_step separated (roomInside _ _), run_of_step blank (roomInside _ _),
        ← Json.dumpsDefaultEntries, later, List.append_assoc]
      rfl

end

/-- `json.loads(json.dumps(document))` for a document whose numbers are written as JSON
numbers, where there is room for its containers. -/
theorem loads_dumps (document : Json) (written : Written floatRepr document)
    (room : openContainers document ≤ limit) :
    loads limit (document.dumpsDefault floatRepr) = .ok (ofJson floatRepr document) := by
  have number : ∀ text : List Char, IsNumber text → loads limit text = .ok (.number text) := by
    rintro text ⟨stage, reached, ended⟩
    have read : run limit ⟨.value, []⟩ (text ++ []) = run limit ⟨.number stage text, []⟩ [] :=
      run_isNumber (Nat.zero_le limit) reached []
    rw [List.append_nil] at read
    rw [loads, start, read, run_nil]
    simp [bind, Except.bind, finish, ended]
  have atStart : ∀ value : Value, run limit start (document.dumpsDefault floatRepr ++ []) =
      run limit (complete value []) [] → loads limit (document.dumpsDefault floatRepr) =
        .ok value := by
    intro value ran
    rw [List.append_nil] at ran
    rw [loads, ran]
    rfl
  cases document with
  | null => rfl
  | bool value => cases value <;> rfl
  | int value => exact number _ written
  | float value => exact number _ written
  | str text => exact atStart _ (run_quote_value (Nat.zero_le limit) text [])
  | arr items => exact atStart _ (run_array items written (by simpa using room) [])
  | obj entries => exact atStart _ (run_object entries written (by simpa using room) [])

end Written

/-! ### Texts that were cut -/

/-- The outermost value was read. -/
def Mode.isDone : Mode → Bool
  | .done _ => true
  | _ => false

/-- Within a container, or behind the end of the outermost one. -/
inductive Enclosed : Scan → Prop where
  | inside {mode : Mode} (container : Container) (stack : List Container)
      (isOpen : mode.isDone = false) : Enclosed ⟨mode, container :: stack⟩
  | ended (value : Value) : Enclosed ⟨.done value, []⟩

theorem enclosed_complete (value : Value) (stack : List Container) :
    Enclosed (complete value stack) := by
  cases stack with
  | nil => exact .ended value
  | cons container others =>
      cases container with
      | list items => exact .inside _ _ rfl
      | object entries key => exact .inside _ _ rfl

theorem enclosed_close {stack : List Container} {next : Scan} (closed : close stack = some next) :
    Enclosed next := by
  cases stack with
  | nil => cases closed
  | cons container others =>
      cases container with
      | list items =>
          rw [← Option.some.inj closed]
          exact enclosed_complete _ others
      | object entries key =>
          rw [← Option.some.inj closed]
          exact enclosed_complete _ others

theorem enclosed_ite {condition : Prop} [Decidable condition] {scan next : Scan}
    {otherwise : Option Scan} (enclosed : Enclosed scan)
    (others : otherwise = some next → Enclosed next)
    (reached : (if condition then some scan else otherwise) = some next) : Enclosed next := by
  split at reached
  · exact Option.some.inj reached ▸ enclosed
  · exact others reached

/-- One case for each character that begins a value. -/
theorem enclosed_startValue {container : Container} {stack : List Container} {character : Char}
    {next : Scan} (started : startValue (container :: stack) character = some next) :
    Enclosed next := by
  rw [startValue] at started
  revert started
  repeat refine enclosed_ite (.inside _ _ rfl) ?_
  intro refused
  cases refused

theorem enclosed_endText {units : PyStr} {isKey : Bool} {container : Container}
    {stack : List Container} {next : Scan}
    (ended : endText units isKey (container :: stack) = some next) : Enclosed next := by
  cases isKey with
  | true =>
      cases container with
      | list items => cases ended
      | object entries key =>
          rw [← Option.some.inj ended]
          exact .inside _ _ rfl
  | false =>
      rw [← Option.some.inj ended]
      exact enclosed_complete _ _

theorem enclosed_afterValue {scan next : Scan} {character : Char} (enclosed : Enclosed scan)
    (stepped : afterValue scan character = some next) : Enclosed next := by
  cases enclosed with
  | ended value =>
      rw [afterValue_done stepped]
      exact .ended value
  | inside container stack isOpen =>
      rw [afterValue] at stepped
      split at stepped
      · rw [← Option.some.inj stepped]
        exact .inside _ _ isOpen
      · cases container with
        | list items =>
            dsimp only at stepped
            split_ifs at stepped
            · rw [← Option.some.inj stepped]
              exact .inside _ _ rfl
            · exact enclosed_close stepped
        | object entries key =>
            dsimp only at stepped
            split_ifs at stepped
            · rw [← Option.some.inj stepped]
              exact .inside _ _ rfl
            · exact enclosed_close stepped

/-- One case for each mode: a container is left by the bracket that ends it only. -/
theorem Enclosed.step {scan next : Scan} {character : Char} (enclosed : Enclosed scan)
    (stepped : step scan character = some next) : Enclosed next := by
  cases enclosed with
  | ended value =>
      rw [afterValue_done stepped]
      exact .ended value
  | @inside mode container stack isOpen =>
      cases mode with
      | done value => cases isOpen
      | afterItem =>
          have here : Enclosed ⟨.afterItem, container :: stack⟩ := .inside _ _ rfl
          exact enclosed_afterValue here stepped
      | value =>
          simp only [JsonScanner.step] at stepped
          split_ifs at stepped
          · cases stepped
            exact .inside _ _ rfl
          · exact enclosed_startValue stepped
      | firstItem =>
          simp only [JsonScanner.step] at stepped
          split_ifs at stepped
          · cases stepped
            exact .inside _ _ rfl
          · exact enclosed_close stepped
          · exact enclosed_startValue stepped
      | firstKey =>
          simp only [JsonScanner.step] at stepped
          split_ifs at stepped
          · cases stepped
            exact .inside _ _ rfl
          · cases stepped
            exact .inside _ _ rfl
          · exact enclosed_close stepped
      | nextKey =>
          simp only [JsonScanner.step] at stepped
          split_ifs at stepped <;> cases stepped <;> exact .inside _ _ rfl
      | colon =>
          simp only [JsonScanner.step] at stepped
          split_ifs at stepped <;> cases stepped <;> exact .inside _ _ rfl
      | text units isKey =>
          simp only [JsonScanner.step] at stepped
          split_ifs at stepped
          · exact enclosed_endText stepped
          · cases stepped
            exact .inside _ _ rfl
          · cases stepped
            exact .inside _ _ rfl
      | escape units isKey =>
          simp only [JsonScanner.step] at stepped
          split_ifs at stepped
          · cases stepped
            exact .inside _ _ rfl
          · obtain ⟨unit, _, rfl⟩ := Option.map_eq_some_iff.mp stepped
            exact .inside _ _ rfl
      | unicode units isKey missing unit =>
          obtain ⟨digit, _, rfl⟩ := Option.map_eq_some_iff.mp stepped
          split
          · exact .inside _ _ rfl
          · exact .inside _ _ rfl
      | word rest value =>
          cases rest with
          | nil => cases stepped
          | cons expected more =>
              simp only [JsonScanner.step] at stepped
              split_ifs at stepped
              · rw [← Option.some.inj stepped]
                exact enclosed_complete _ _
              · cases stepped
                exact .inside _ _ rfl
      | number stage literal =>
          simp only [JsonScanner.step] at stepped
          split at stepped
          · cases stepped
            exact .inside _ _ rfl
          · split_ifs at stepped
            · cases stepped
              exact .inside _ _ rfl
            · obtain ⟨value, _, after⟩ := Option.bind_eq_some_iff.mp stepped
              exact enclosed_afterValue (enclosed_complete _ _) after

/-- Induction on the text. -/
theorem Enclosed.run {limit : Nat} {scan final : Scan} (enclosed : Enclosed scan)
    {text : List Char} (ran : run limit scan text = .ok final) : Enclosed final := by
  induction text generalizing scan with
  | nil => exact Except.ok.inj ran ▸ enclosed
  | cons character rest inductionHypothesis =>
      rw [run_cons, stepWithin] at ran
      cases stepped : JsonScanner.step scan character with
      | none => rw [stepped] at ran; cases ran
      | some next =>
          rw [stepped] at ran
          dsimp only at ran
          split at ran
          · cases ran
          · exact inductionHypothesis (enclosed.step stepped) ran

/-- Behind the outermost container only blanks are read. -/
theorem run_done {limit : Nat} {value : Value} {final : Scan} {text : List Char}
    (ran : run limit ⟨.done value, []⟩ text = .ok final) : ∀ character ∈ text,
      isBlank character = true := by
  induction text with
  | nil => exact fun _ member => absurd member List.not_mem_nil
  | cons character rest inductionHypothesis =>
      rw [run_cons, stepWithin] at ran
      cases stepped : step ⟨.done value, []⟩ character with
      | none => rw [stepped] at ran; cases ran
      | some next =>
          rw [stepped, afterValue_done stepped] at ran
          have blank : isBlank character = true := by
            by_contra notBlank
            have refused : step ⟨.done value, []⟩ character = none := by
              simp [step, afterValue, notBlank]
            rw [refused] at stepped
            cases stepped
          refine List.forall_mem_cons.mpr ⟨blank, inductionHypothesis ?_⟩
          simpa [bind, Except.bind] using ran

theorem finish_inside {mode : Mode} {container : Container} {stack : List Container}
    (isOpen : mode.isDone = false) :
    finish ⟨mode, container :: stack⟩ = .error .valueError := by
  cases mode with
  | done value => cases isOpen
  | _ => rfl

/-- A text that begins a container and is read is no proper beginning of another text
that is read, but for blanks. -/
theorem loads_cut {limit : Nat} {kept lost : List Char} {whole : Value}
    (read : loads limit (kept ++ lost) = .ok whole)
    (container : ∀ character ∈ kept.head?, character = '[' ∨ character = '\x7b')
    (notBlank : ∃ character ∈ lost, isBlank character = false) :
    loads limit kept = .error .valueError := by
  obtain ⟨character, member, visible⟩ := notBlank
  rw [loads, run_append] at read
  cases ran : run limit start kept with
  | error failure => rw [ran] at read; cases read
  | ok middle =>
      rw [ran] at read
      have reads : loads limit kept = finish middle := by
        rw [loads, ran]
        rfl
      rw [reads]
      cases kept with
      | nil =>
          rw [← Except.ok.inj ran]
          rfl
      | cons first rest =>
          have enclosed : Enclosed middle := by
            rw [run_cons, stepWithin] at ran
            rcases container first rfl with rfl | rfl
            · have opened : step start '[' = some ⟨.firstItem, [.list []]⟩ := rfl
              rw [opened] at ran
              dsimp only at ran
              split at ran
              · cases ran
              · have inside : Enclosed ⟨.firstItem, [.list []]⟩ := .inside _ _ rfl
                exact inside.run ran
            · have opened : step start '\x7b' = some ⟨.firstKey, [.object [] []]⟩ := rfl
              rw [opened] at ran
              dsimp only at ran
              split at ran
              · cases ran
              · have inside : Enclosed ⟨.firstKey, [.object [] []]⟩ := .inside _ _ rfl
                exact inside.run ran
          cases enclosed with
          | inside innermost others isOpen => exact finish_inside isOpen
          | ended value =>
              -- The visible character would stand behind the outermost container.
              obtain ⟨final, later, _⟩ : ∃ final,
                  run limit ⟨.done value, []⟩ lost = .ok final ∧ finish final = .ok whole := by
                cases onward : run limit ⟨.done value, []⟩ lost with
                | error failure =>
                    simp only [bind, Except.bind, onward] at read
                    cases read
                | ok final =>
                    simp only [bind, Except.bind, onward] at read
                    exact ⟨final, rfl, read⟩
              have blank := run_done later character member
              rw [visible] at blank
              cases blank

/-- The text of an object that was cut before its end is refused. -/
theorem loads_cut_object {floatRepr : ℚ → String} {limit : Nat} {entries : List (String × Json)}
    (written : Written floatRepr (.obj entries))
    (room : openContainers (.obj entries) ≤ limit) {kept lost : List Char}
    (cut : kept ++ lost = (Json.obj entries).dumpsDefault floatRepr) (missing : lost ≠ []) :
    loads limit kept = .error .valueError := by
  have whole := loads_dumps (.obj entries) written room
  rw [← cut] at whole
  refine loads_cut whole ?_ ?_
  · intro character first
    cases kept with
    | nil => cases first
    | cons head rest =>
        obtain rfl := Option.some.inj first
        rw [Json.dumpsDefault, List.cons_append, List.cons_append, List.cons.injEq] at cut
        exact Or.inr cut.1
  · refine ⟨'\x7d', ?_, by decide⟩
    have last : lost.getLast? = some '\x7d' := by
      have ends := congrArg List.getLast? cut
      rw [Json.dumpsDefault, List.getLast?_concat, List.getLast?_append] at ends
      obtain ⟨final, isLast⟩ := Option.ne_none_iff_exists'.mp
        (fun none => missing (List.getLast?_eq_none_iff.mp none))
      rw [isLast, Option.some_or] at ends
      rw [isLast, ends]
    exact List.mem_of_getLast? last

end JsonScanner

end LlmObs.Foundation
