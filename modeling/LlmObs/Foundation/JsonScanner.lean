import LlmObs.Foundation.JsonText

/-!
Owns the reading of JSON texts as `json.loads` does it, one character at a time: the
containers that are open, the value that is being read, and the bound that the
interpreter sets on open containers. Texts are code points, since an escape may leave
half of a surrogate pair; numbers are kept as their literals.
-/

namespace LlmObs.Foundation

/-- A Python `str` as its code points. -/
abbrev PyStr := List Nat

/-- The code points of a text. -/
def codePoints (text : List Char) : PyStr := text.map Char.toNat

/-- A text without surrogates as Python holds it. -/
def PyStr.ofString (text : String) : PyStr := codePoints text.toList

namespace JsonScanner

/-! ### Values and states -/

inductive Value where
  | null
  | bool (value : Bool)
  | number (literal : List Char)
  | str (text : PyStr)
  | arr (items : List Value)
  | obj (entries : List (PyStr × Value))

/-- A container that is open, and the key whose value an object waits for. -/
inductive Container where
  | list (items : List Value)
  | object (entries : List (PyStr × Value)) (key : PyStr)

/-- How much of a number was read. -/
inductive NumberStage where
  | minus
  | zero
  | integer
  | point
  | fraction
  | exponent
  | sign
  | power
deriving DecidableEq, Repr

/-- What the scanner is in. -/
inductive Mode where
  | value
  | firstItem
  | firstKey
  | nextKey
  | colon
  | afterItem
  | done (value : Value)
  | text (units : PyStr) (isKey : Bool)
  | escape (units : PyStr) (isKey : Bool)
  | unicode (units : PyStr) (isKey : Bool) (missing unit : Nat)
  | word (rest : List Char) (value : Value)
  | number (stage : NumberStage) (literal : List Char)

structure Scan where
  mode : Mode
  stack : List Container

def start : Scan := ⟨.value, []⟩

/-! ### Characters -/

def isBlank (character : Char) : Bool :=
  character = ' ' ∨ character = '\t' ∨ character = '\n' ∨ character = '\r'

def isDigit (character : Char) : Bool := 48 ≤ character.toNat ∧ character.toNat ≤ 57

def hexValue? (character : Char) : Option Nat :=
  if isDigit character then some (character.toNat - 48)
  else if 97 ≤ character.toNat ∧ character.toNat ≤ 102 then some (character.toNat - 87)
  else if 65 ≤ character.toNat ∧ character.toNat ≤ 70 then some (character.toNat - 55)
  else none

/-- The code point of an escape of two characters. -/
def simpleEscape? (character : Char) : Option Nat :=
  if character = '"' then some 34
  else if character = '\\' then some 92
  else if character = '/' then some 47
  else if character = 'b' then some 8
  else if character = 'f' then some 12
  else if character = 'n' then some 10
  else if character = 'r' then some 13
  else if character = 't' then some 9
  else none

def isHighSurrogate (unit : Nat) : Bool := 55296 ≤ unit ∧ unit ≤ 56319

def isLowSurrogate (unit : Nat) : Bool := 56320 ≤ unit ∧ unit ≤ 57343

/-- A high surrogate and the low one after it are one code point. -/
def joinSurrogates : PyStr → PyStr
  | high :: low :: rest =>
      if isHighSurrogate high ∧ isLowSurrogate low then
        (65536 + (high - 55296) * 1024 + (low - 56320)) :: joinSurrogates rest
      else high :: joinSurrogates (low :: rest)
  | short => short

/-! ### Numbers -/

/-- The stage after a further character of the number. -/
def NumberStage.next? (stage : NumberStage) (character : Char) : Option NumberStage :=
  match stage with
  | .minus =>
      if character = '0' then some .zero else if isDigit character then some .integer else none
  | .zero =>
      if character = '.' then some .point
      else if character = 'e' ∨ character = 'E' then some .exponent else none
  | .integer =>
      if isDigit character then some .integer
      else if character = '.' then some .point
      else if character = 'e' ∨ character = 'E' then some .exponent else none
  | .point => if isDigit character then some .fraction else none
  | .fraction =>
      if isDigit character then some .fraction
      else if character = 'e' ∨ character = 'E' then some .exponent else none
  | .exponent =>
      if character = '+' ∨ character = '-' then some .sign
      else if isDigit character then some .power else none
  | .sign => if isDigit character then some .power else none
  | .power => if isDigit character then some .power else none

/-- `sys.int_info.default_max_str_digits` -/
def maxStrDigits : Nat := 4300

/-- The number of a literal; `none` where it is not complete, and where `int` refuses
that many digits. -/
def endNumber (stage : NumberStage) (literal : List Char) : Option Value :=
  match stage with
  | .zero => some (.number literal)
  | .integer =>
      if (literal.filter isDigit).length ≤ maxStrDigits then some (.number literal) else none
  | .fraction => some (.number literal)
  | .power => some (.number literal)
  | _ => none

/-! ### One character -/

/-- The state after a value. -/
def complete (value : Value) : List Container → Scan
  | [] => ⟨.done value, []⟩
  | .list items :: rest => ⟨.afterItem, .list (items ++ [value]) :: rest⟩
  | .object entries key :: rest => ⟨.afterItem, .object (entries ++ [(key, value)]) key :: rest⟩

/-- The state after the end of the innermost container. -/
def close : List Container → Option Scan
  | [] => none
  | .list items :: rest => some (complete (.arr items) rest)
  | .object entries _ :: rest => some (complete (.obj entries) rest)

/-- The state after the first character of a value. -/
def startValue (stack : List Container) (character : Char) : Option Scan :=
  if character = '"' then some ⟨.text [] false, stack⟩
  else if character = '[' then some ⟨.firstItem, .list [] :: stack⟩
  else if character = '\x7b' then some ⟨.firstKey, .object [] [] :: stack⟩
  else if character = 'n' then some ⟨.word ['u', 'l', 'l'] .null, stack⟩
  else if character = 't' then some ⟨.word ['r', 'u', 'e'] (.bool true), stack⟩
  else if character = 'f' then some ⟨.word ['a', 'l', 's', 'e'] (.bool false), stack⟩
  else if character = 'N' then some ⟨.word ['a', 'N'] (.number ['N', 'a', 'N']), stack⟩
  else if character = 'I' then
    some ⟨.word "nfinity".toList (.number "Infinity".toList), stack⟩
  else if character = '-' then some ⟨.number .minus ['-'], stack⟩
  else if character = '0' then some ⟨.number .zero ['0'], stack⟩
  else if isDigit character then some ⟨.number .integer [character], stack⟩
  else none

/-- The state after the quotation mark that ends a text. -/
def endText (units : PyStr) (isKey : Bool) (stack : List Container) : Option Scan :=
  if isKey then
    match stack with
    | .object entries _ :: rest => some ⟨.colon, .object entries (joinSurrogates units) :: rest⟩
    | _ => none
  else some (complete (.str (joinSurrogates units)) stack)

/-- A character after a value. -/
def afterValue (scan : Scan) (character : Char) : Option Scan :=
  if isBlank character then some scan
  else
    match scan.stack with
    | [] => none
    | .list _ :: _ =>
        if character = ',' then some ⟨.value, scan.stack⟩
        else if character = ']' then close scan.stack else none
    | .object _ _ :: _ =>
        if character = ',' then some ⟨.nextKey, scan.stack⟩
        else if character = '\x7d' then close scan.stack else none

/-- The state after one character; `none` is a `ValueError`. -/
def step (scan : Scan) (character : Char) : Option Scan :=
  match scan.mode with
  | .value => if isBlank character then some scan else startValue scan.stack character
  | .firstItem =>
      if isBlank character then some scan
      else if character = ']' then close scan.stack else startValue scan.stack character
  | .firstKey =>
      if isBlank character then some scan
      else if character = '"' then some ⟨.text [] true, scan.stack⟩
      else if character = '\x7d' then close scan.stack else none
  | .nextKey =>
      if isBlank character then some scan
      else if character = '"' then some ⟨.text [] true, scan.stack⟩ else none
  | .colon =>
      if isBlank character then some scan
      else if character = ':' then some ⟨.value, scan.stack⟩ else none
  | .afterItem => afterValue scan character
  | .done _ => afterValue scan character
  | .text units isKey =>
      if character = '"' then endText units isKey scan.stack
      else if character = '\\' then some ⟨.escape units isKey, scan.stack⟩
      else if character.toNat < 32 then none
      else some ⟨.text (units ++ [character.toNat]) isKey, scan.stack⟩
  | .escape units isKey =>
      if character = 'u' then some ⟨.unicode units isKey 4 0, scan.stack⟩
      else (simpleEscape? character).map fun unit => ⟨.text (units ++ [unit]) isKey, scan.stack⟩
  | .unicode units isKey missing unit =>
      (hexValue? character).map fun digit =>
        if missing = 1 then ⟨.text (units ++ [unit * 16 + digit]) isKey, scan.stack⟩
        else ⟨.unicode units isKey (missing - 1) (unit * 16 + digit), scan.stack⟩
  | .word rest value =>
      match rest with
      | [] => none
      | expected :: more =>
          if character = expected then
            if more = [] then some (complete value scan.stack)
            else some ⟨.word more value, scan.stack⟩
          else none
  | .number stage literal =>
      match stage.next? character with
      | some next => some ⟨.number next (literal ++ [character]), scan.stack⟩
      | none =>
          if stage = .minus ∧ character = 'I' then
            some ⟨.word "nfinity".toList (.number "-Infinity".toList), scan.stack⟩
          else
            (endNumber stage literal).bind fun value =>
              afterValue (complete value scan.stack) character

/-! ### Whole texts -/

/-- How `json.loads` fails: by a `ValueError`, or by the `RecursionError` of the bracket
that opens one container too many. -/
inductive Failure where
  | valueError
  | recursionError (bracket : Char)
deriving DecidableEq, Repr

/-- One character, where the interpreter leaves room for `limit` open containers. -/
def stepWithin (limit : Nat) (scan : Scan) (character : Char) : Except Failure Scan :=
  match step scan character with
  | none => .error .valueError
  | some next =>
      if limit < next.stack.length then .error (.recursionError character) else .ok next

def run (limit : Nat) (scan : Scan) (text : List Char) : Except Failure Scan :=
  text.foldlM (stepWithin limit) scan

/-- The value at the end of the text. -/
def finish (scan : Scan) : Except Failure Value :=
  match scan.mode, scan.stack with
  | .done value, _ => .ok value
  | .number stage literal, [] =>
      match endNumber stage literal with
      | some value => .ok value
      | none => .error .valueError
  | _, _ => .error .valueError

/-- `json.loads(text)` -/
def loads (limit : Nat) (text : List Char) : Except Failure Value :=
  run limit start text >>= finish

/-- How many containers a text has open at once, up to its first error. -/
def nestingFrom (scan : Scan) : List Char → Nat
  | [] => scan.stack.length
  | character :: rest =>
      match step scan character with
      | none => scan.stack.length
      | some next => max scan.stack.length (nestingFrom next rest)

def nesting (text : List Char) : Nat := nestingFrom start text

/-! ### Runs -/

@[simp] theorem run_nil (limit : Nat) (scan : Scan) : run limit scan [] = .ok scan := rfl

theorem run_cons (limit : Nat) (scan : Scan) (character : Char) (rest : List Char) :
    run limit scan (character :: rest) =
      stepWithin limit scan character >>= fun next => run limit next rest := rfl

theorem stepWithin_of_step {limit : Nat} {scan next : Scan} {character : Char}
    (stepped : step scan character = some next) (room : next.stack.length ≤ limit) :
    stepWithin limit scan character = .ok next := by
  have within : ¬ limit < next.stack.length := by omega
  rw [stepWithin, stepped]
  exact if_neg within

theorem run_of_step {limit : Nat} {scan next : Scan} {character : Char}
    (stepped : step scan character = some next) (room : next.stack.length ≤ limit)
    (rest : List Char) :
    run limit scan (character :: rest) = run limit next rest := by
  rw [run_cons, stepWithin_of_step stepped room]
  rfl

/-! ### Open containers -/

theorem nestingFrom_ge (scan : Scan) (text : List Char) :
    scan.stack.length ≤ nestingFrom scan text := by
  cases text with
  | nil => exact Nat.le_refl _
  | cons character rest =>
      rw [nestingFrom]
      cases step scan character with
      | none => exact Nat.le_refl _
      | some next => exact Nat.le_max_left _ _

/-- Induction on the text; a state within the limit fails here or goes on. -/
theorem run_recursionError_iff {limit : Nat} {text : List Char} {scan : Scan}
    (within : scan.stack.length ≤ limit) :
    (∃ bracket, run limit scan text = .error (.recursionError bracket)) ↔
      limit < nestingFrom scan text := by
  induction text generalizing scan with
  | nil => simp [nestingFrom, within]
  | cons character rest inductionHypothesis =>
      rw [nestingFrom, run_cons, stepWithin]
      cases stepped : step scan character with
      | none => simp [bind, Except.bind, within]
      | some next =>
          by_cases room : next.stack.length ≤ limit
          · have notBeyond : ¬ limit < next.stack.length := by omega
            simp only [if_neg notBeyond, bind, Except.bind]
            rw [inductionHypothesis room]
            omega
          · have beyond : limit < next.stack.length := by omega
            have deep := nestingFrom_ge next rest
            simp only [if_pos beyond, bind, Except.bind, Except.error.injEq,
              Failure.recursionError.injEq, exists_eq', true_iff]
            omega

theorem finish_ne_recursionError (scan : Scan) (bracket : Char) :
    finish scan ≠ .error (.recursionError bracket) := by
  rw [finish]
  split
  · simp
  · split <;> simp
  · simp

/-- A text recurses too deep exactly when it nests more containers than there is room. -/
theorem loads_recursionError_iff (limit : Nat) (text : List Char) :
    (∃ bracket, loads limit text = .error (.recursionError bracket)) ↔ limit < nesting text := by
  rw [nesting, ← run_recursionError_iff (Nat.zero_le limit)]
  rw [loads]
  cases done : run limit start text with
  | error failure => simp [bind, Except.bind]
  | ok scan => simp [bind, Except.bind, finish_ne_recursionError]

/-! ### Texts as `json.dumps` writes them -/

/-- The code units of a character in an escaped text. -/
def unitsOf (character : Char) : PyStr :=
  if character.toNat < 65536 then [character.toNat]
  else
    [55296 + (character.toNat - 65536) / 1024, 56320 + (character.toNat - 65536) % 1024]

theorem scalar (character : Char) :
    character.toNat < 55296 ∨ 57343 < character.toNat ∧ character.toNat < 1114112 :=
  character.valid

/-- The units of a text are joined to its code points again. -/
theorem joinSurrogates_unitsOf (text : List Char) :
    joinSurrogates (text.flatMap unitsOf) = codePoints text := by
  induction text with
  | nil => rfl
  | cons character rest inductionHypothesis =>
      have range := scalar character
      rw [List.flatMap_cons, codePoints, List.map_cons, ← codePoints, ← inductionHypothesis]
      by_cases basic : character.toNat < 65536
      · have notHigh : isHighSurrogate character.toNat = false := by
          simp only [isHighSurrogate, decide_eq_false_iff_not]
          omega
        rw [unitsOf, if_pos basic]
        cases rest.flatMap unitsOf with
        | nil => rfl
        | cons next others => simp [joinSurrogates, notHigh]
      · have high : isHighSurrogate (55296 + (character.toNat - 65536) / 1024) = true := by
          simp only [isHighSurrogate, decide_eq_true_eq]
          omega
        have low : isLowSurrogate (56320 + (character.toNat - 65536) % 1024) = true := by
          simp only [isLowSurrogate, decide_eq_true_eq]
          omega
        have whole : 65536 + (55296 + (character.toNat - 65536) / 1024 - 55296) * 1024 +
            (56320 + (character.toNat - 65536) % 1024 - 56320) = character.toNat := by
          omega
        rw [unitsOf, if_neg basic, List.cons_append, List.cons_append, List.nil_append,
          joinSurrogates, if_pos ⟨high, low⟩, whole]

theorem hexValue_hexChar : ∀ digit < 16, hexValue? (Json.hexChar digit) = some digit := by
  decide

section Text

variable {limit : Nat} {stack : List Container} {units : PyStr} {isKey : Bool}

/-- A hexadecimal digit of an escape that is not its last. -/
theorem step_unicode {missing unit digit : Nat} (more : missing ≠ 1) (below : digit < 16) :
    step ⟨.unicode units isKey missing unit, stack⟩ (Json.hexChar digit) =
      some ⟨.unicode units isKey (missing - 1) (unit * 16 + digit), stack⟩ := by
  simp [step, hexValue_hexChar digit below, more]

theorem step_unicode_last {unit digit : Nat} (below : digit < 16) :
    step ⟨.unicode units isKey 1 unit, stack⟩ (Json.hexChar digit) =
      some ⟨.text (units ++ [unit * 16 + digit]) isKey, stack⟩ := by
  simp [step, hexValue_hexChar digit below]

/-- An escaped code unit is read as that unit. -/
theorem run_escapeUnit (room : stack.length ≤ limit) {unit : Nat} (below : unit < 65536)
    (rest : List Char) :
    run limit ⟨.text units isKey, stack⟩ (Json.escapeUnit unit ++ rest) =
      run limit ⟨.text (units ++ [unit]) isKey, stack⟩ rest := by
  have digitBelow : ∀ number : Nat, number % 16 < 16 := fun number =>
    Nat.mod_lt _ (by decide)
  have whole : (((0 * 16 + unit / 4096 % 16) * 16 + unit / 256 % 16) * 16 + unit / 16 % 16) * 16 +
      unit % 16 = unit := by
    omega
  have escaped : step ⟨.text units isKey, stack⟩ '\\' = some ⟨.escape units isKey, stack⟩ := rfl
  have digits : step ⟨.escape units isKey, stack⟩ 'u' =
      some ⟨.unicode units isKey 4 0, stack⟩ := rfl
  rw [Json.escapeUnit]
  simp only [List.cons_append, List.nil_append]
  rw [run_of_step escaped room, run_of_step digits room,
    run_of_step (step_unicode (by decide) (digitBelow _)) room,
    run_of_step (step_unicode (by decide) (digitBelow _)) room,
    run_of_step (step_unicode (by decide) (digitBelow _)) room,
    run_of_step (step_unicode_last (digitBelow _)) room, whole]

/-- A character that an escape of two characters stands for. -/
theorem run_simpleEscape (room : stack.length ≤ limit) {letter : Char} {unit : Nat}
    (known : simpleEscape? letter = some unit) (notUnicode : letter ≠ 'u') (rest : List Char) :
    run limit ⟨.text units isKey, stack⟩ ('\\' :: letter :: rest) =
      run limit ⟨.text (units ++ [unit]) isKey, stack⟩ rest := by
  have escaped : step ⟨.text units isKey, stack⟩ '\\' = some ⟨.escape units isKey, stack⟩ := rfl
  have stands : step ⟨.escape units isKey, stack⟩ letter =
      some ⟨.text (units ++ [unit]) isKey, stack⟩ := by
    simp [step, notUnicode, known]
  rw [run_of_step escaped room, run_of_step stands room]

theorem simpleEscape_lt {letter : Char} {unit : Nat} (known : simpleEscape? letter = some unit) :
    unit < 65536 := by
  simp only [simpleEscape?] at known
  grind

/-- A character of a text is read as its code units. -/
theorem run_escapeChar (room : stack.length ≤ limit) (character : Char) (rest : List Char) :
    run limit ⟨.text units isKey, stack⟩ (Json.escapeChar character ++ rest) =
      run limit ⟨.text (units ++ unitsOf character) isKey, stack⟩ rest := by
  have range := scalar character
  have simple : ∀ letter : Char, ∀ unit : Nat, simpleEscape? letter = some unit → letter ≠ 'u' →
      character.toNat = unit →
      run limit ⟨.text units isKey, stack⟩ (['\\', letter] ++ rest) =
        run limit ⟨.text (units ++ unitsOf character) isKey, stack⟩ rest := by
    intro letter unit known notUnicode same
    rw [unitsOf, same, if_pos (simpleEscape_lt known)]
    exact run_simpleEscape room known notUnicode rest
  rw [Json.escapeChar]
  split_ifs with quotation backslash newline ret tab feed back printable basic
  · exact simple '"' 34 rfl (by decide) (by rw [quotation]; rfl)
  · exact simple '\\' 92 rfl (by decide) (by rw [backslash]; rfl)
  · exact simple 'n' 10 rfl (by decide) (by rw [newline]; rfl)
  · exact simple 'r' 13 rfl (by decide) (by rw [ret]; rfl)
  · exact simple 't' 9 rfl (by decide) (by rw [tab]; rfl)
  · exact simple 'f' 12 rfl (by decide) feed
  · exact simple 'b' 8 rfl (by decide) back
  · have basic : character.toNat < 65536 := by omega
    have notControl : ¬ character.toNat < 32 := by omega
    have read : step ⟨.text units isKey, stack⟩ character =
        some ⟨.text (units ++ [character.toNat]) isKey, stack⟩ := by
      simp [step, quotation, backslash, notControl]
    rw [unitsOf, if_pos basic]
    exact run_of_step read room rest
  · rw [unitsOf, if_pos basic]
    exact run_escapeUnit room basic rest
  · rw [unitsOf, if_neg basic, List.append_assoc, run_escapeUnit room (by omega),
      run_escapeUnit room (by omega), List.append_assoc]
    rfl

/-- Induction on the text, one character at a time. -/
theorem run_escaped (room : stack.length ≤ limit) (text rest : List Char) :
    run limit ⟨.text units isKey, stack⟩ (text.flatMap Json.escapeChar ++ rest) =
      run limit ⟨.text (units ++ text.flatMap unitsOf) isKey, stack⟩ rest := by
  induction text generalizing units with
  | nil => simp
  | cons character others inductionHypothesis =>
      rw [List.flatMap_cons, List.append_assoc, run_escapeChar room, inductionHypothesis,
        List.flatMap_cons, List.append_assoc]

/-- A quoted text is read up to the mark that ends it. -/
theorem run_quote (room : stack.length ≤ limit) {mode : Mode} {ended : Scan} {text : String}
    (opened : step ⟨mode, stack⟩ '"' = some ⟨.text [] isKey, stack⟩)
    (closed : endText (text.toList.flatMap unitsOf) isKey stack = some ended)
    (roomAfter : ended.stack.length ≤ limit) (rest : List Char) :
    run limit ⟨mode, stack⟩ (Json.quote text ++ rest) = run limit ended rest := by
  have ends : step ⟨.text ([] ++ text.toList.flatMap unitsOf) isKey, stack⟩ '"' = some ended :=
    closed
  rw [Json.quote, List.cons_append, List.cons_append, run_of_step opened room, List.append_assoc,
    run_escaped room, List.singleton_append, run_of_step ends roomAfter]

/-- A text that stands for a value. -/
theorem run_quote_value (room : stack.length ≤ limit) (text : String) (rest : List Char) :
    run limit ⟨.value, stack⟩ (Json.quote text ++ rest) =
      run limit (complete (.str (.ofString text)) stack) rest := by
  have closed : endText (text.toList.flatMap unitsOf) false stack =
      some (complete (.str (.ofString text)) stack) := by
    simp [endText, joinSurrogates_unitsOf, PyStr.ofString]
  have opened : step ⟨.value, stack⟩ '"' = some ⟨.text [] false, stack⟩ := rfl
  apply run_quote room opened closed
  cases stack with
  | nil => exact room
  | cons container others =>
      cases container with
      | list items => exact room
      | object entries key => exact room

/-- A member whose value is a text. -/
theorem run_member {mode : Mode} (room : stack.length + 1 ≤ limit)
    (entries : List (PyStr × Value)) (previous : PyStr) (key value : String)
    (opened : step ⟨mode, .object entries previous :: stack⟩ '"' =
      some ⟨.text [] true, .object entries previous :: stack⟩) (rest : List Char) :
    run limit ⟨mode, .object entries previous :: stack⟩
        (Json.quote key ++ ':' :: (Json.quote value ++ rest)) =
      run limit ⟨.afterItem, .object
        (entries ++ [(PyStr.ofString key, .str (PyStr.ofString value))])
        (PyStr.ofString key) :: stack⟩ rest := by
  have closed : endText (key.toList.flatMap unitsOf) true (.object entries previous :: stack) =
      some ⟨.colon, .object entries (PyStr.ofString key) :: stack⟩ := by
    simp [endText, joinSurrogates_unitsOf, PyStr.ofString]
  have separated : step ⟨.colon, .object entries (PyStr.ofString key) :: stack⟩ ':' =
      some ⟨.value, .object entries (PyStr.ofString key) :: stack⟩ := rfl
  rw [run_quote room opened closed room, run_of_step separated room, run_quote_value room]
  rfl

end Text

/-! ### Objects of texts -/

/-- An object of texts, as it is written. -/
def memberTexts (entries : List (String × String)) : List Json.EntryText :=
  entries.map fun entry => (entry.1, Json.quote entry.2)

/-- An object of texts, as it is read. -/
def memberValues (entries : List (String × String)) : List (PyStr × Value) :=
  entries.map fun entry => (PyStr.ofString entry.1, .str (PyStr.ofString entry.2))

theorem commaSeparated_cons (part : List Char) (parts : List (List Char)) :
    Json.commaSeparated (part :: parts) = part ++ parts.flatMap (',' :: ·) := by
  induction parts generalizing part with
  | nil => simp [Json.commaSeparated, List.intercalate]
  | cons next rest inductionHypothesis =>
      have first : Json.commaSeparated (part :: next :: rest) =
          part ++ ',' :: Json.commaSeparated (next :: rest) := by
        simp [Json.commaSeparated, List.intercalate]
      rw [first, inductionHypothesis, List.flatMap_cons, List.cons_append]

/-- The members after the first one. -/
theorem run_members {limit : Nat} (room : 1 ≤ limit) (others : List (String × String))
    (entries : List (PyStr × Value)) (previous : PyStr) :
    run limit ⟨.afterItem, [.object entries previous]⟩
        ((memberTexts others).flatMap (fun entry => ',' :: (Json.quote entry.1 ++ ':' :: entry.2))
          ++ ['\x7d']) =
      .ok ⟨.done (.obj (entries ++ memberValues others)), []⟩ := by
  induction others generalizing entries previous with
  | nil =>
      have closed : step ⟨.afterItem, [.object entries previous]⟩ '\x7d' =
          some ⟨.done (.obj entries), []⟩ := rfl
      simp only [memberTexts, memberValues, List.map_nil, List.flatMap_nil, List.nil_append,
        List.append_nil]
      rw [run_of_step closed (Nat.zero_le _), run_nil]
  | cons entry rest inductionHypothesis =>
      have separated : step ⟨.afterItem, [.object entries previous]⟩ ',' =
          some ⟨.nextKey, [.object entries previous]⟩ := rfl
      simp only [memberTexts, memberValues, List.map_cons, List.flatMap_cons, List.cons_append,
        List.append_assoc] at inductionHypothesis ⊢
      rw [run_of_step separated room, run_member room entries previous entry.1 entry.2 rfl,
        inductionHypothesis]
      simp only [List.append_assoc, List.singleton_append]

/-- `json.loads` of what `json.dumps` writes for an object of texts. -/
theorem loads_objectText {limit : Nat} (room : 1 ≤ limit) (first : String × String)
    (others : List (String × String)) :
    loads limit (Json.objectText (memberTexts (first :: others))) =
      .ok (.obj (memberValues (first :: others))) := by
  have opened : step start '\x7b' = some ⟨.firstKey, [.object [] []]⟩ := rfl
  have separated : Json.commaSeparated ((memberTexts (first :: others)).map fun entry =>
        Json.quote entry.1 ++ ':' :: entry.2) =
      Json.quote first.1 ++ ':' :: (Json.quote first.2 ++
        (memberTexts others).flatMap
          (fun entry => ',' :: (Json.quote entry.1 ++ ':' :: entry.2))) := by
    rw [memberTexts, List.map_cons, List.map_cons, commaSeparated_cons, List.flatMap_map,
      ← memberTexts]
    exact List.append_assoc (Json.quote first.1) (':' :: Json.quote first.2) _
  rw [loads, Json.objectText, separated, List.cons_append, run_of_step opened room,
    List.append_assoc, List.cons_append, List.append_assoc,
    run_member room [] [] first.1 first.2 rfl, run_members room]
  rfl

/-! ### Texts that begin with a digit -/

/-- A number outside every container, or the value that it was. -/
inductive OfNumber : Scan → Prop where
  | reading (stage : NumberStage) (literal : List Char) (notMinus : stage ≠ .minus) :
      OfNumber ⟨.number stage literal, []⟩
  | read (literal : List Char) : OfNumber ⟨.done (.number literal), []⟩

theorem OfNumber.stack_eq_nil {scan : Scan} (number : OfNumber scan) : scan.stack = [] := by
  cases number with
  | reading stage literal notMinus => rfl
  | read literal => rfl

theorem endNumber_number {stage : NumberStage} {literal : List Char} {value : Value}
    (ended : endNumber stage literal = some value) : value = .number literal := by
  cases stage with
  | integer =>
      simp only [endNumber] at ended
      split at ended
      · exact (Option.some.inj ended).symm
      · cases ended
  | zero => exact (Option.some.inj ended).symm
  | fraction => exact (Option.some.inj ended).symm
  | power => exact (Option.some.inj ended).symm
  | minus => cases ended
  | point => cases ended
  | exponent => cases ended
  | sign => cases ended

theorem next_ne_minus {stage next : NumberStage} {character : Char}
    (continued : stage.next? character = some next) : next ≠ .minus := by
  rintro rfl
  cases stage <;> simp only [NumberStage.next?] at continued <;> grind

/-- Outside every container only blanks may follow a value. -/
theorem afterValue_done {value : Value} {character : Char} {next : Scan}
    (stepped : afterValue ⟨.done value, []⟩ character = some next) :
    next = ⟨.done value, []⟩ := by
  simp only [afterValue] at stepped
  split at stepped
  · exact (Option.some.inj stepped).symm
  · cases stepped

theorem OfNumber.step {scan next : Scan} {character : Char} (number : OfNumber scan)
    (stepped : step scan character = some next) : OfNumber next := by
  cases number with
  | reading stage literal notMinus =>
      simp only [JsonScanner.step] at stepped
      cases continued : stage.next? character with
      | some further =>
          rw [continued] at stepped
          rw [← Option.some.inj stepped]
          exact .reading further _ (next_ne_minus continued)
      | none =>
          simp only [continued, notMinus, false_and, if_false, Option.bind_eq_some_iff] at stepped
          obtain ⟨value, ended, after⟩ := stepped
          rw [endNumber_number ended] at after
          rw [afterValue_done after]
          exact .read literal
  | read literal =>
      rw [afterValue_done stepped]
      exact .read literal

/-- A number stays what is read, or the text is refused. -/
theorem OfNumber.run {limit : Nat} {scan : Scan} (number : OfNumber scan) (text : List Char) :
    run limit scan text = .error .valueError ∨
      ∃ next, run limit scan text = .ok next ∧ OfNumber next := by
  induction text generalizing scan with
  | nil => exact .inr ⟨scan, rfl, number⟩
  | cons character rest inductionHypothesis =>
      rw [run_cons, stepWithin]
      cases stepped : JsonScanner.step scan character with
      | none => exact .inl rfl
      | some next =>
          have further := number.step stepped
          have room : ¬ limit < next.stack.length := by
            rw [further.stack_eq_nil]
            exact Nat.not_lt_zero limit
          simp only [if_neg room]
          exact inductionHypothesis further

theorem OfNumber.finish {scan : Scan} (number : OfNumber scan) :
    finish scan = .error .valueError ∨
      ∃ literal, finish scan = .ok (.number literal) := by
  cases number with
  | reading stage literal notMinus =>
      cases ended : endNumber stage literal with
      | none => simp [JsonScanner.finish, ended]
      | some value =>
          right
          exact ⟨literal, by simp [JsonScanner.finish, ended, endNumber_number ended]⟩
  | read literal => exact .inr ⟨literal, rfl⟩

theorem OfNumber.of_digit {digit : Char} (isOne : isDigit digit = true) :
    ∃ next, JsonScanner.step start digit = some next ∧ OfNumber next := by
  have range : 48 ≤ digit.toNat ∧ digit.toNat ≤ 57 := of_decide_eq_true isOne
  have other : ∀ character : Char, ¬ (48 ≤ character.toNat ∧ character.toNat ≤ 57) →
      digit ≠ character := by
    rintro character outside rfl
    exact outside range
  have notBlank : isBlank digit = false := by
    simp [isBlank, other]
  by_cases zero : digit = '0'
  · subst zero
    exact ⟨⟨.number .zero ['0'], []⟩, rfl, .reading .zero _ (by decide)⟩
  · refine ⟨⟨.number .integer [digit], []⟩, ?_, .reading .integer _ (by decide)⟩
    simp [JsonScanner.step, start, notBlank, startValue, other, zero, isOne]

/-- A text that begins with a digit is a number or no JSON text. -/
theorem loads_of_digit (limit : Nat) {digit : Char} (isOne : isDigit digit = true)
    (rest : List Char) :
    loads limit (digit :: rest) = .error .valueError ∨
      ∃ literal, loads limit (digit :: rest) = .ok (.number literal) := by
  obtain ⟨first, stepped, number⟩ := OfNumber.of_digit isOne
  have room : first.stack.length ≤ limit := by
    rw [number.stack_eq_nil]
    exact Nat.zero_le limit
  rw [loads, run_of_step stepped room]
  rcases number.run rest with refused | ⟨last, done, further⟩
  · exact .inl (by rw [refused]; rfl)
  · rw [done]
    exact further.finish

end JsonScanner

end LlmObs.Foundation
