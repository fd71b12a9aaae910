import LlmObs.Backend.Runtime
import LlmObs.Foundation.Dict
import Mathlib.Data.Rat.Defs

/-!
Owns the summary of task arguments that reaches the table of failed tasks: what each
rule makes of an argument, which arguments have one summary, that a summary is its own
summary, and the row that is stored.
-/

namespace LlmObs.Backend

open LlmObs.Foundation

/-- `str.lower`. It leaves a text alone that has lower-case ASCII letters and
underscores only. -/
structure LowerCase where
  lower : String → String
  lower_of_ascii : ∀ text : String,
    (∀ char ∈ text.toList, char = '_' ∨ ('a' ≤ char ∧ char ≤ 'z')) → lower text = text

/-- `str | int | float | bool` or `None`. -/
inductive TaskScalar where
  | none
  | bool (value : Bool)
  | int (value : Int)
  | float (value : ℚ)
  | str (text : String)
deriving DecidableEq, Repr

/-- A task argument. `typeName` is `type(value).__name__`. -/
inductive TaskArg (Content : Type) where
  | scalar (value : TaskScalar)
  /-- `isinstance(value, list)` -/
  | list (typeName : String) (items : List Content)
  /-- A `dict`, a `tuple`, any other object. -/
  | other (typeName : String) (content : Content)
deriving DecidableEq, Repr

abbrev TaskArgs (Content : Type) := PyDict String (TaskArg Content)

/-- `SAFE_ARG_KEYS` -/
def safeArgKeys : List String := ["batch_id", "project_id"]

/-- `SENSITIVE_KEY_PARTS` -/
def sensitiveKeyParts : List String := ["api_key", "authorization", "password", "secret", "token"]

section Summary

variable {Content : Type} (lowerCase : LowerCase)

def isSensitiveKey (key : String) : Bool :=
  sensitiveKeyParts.any fun part => containsText part (lowerCase.lower key)

/-- `<{type(value).__name__}>` -/
def typeLabel (typeName : String) : TaskArg Content := .scalar (.str ("<" ++ typeName ++ ">"))

/-- What one pass of the loop assigns in the summary. -/
def summarizeArg (key : String) (value : TaskArg Content) : String × TaskArg Content :=
  if isSensitiveKey lowerCase key then (key, .scalar (.str "[redacted]"))
  else if key ∈ safeArgKeys then (key, value)
  else match value with
    | .list typeName items =>
        if key = "spans" then ("span_count", .scalar (.int items.length))
        else (key, typeLabel typeName)
    | .scalar value => (key, .scalar value)
    | .other typeName _ => (key, typeLabel typeName)

def summarizeTaskArgs (taskArgs : TaskArgs Content) : TaskArgs Content :=
  .ofEntries (taskArgs.entries.map fun entry => summarizeArg lowerCase entry.1 entry.2)

/-! ### What a summary hides -/

/-- Two values of one key that differ in what the summary is to hide at most: in a
value under a sensitive key, in the spans, inside a container. -/
def ArgsAgree (key : String) (left right : TaskArg Content) : Prop :=
  isSensitiveKey lowerCase key ∨ left = right ∨
    key ∉ safeArgKeys ∧
      match left, right with
      | .list leftType leftItems, .list rightType rightItems =>
          if key = "spans" then leftItems.length = rightItems.length else leftType = rightType
      | .other leftType _, .other rightType _ => leftType = rightType
      | _, _ => False

/-- The same keys, with values that agree. -/
def SameUpToContent (left right : TaskArgs Content) : Prop :=
  ∀ key, Option.Rel (ArgsAgree lowerCase key) (left.get? key) (right.get? key)

/-- The number of spans would be assigned to the key of another argument. -/
def CountsOverArg (taskArgs : TaskArgs Content) : Prop :=
  (∃ typeName items, ("spans", TaskArg.list typeName items) ∈ taskArgs.entries) ∧
    "span_count" ∈ taskArgs.entries.map Prod.fst

variable {lowerCase}

theorem summarizeArg_of_agree {key : String} {left right : TaskArg Content}
    (agree : ArgsAgree lowerCase key left right) :
    summarizeArg lowerCase key left = summarizeArg lowerCase key right := by
  unfold summarizeArg
  rcases agree with sensitive | rfl | ⟨notSafe, outline⟩
  · rw [if_pos sensitive, if_pos sensitive]
  · rfl
  · rw [if_neg notSafe, if_neg notSafe]
    cases left with
    | scalar value => cases outline
    | list leftType leftItems =>
        cases right with
        | list rightType rightItems =>
            dsimp only at outline ⊢
            by_cases spans : key = "spans"
            · rw [if_pos spans] at outline
              rw [if_pos spans, if_pos spans, outline]
            · rw [if_neg spans] at outline
              rw [if_neg spans, if_neg spans, outline]
        | scalar value => cases outline
        | other typeName content => cases outline
    | other leftType content =>
        cases right with
        | other rightType otherContent =>
            dsimp only at outline ⊢
            rw [outline]
        | scalar value => cases outline
        | list typeName items => cases outline

/-- The keys that the rules name are not sensitive. -/
theorem not_isSensitiveKey {key : String}
    (named : key ∈ ["span_count", "spans", "project_id", "batch_id"]) :
    isSensitiveKey lowerCase key = false := by
  have ascii : ∀ char ∈ key.toList, char = '_' ∨ ('a' ≤ char ∧ char ≤ 'z') := by
    simp only [List.mem_cons, List.not_mem_nil, or_false] at named
    rcases named with rfl | rfl | rfl | rfl <;> simp
  have harmless : ∀ name ∈ ["span_count", "spans", "project_id", "batch_id"],
      (sensitiveKeyParts.any fun part => containsText part name) = false := by decide
  unfold isSensitiveKey
  rw [lowerCase.lower_of_ascii key ascii]
  exact harmless key named

/-- A summarized argument is its own summary. -/
theorem summarizeArg_summarizeArg (key : String) (value : TaskArg Content) :
    summarizeArg lowerCase (summarizeArg lowerCase key value).1
        (summarizeArg lowerCase key value).2 = summarizeArg lowerCase key value := by
  by_cases sensitive : isSensitiveKey lowerCase key
  · simp only [summarizeArg, if_pos sensitive]
  · by_cases safe : key ∈ safeArgKeys
    · simp only [summarizeArg, if_neg sensitive, if_pos safe]
    · cases value with
      | scalar value => simp only [summarizeArg, if_neg sensitive, if_neg safe]
      | list typeName items =>
          by_cases spans : key = "spans"
          · have notSafe : "span_count" ∉ safeArgKeys := by decide
            have harmless : isSensitiveKey lowerCase "span_count" = false :=
              not_isSensitiveKey (by decide)
            simp only [summarizeArg, if_neg sensitive, if_neg safe, if_pos spans, harmless,
              if_neg notSafe, Bool.false_eq_true, if_false]
          · simp only [summarizeArg, if_neg sensitive, if_neg safe, if_neg spans, typeLabel]
      | other typeName content =>
          simp only [summarizeArg, if_neg sensitive, if_neg safe, typeLabel]

/-! ### Whole summaries -/

variable {taskArgs left right : TaskArgs Content}

/-- In the order of the keys. -/
theorem map_summarizeArg_of_same (same : SameUpToContent lowerCase left right)
    (order : left.entries.map Prod.fst = right.entries.map Prod.fst) :
    (left.entries.map fun entry => summarizeArg lowerCase entry.1 entry.2) =
      right.entries.map fun entry => summarizeArg lowerCase entry.1 entry.2 := by
  apply List.ext_getElem
  · have counts := congrArg List.length order
    simpa using counts
  · intro index leftBound rightBound
    rw [List.length_map] at leftBound rightBound
    rw [List.getElem_map, List.getElem_map]
    have key : left.entries[index].1 = right.entries[index].1 := by
      have keys := congrArg (fun list => list[index]?) order
      simpa [leftBound, rightBound] using keys
    have leftValue : left.get? left.entries[index].1 = some left.entries[index].2 :=
      PyDict.get?_eq_some.mpr (List.getElem_mem leftBound)
    have rightValue : right.get? right.entries[index].1 = some right.entries[index].2 :=
      PyDict.get?_eq_some.mpr (List.getElem_mem rightBound)
    have agree := same left.entries[index].1
    rw [leftValue, key, rightValue] at agree
    cases agree with
    | some values =>
        rw [key]
        exact summarizeArg_of_agree values

theorem key_summarizeArg (key : String) (value : TaskArg Content) :
    (summarizeArg lowerCase key value).1 = key ∨
      (key = "spans" ∧ (∃ typeName items, value = .list typeName items) ∧
        (summarizeArg lowerCase key value).1 = "span_count") := by
  unfold summarizeArg
  split
  · exact Or.inl rfl
  · split
    · exact Or.inl rfl
    · cases value with
      | scalar value => exact Or.inl rfl
      | other typeName content => exact Or.inl rfl
      | list typeName items =>
          dsimp only
          split
          · rename_i spans
            exact Or.inr ⟨spans, ⟨typeName, items, rfl⟩, rfl⟩
          · exact Or.inl rfl

/-- Different arguments keep different keys, but where the number of spans is counted
over another argument. -/
theorem nodup_keys_summarized (apart : ¬ CountsOverArg taskArgs) :
    ((taskArgs.entries.map fun entry =>
      summarizeArg lowerCase entry.1 entry.2).map Prod.fst).Nodup := by
  have oneEach := List.inj_on_of_nodup_map taskArgs.nodup
  rw [List.map_map]
  refine taskArgs.nodup.of_map.map_on fun left leftMember right rightMember sameKey => ?_
  have leftKey : (summarizeArg lowerCase left.1 left.2).1 = left.1 ∨ _ :=
    key_summarizeArg left.1 left.2
  have rightKey : (summarizeArg lowerCase right.1 right.2).1 = right.1 ∨ _ :=
    key_summarizeArg right.1 right.2
  rw [Function.comp_apply, Function.comp_apply] at sameKey
  -- A key that is replaced is the one of the spans, and its new name is no other key.
  rcases leftKey with leftKept | ⟨leftSpans, ⟨typeName, items, leftList⟩, leftCount⟩
  · rcases rightKey with rightKept | ⟨rightSpans, ⟨typeName, items, rightList⟩, rightCount⟩
    · rw [leftKept, rightKept] at sameKey
      exact oneEach leftMember rightMember sameKey
    · refine absurd ⟨⟨typeName, items, ?_⟩, ?_⟩ apart
      · rw [← rightSpans, ← rightList]
        exact rightMember
      · rw [leftKept, rightCount] at sameKey
        exact List.mem_map.mpr ⟨left, leftMember, sameKey⟩
  · rcases rightKey with rightKept | ⟨rightSpans, _, _⟩
    · refine absurd ⟨⟨typeName, items, ?_⟩, ?_⟩ apart
      · rw [← leftSpans, ← leftList]
        exact leftMember
      · rw [rightKept, leftCount] at sameKey
        exact List.mem_map.mpr ⟨right, rightMember, sameKey.symm⟩
    · exact oneEach leftMember rightMember (leftSpans.trans rightSpans.symm)

/-- The summary is one assignment for each argument. -/
theorem mem_summarizeTaskArgs_iff (apart : ¬ CountsOverArg taskArgs)
    {summarized : String × TaskArg Content} :
    summarized ∈ (summarizeTaskArgs lowerCase taskArgs).entries ↔
      ∃ entry ∈ taskArgs.entries, summarizeArg lowerCase entry.1 entry.2 = summarized := by
  show summarized ∈ Dict.ofEntries _ ↔ _
  rw [Dict.ofEntries_of_nodup (nodup_keys_summarized apart), List.mem_map]

theorem SameUpToContent.of_perm (order : left.entries.Perm right.entries) :
    SameUpToContent lowerCase left right := by
  intro key
  have equal : left.get? key = right.get? key := by
    apply Option.ext
    intro value
    rw [PyDict.get?_eq_some, PyDict.get?_eq_some]
    exact order.mem_iff
  rw [equal]
  cases right.get? key with
  | none => exact .none
  | some value => exact .some (Or.inr (Or.inl rfl))

theorem SameUpToContent.symm (same : SameUpToContent lowerCase left right) :
    SameUpToContent lowerCase right left := by
  intro key
  have agree := same key
  generalize left.get? key = leftValue at agree ⊢
  generalize right.get? key = rightValue at agree ⊢
  cases agree with
  | none => exact .none
  | some values =>
      apply Option.Rel.some
      rcases values with sensitive | equal | ⟨notSafe, outline⟩
      · exact Or.inl sensitive
      · exact Or.inr (Or.inl equal.symm)
      · refine Or.inr (Or.inr ⟨notSafe, ?_⟩)
        split at outline
        · split at outline
          · rename_i spans
            exact (if_pos spans).mpr outline.symm
          · rename_i other
            exact (if_neg other).mpr outline.symm
        · exact outline.symm
        · cases outline

/-- A value for a key on one side has one that agrees on the other side. -/
theorem SameUpToContent.exists_agree (same : SameUpToContent lowerCase left right)
    {key : String} {value : TaskArg Content} (member : (key, value) ∈ left.entries) :
    ∃ other, (key, other) ∈ right.entries ∧ ArgsAgree lowerCase key value other := by
  have agree := same key
  rw [PyDict.get?_eq_some.mpr member] at agree
  generalize found : right.get? key = rightValue at agree
  cases agree with
  | some values => exact ⟨_, PyDict.get?_eq_some.mp found, values⟩

theorem CountsOverArg.of_same (same : SameUpToContent lowerCase left right)
    (counts : CountsOverArg left) : CountsOverArg right := by
  obtain ⟨⟨typeName, items, spans⟩, counted⟩ := counts
  obtain ⟨entry, member, key⟩ := List.mem_map.mp counted
  obtain ⟨otherSpans, otherMember, agree⟩ := same.exists_agree spans
  obtain ⟨other, present, _⟩ := same.exists_agree (show (entry.1, entry.2) ∈ _ from member)
  refine ⟨?_, List.mem_map.mpr ⟨_, present, key⟩⟩
  rcases agree with sensitive | rfl | ⟨_, outline⟩
  · rw [not_isSensitiveKey (by decide)] at sensitive
    cases sensitive
  · exact ⟨typeName, items, otherMember⟩
  · cases otherSpans with
    | list otherType otherItems => exact ⟨otherType, otherItems, otherMember⟩
    | scalar value => cases outline
    | other otherType content => cases outline

theorem mem_summarizeTaskArgs_of_same (same : SameUpToContent lowerCase left right)
    (apart : ¬ CountsOverArg left) {summarized : String × TaskArg Content}
    (member : summarized ∈ (summarizeTaskArgs lowerCase left).entries) :
    summarized ∈ (summarizeTaskArgs lowerCase right).entries := by
  obtain ⟨entry, listed, rfl⟩ := (mem_summarizeTaskArgs_iff apart).mp member
  obtain ⟨other, present, agree⟩ := same.exists_agree listed
  have apartRight : ¬ CountsOverArg right := fun counts => apart (counts.of_same same.symm)
  exact (mem_summarizeTaskArgs_iff apartRight).mpr
    ⟨_, present, (summarizeArg_of_agree agree).symm⟩

/-- Arguments with the same keys and values that agree have one summary: in order where
the keys stand in one order, and as a dictionary in any order, where no number of spans
is counted over another argument. A summary is its own summary. -/
theorem summarizeTaskArgs_hides (lowerCase : LowerCase) (Content : Type) :
    (∀ left right : TaskArgs Content, SameUpToContent lowerCase left right →
      (left.entries.map Prod.fst = right.entries.map Prod.fst →
        summarizeTaskArgs lowerCase left = summarizeTaskArgs lowerCase right) ∧
      (¬ CountsOverArg left → ∀ key,
        (summarizeTaskArgs lowerCase left).get? key =
          (summarizeTaskArgs lowerCase right).get? key)) ∧
    ∀ taskArgs : TaskArgs Content,
      summarizeTaskArgs lowerCase (summarizeTaskArgs lowerCase taskArgs) =
        summarizeTaskArgs lowerCase taskArgs := by
  refine ⟨fun left right same => ⟨fun order => ?_, fun apart key => ?_⟩, fun taskArgs => ?_⟩
  · unfold summarizeTaskArgs
    rw [map_summarizeArg_of_same same order]
  · have apartRight : ¬ CountsOverArg right := fun counts => apart (counts.of_same same.symm)
    apply Option.ext
    intro value
    rw [PyDict.get?_eq_some, PyDict.get?_eq_some]
    exact ⟨mem_summarizeTaskArgs_of_same same apart,
      mem_summarizeTaskArgs_of_same same.symm apartRight⟩
  · apply PyDict.eq_of_entries
    have unchanged : ((summarizeTaskArgs lowerCase taskArgs).entries.map fun entry =>
        summarizeArg lowerCase entry.1 entry.2) =
        (summarizeTaskArgs lowerCase taskArgs).entries := by
      conv_rhs => rw [← List.map_id (summarizeTaskArgs lowerCase taskArgs).entries]
      apply List.map_congr_left
      intro entry member
      obtain ⟨arg, _, rfl⟩ := List.mem_map.mp (Dict.mem_of_mem_ofEntries member)
      exact summarizeArg_summarizeArg arg.1 arg.2
    show Dict.ofEntries (List.map _ _) = _
    rw [unchanged]
    exact Dict.ofEntries_of_nodup (summarizeTaskArgs lowerCase taskArgs).nodup

/-- The same arguments in another order, `span_count` before or after the spans, have
another summary. -/
theorem summarizeTaskArgs_order :
    ¬ ∀ (lowerCase : LowerCase) (left right : TaskArgs Unit),
      SameUpToContent lowerCase left right →
        ∀ key, (summarizeTaskArgs lowerCase left).get? key =
          (summarizeTaskArgs lowerCase right).get? key := by
  intro hides
  have equal := hides ⟨id, fun _ _ => rfl⟩
    ⟨[("spans", .list "list" []), ("span_count", .scalar (.int 5))], by decide⟩
    ⟨[("span_count", .scalar (.int 5)), ("spans", .list "list" [])], by decide⟩
    (.of_perm (List.Perm.swap ..)) "span_count"
  revert equal
  decide

end Summary

/-! ### The stored row -/

/-- The row of `failed_tasks`. -/
structure FailedTaskRow (Time : Type) where
  orgId : Option String
  projectId : Option String
  taskName : String
  taskArgs : String
  error : String
  attempts : Nat
  failedAt : Time
deriving DecidableEq, Repr

/-- What `record_failed_task` takes from its process and its database. -/
structure FailedTaskEnv (Content : Type) extends LowerCase where
  /-- `json.dumps(value, default=str)` -/
  dumps : TaskArgs Content → String
  /-- `str(value) if value else None` -/
  strIfTrue : TaskArg Content → Option String
  /-- `org_id` of the project's row. -/
  orgOf : String → Option String

/-- `MAX_SUMMARY_LENGTH` -/
def maxSummaryLength : Nat := 10000

/-- `MAX_ERROR_LENGTH` -/
def maxErrorLength : Nat := 5000

/-- `text[:length]` -/
def prefixText (length : Nat) (text : String) : String := String.ofList (text.toList.take length)

def extractProjectId {Content : Type} (env : FailedTaskEnv Content) (taskArgs : TaskArgs Content) :
    Option String :=
  (taskArgs.get? "project_id").bind env.strIfTrue

def resolveOrgId {Content : Type} (env : FailedTaskEnv Content) :
    Option String → Option String
  | some projectId => if projectId = "" then none else env.orgOf projectId
  | none => none

def recordFailedTask {Content Time : Type} (env : FailedTaskEnv Content) (taskName : String)
    (taskArgs : TaskArgs Content) (error : String) (attempts : Nat) (failedAt : Time) :
    FailedTaskRow Time :=
  let projectId := extractProjectId env taskArgs
  { orgId := resolveOrgId env projectId
    projectId := projectId
    taskName := taskName
    taskArgs := prefixText maxSummaryLength (env.dumps (summarizeTaskArgs env.toLowerCase taskArgs))
    error := prefixText maxErrorLength error
    attempts := attempts
    failedAt := failedAt }

/-- The row says no more about the arguments than their summary does. -/
theorem recordFailedTask_of_same {Content Time : Type} {env : FailedTaskEnv Content}
    {left right : TaskArgs Content} (same : SameUpToContent env.toLowerCase left right)
    (order : left.entries.map Prod.fst = right.entries.map Prod.fst) (taskName error : String)
    (attempts : Nat) (failedAt : Time) :
    recordFailedTask env taskName left error attempts failedAt =
      recordFailedTask env taskName right error attempts failedAt := by
  have projects : left.get? "project_id" = right.get? "project_id" := by
    have agree := same "project_id"
    generalize left.get? "project_id" = leftValue at agree ⊢
    generalize right.get? "project_id" = rightValue at agree ⊢
    cases agree with
    | none => rfl
    | some values =>
        rcases values with sensitive | equal | ⟨notSafe, _⟩
        · rw [not_isSensitiveKey (by decide)] at sensitive
          cases sensitive
        · rw [equal]
        · exact absurd (by decide) notSafe
  have summaries := map_summarizeArg_of_same same order
  unfold recordFailedTask extractProjectId summarizeTaskArgs
  rw [projects, summaries]

end LlmObs.Backend
