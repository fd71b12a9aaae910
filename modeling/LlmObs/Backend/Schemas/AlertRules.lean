import LlmObs.Backend.Schemas.Alerts
import LlmObs.Foundation.Uuid
import Mathlib.Algebra.Order.Ring.Rat

/-!
Owns the two request bodies of alert rules: what `AlertRuleCreate` and `AlertRuleUpdate`
accept, and what of an accepted body is kept.
-/

namespace LlmObs.Backend

open LlmObs.Foundation

/-- `AlertMetric` -/
inductive AlertMetric where
  | latencyP95
  | errorRate
  | costHourly
  | anomaly
deriving DecidableEq, Repr

def AlertMetric.text : AlertMetric → String
  | .latencyP95 => "latency_p95"
  | .errorRate => "error_rate"
  | .costHourly => "cost_hourly"
  | .anomaly => "anomaly"

/-- `AlertCondition` -/
inductive AlertCondition where
  | gt
  | lt
  | anomaly
deriving DecidableEq, Repr

/-- `EmailStr`: the address that is kept, or the text of an error. No address is empty. -/
structure EmailLibrary where
  validateEmail : String → Except String String
  validateEmail_ne : ∀ {text address}, validateEmail text = .ok address → address ≠ ""

structure AlertRuleCreate where
  projectId : UUID
  name : String
  metric : AlertMetric
  condition : AlertCondition
  threshold : Option ℚ := none
  windowMinutes : Nat := 5
  cooldownMinutes : Nat := 15
  notifySlackWebhook : Option String := none
  notifyEmail : Option String := none
  windowMinutes_ge : 1 ≤ windowMinutes := by decide
  cooldownMinutes_ge : 1 ≤ cooldownMinutes := by decide

structure AlertRuleUpdate where
  isActive : Option Bool := none
  threshold : Option ℚ := none
  notifySlackWebhook : Option String := none
  notifyEmail : Option String := none

/-! ### The validators -/

def thresholdNotPositive : String := "threshold must be greater than 0"

/-- `_validate_threshold_for_metric` -/
def validateThresholdForMetric (metric : AlertMetric) (condition : AlertCondition)
    (threshold : Option ℚ) : Except String Unit :=
  if metric = .anomaly ∨ condition = .anomaly then .ok ()
  else
    match threshold with
    | none => .error "threshold is required for non-anomaly alert rules"
    | some threshold => if threshold ≤ 0 then .error thresholdNotPositive else .ok ()

/-- `AlertRuleUpdate.validate_threshold` -/
def validateThreshold : Option ℚ → Except String (Option ℚ)
  | none => .ok none
  | some threshold =>
      if threshold ≤ 0 then .error thresholdNotPositive else .ok (some threshold)

/-- The errors of one field. -/
def fieldErrors {α : Type} : Except String α → List String
  | .ok _ => []
  | .error text => [text]

section

variable (library : UrlLibrary) (emails : EmailLibrary)

/-- `normalize_email`, then `EmailStr`. -/
def validateNotifyEmail (value : Option String) : Except String (Option String) :=
  match normalizeOptionalString library value with
  | none => .ok none
  | some text => (emails.validateEmail text).map some

/-- `AlertRuleCreate.validate_rule` -/
def AlertRuleCreate.validateRule (body : AlertRuleCreate) : Except String AlertRuleCreate := do
  validateThresholdForMetric body.metric body.condition body.threshold
  if isFilled body.notifySlackWebhook = false ∧ isFilled body.notifyEmail = false then
    .error "at least one notification target is required"
  else .ok body

/-- The body that an endpoint sees, or the errors of the request. -/
def AlertRuleCreate.validate (body : AlertRuleCreate) : Except (List String) AlertRuleCreate :=
  match validateHttpsWebhook library body.notifySlackWebhook,
      validateNotifyEmail library emails body.notifyEmail with
  | .ok slack, .ok email =>
      match AlertRuleCreate.validateRule
          { body with notifySlackWebhook := slack, notifyEmail := email } with
      | .ok accepted => .ok accepted
      | .error text => .error [text]
  | slack, email => .error (fieldErrors slack ++ fieldErrors email)

def AlertRuleUpdate.validate (body : AlertRuleUpdate) : Except (List String) AlertRuleUpdate :=
  match validateThreshold body.threshold, validateHttpsWebhook library body.notifySlackWebhook,
      validateNotifyEmail library emails body.notifyEmail with
  | .ok threshold, .ok slack, .ok email => .ok
      { body with threshold := threshold, notifySlackWebhook := slack, notifyEmail := email }
  | threshold, slack, email =>
      .error (fieldErrors threshold ++ fieldErrors slack ++ fieldErrors email)

end

/-! ### What is kept -/

section

variable {library : UrlLibrary} {emails : EmailLibrary}

/-- An optional text is absent or not empty. -/
def IsTarget (target : Option String) : Prop := ∀ text, target = some text → text ≠ ""

theorem IsTarget.isFilled {text : String} (kept : IsTarget (some text)) :
    isFilled (some text) = true := by
  simp [LlmObs.Backend.isFilled, kept text rfl]

theorem isTarget_webhook {value kept : Option String}
    (validated : validateHttpsWebhook library value = .ok kept) : IsTarget kept := by
  intro text same
  subst same
  unfold validateHttpsWebhook at validated
  cases normalized : normalizeOptionalString library value with
  | none =>
      rw [normalized] at validated
      cases validated
  | some stripped =>
      rw [normalized] at validated
      obtain ⟨webhook, checked, same⟩ := map_eq_ok.mp validated
      cases same
      rw [(isSlackUrl_of_validated checked).1]
      -- only a text that is not blank is normalized to a text
      cases value with
      | none => cases normalized
      | some given =>
          simp only [normalizeOptionalString] at normalized
          split at normalized
          · cases normalized
          · rename_i filled
            exact Option.some.inj normalized ▸ filled

theorem isTarget_email {value kept : Option String}
    (validated : validateNotifyEmail library emails value = .ok kept) : IsTarget kept := by
  intro text same
  subst same
  unfold validateNotifyEmail at validated
  split at validated
  · cases validated
  · obtain ⟨address, checked, same⟩ := map_eq_ok.mp validated
    cases same
    exact emails.validateEmail_ne checked

/-- An accepted body: it has a target, and a threshold unless it is about anomalies. -/
structure AlertRuleCreate.Accepted (body : AlertRuleCreate) : Prop where
  target : isFilled body.notifySlackWebhook = true ∨ isFilled body.notifyEmail = true
  threshold : body.metric ≠ .anomaly → body.condition ≠ .anomaly →
    ∃ threshold, body.threshold = some threshold ∧ 0 < threshold

theorem accepted_validateRule {body kept : AlertRuleCreate}
    (validated : body.validateRule = .ok kept) : kept = body ∧ body.Accepted := by
  obtain ⟨_, checked, targeted⟩ := bind_eq_ok.mp validated
  split at targeted
  · cases targeted
  · rename_i filled
    refine ⟨(Except.ok.inj targeted).symm, ?_, ?_⟩
    · rw [not_and_or, Bool.not_eq_false, Bool.not_eq_false] at filled
      exact filled
    · intro metric condition
      unfold validateThresholdForMetric at checked
      rw [if_neg (not_or.mpr ⟨metric, condition⟩)] at checked
      split at checked
      · cases checked
      · rename_i threshold given
        split at checked
        · cases checked
        · rename_i positive
          exact ⟨threshold, given, not_le.mp positive⟩

theorem AlertRuleCreate.accepted_of_validate {body kept : AlertRuleCreate}
    (validated : body.validate library emails = .ok kept) : kept.Accepted := by
  unfold AlertRuleCreate.validate at validated
  split at validated
  · split at validated
    · rename_i accepted checked
      cases validated
      obtain ⟨rfl, holds⟩ := accepted_validateRule checked
      exact holds
    · cases validated
  · cases validated

/-- What the validators keep of an update: a positive threshold and filled targets. -/
structure AlertRuleUpdate.Accepted (body : AlertRuleUpdate) : Prop where
  threshold : ∀ threshold, body.threshold = some threshold → 0 < threshold
  slack : IsTarget body.notifySlackWebhook
  email : IsTarget body.notifyEmail

theorem AlertRuleUpdate.accepted_of_validate {body kept : AlertRuleUpdate}
    (validated : body.validate library emails = .ok kept) : kept.Accepted := by
  unfold AlertRuleUpdate.validate at validated
  split at validated
  · rename_i threshold slack email thresholdChecked slackChecked emailChecked
    cases validated
    refine ⟨fun value given => ?_, isTarget_webhook slackChecked, isTarget_email emailChecked⟩
    dsimp only at given
    subst given
    unfold validateThreshold at thresholdChecked
    split at thresholdChecked
    · cases thresholdChecked
    · split at thresholdChecked
      · cases thresholdChecked
      · rename_i positive
        cases thresholdChecked
        exact not_le.mp positive
  · cases validated

end

end LlmObs.Backend
