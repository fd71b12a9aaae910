import LlmObs.Backend.Core.Accounts
import LlmObs.Backend.Schemas.AlertRules
import LlmObs.Foundation.Machine

/-!
Owns the table of alert rules and the endpoints that write it: `create_rule`, `update_rule`
and `delete_rule`. A rule that any accepted requests lead to keeps a notification target, and
a positive threshold unless it is about anomalies.
-/

namespace LlmObs.Backend

open LlmObs.Foundation

/-! ### Access -/

/-- `PROJECT_ROLE_LEVELS` -/
def projectRoleLevels : List (String × Int) := [("viewer", 0), ("member", 1)]

/-- `project_role_allows` -/
def projectRoleAllows (role : Option String) (requiredRole : MembershipRole) : Bool :=
  decide ((projectRoleLevels.lookup requiredRole.text).getD 0 ≤
    (role.bind fun role => projectRoleLevels.lookup role).getD (-1))

/-- `get_project_for_user`: whether the user may use the project. -/
def getProjectForUser (db : AccountDatabase) (user : SignedInUser) (projectId : UUID)
    (requiredRole : MembershipRole) : Except AccountsError Unit :=
  match db.projects.rows.find? fun project =>
      project.id = projectId ∧ project.orgId = user.orgId ∧ project.isActive = true with
  | none => .error (.http 404 "Project not found")
  | some _ =>
      let membership := db.memberships.rows.find? fun membership =>
        membership.projectId = projectId ∧ membership.userId = user.sub
      if user.role = "admin" then .ok ()
      else if projectRoleAllows (membership.map (·.role.text)) requiredRole then .ok ()
      else .error (.http 403 "Project access denied")

/-! ### Rules -/

/-- A row of `alert_rules`. -/
structure AlertRuleRow where
  id : UUID
  projectId : UUID
  name : String
  metric : AlertMetric
  condition : AlertCondition
  threshold : Option ℚ
  windowMinutes : Nat
  cooldownMinutes : Nat
  notifySlackWebhook : Option String
  notifyEmail : Option String
  isActive : Bool
  windowMinutes_ge : 1 ≤ windowMinutes := by decide
  cooldownMinutes_ge : 1 ≤ cooldownMinutes := by decide

abbrev AlertRuleTable := Table AlertRuleRow fun left right => left.id = right.id

/-- The limits of the columns. -/
def AlertRuleRow.FitsColumns (rule : AlertRuleRow) : Prop :=
  rule.name.length ≤ 255 ∧ rule.windowMinutes < 2 ^ 31 ∧ rule.cooldownMinutes < 2 ^ 31 ∧
    (∀ webhook ∈ rule.notifySlackWebhook, webhook.length ≤ 500) ∧
      ∀ email ∈ rule.notifyEmail, email.length ≤ 255

instance AlertRuleRow.decidableFitsColumns (rule : AlertRuleRow) : Decidable rule.FitsColumns :=
  inferInstanceAs (Decidable (_ ∧ _ ∧ _ ∧ _ ∧ _))

/-- The rule that an accepted body inserts. -/
def AlertRuleCreate.row (body : AlertRuleCreate) (ruleId : UUID) : AlertRuleRow where
  id := ruleId
  projectId := body.projectId
  name := body.name
  metric := body.metric
  condition := body.condition
  threshold := body.threshold
  windowMinutes := body.windowMinutes
  cooldownMinutes := body.cooldownMinutes
  notifySlackWebhook := body.notifySlackWebhook
  notifyEmail := body.notifyEmail
  isActive := true
  windowMinutes_ge := body.windowMinutes_ge
  cooldownMinutes_ge := body.cooldownMinutes_ge

/-- `not updates` -/
def AlertRuleUpdate.isEmpty (body : AlertRuleUpdate) : Bool :=
  body.isActive.isNone && body.threshold.isNone && body.notifySlackWebhook.isNone &&
    body.notifyEmail.isNone

/-- The `SET` clause: the fields that are not null. -/
def AlertRuleUpdate.set (body : AlertRuleUpdate) (rule : AlertRuleRow) : AlertRuleRow :=
  { rule with
    isActive := body.isActive.getD rule.isActive
    threshold := body.threshold.or rule.threshold
    notifySlackWebhook := body.notifySlackWebhook.or rule.notifySlackWebhook
    notifyEmail := body.notifyEmail.or rule.notifyEmail }

/-- The `WHERE` clause of both writes. -/
def AlertRuleRow.isOf (ruleId projectId : UUID) (rule : AlertRuleRow) : Bool :=
  decide (rule.id = ruleId) && decide (rule.projectId = projectId)

/-! ### Endpoints -/

inductive AlertsError where
  /-- The 422 of a body that is not valid. -/
  | invalid (errors : List String)
  | http (statusCode : Nat) (detail : String)
  | raised (exception : PyException)
deriving DecidableEq, Repr

def AccountsError.alerts : AccountsError → AlertsError
  | .http statusCode detail => .http statusCode detail
  | .raised exception => .raised exception

def alertColumnError : AlertsError := .raised ⟨.sqlAlchemyError, "value out of range"⟩

section

variable (library : UrlLibrary) (emails : EmailLibrary)

/-- `create_rule`, with the id that `uuid4` returns: the table afterwards. -/
def createRule (db : AccountDatabase) (user : SignedInUser) (ruleId : UUID)
    (body : AlertRuleCreate) (table : AlertRuleTable) : Except AlertsError AlertRuleTable := do
  let body ← (body.validate library emails).mapError .invalid
  (getProjectForUser db user body.projectId .member).mapError AccountsError.alerts
  if (body.row ruleId).FitsColumns then
    match table.insert? (body.row ruleId) with
    | some next => return next
    | none => throw (.raised ⟨.sqlAlchemyError, "duplicate key value violates unique constraint"⟩)
  else throw alertColumnError

/-- `update_rule` -/
def updateRule (db : AccountDatabase) (user : SignedInUser) (ruleId projectId : UUID)
    (body : AlertRuleUpdate) (table : AlertRuleTable) : Except AlertsError AlertRuleTable := do
  let body ← (body.validate library emails).mapError .invalid
  (getProjectForUser db user projectId .member).mapError AccountsError.alerts
  if body.isEmpty then throw (.http 400 "No fields to update")
  else
    match table.rows.find? (·.isOf ruleId projectId) with
    | none => throw (.http 404 "Rule not found")
    | some stored =>
        if (body.set stored).FitsColumns then
          return table.mapRows
            (fun rule => if rule.isOf ruleId projectId then body.set rule else rule)
            fun left right same => by
              revert same
              split <;> split <;> exact id
        else throw alertColumnError

/-- `delete_rule` -/
def deleteRule (db : AccountDatabase) (user : SignedInUser) (ruleId projectId : UUID)
    (table : AlertRuleTable) : Except AlertsError AlertRuleTable := do
  (getProjectForUser db user projectId .member).mapError AccountsError.alerts
  if table.rows.any (·.isOf ruleId projectId) then
    return table.deleteWhere (·.isOf ruleId projectId)
  else throw (.http 404 "Rule not found")

/-- A request of a user, over the accounts of its time. -/
inductive AlertRequest where
  | create (db : AccountDatabase) (user : SignedInUser) (ruleId : UUID) (body : AlertRuleCreate)
  | update (db : AccountDatabase) (user : SignedInUser) (ruleId projectId : UUID)
      (body : AlertRuleUpdate)
  | delete (db : AccountDatabase) (user : SignedInUser) (ruleId projectId : UUID)

def AlertRequest.answer (table : AlertRuleTable) :
    AlertRequest → Except AlertsError AlertRuleTable
  | .create db user ruleId body => createRule library emails db user ruleId body table
  | .update db user ruleId projectId body =>
      updateRule library emails db user ruleId projectId body table
  | .delete db user ruleId projectId => deleteRule db user ruleId projectId table

/-- Runs of accepted requests. -/
def alertRequests : Machine AlertRuleTable AlertRequest :=
  ⟨fun table request => (request.answer library emails table).toOption⟩

end

/-! ### What a request does -/

section

variable {library : UrlLibrary} {emails : EmailLibrary} {db : AccountDatabase}
  {user : SignedInUser} {ruleId projectId : UUID} {table next : AlertRuleTable}

theorem mapError_eq_ok {ε ε' α : Type} {outcome : Except ε α} {change : ε → ε'} {value : α} :
    outcome.mapError change = .ok value ↔ outcome = .ok value := by
  cases outcome with
  | error failure => simp [Except.mapError]
  | ok returned => simp [Except.mapError]

theorem createRule_rows {body : AlertRuleCreate}
    (created : createRule library emails db user ruleId body table = .ok next) :
    ∃ kept, body.validate library emails = .ok kept ∧
      next.rows = table.rows ++ [kept.row ruleId] := by
  unfold createRule at created
  obtain ⟨kept, validated, created⟩ := bind_eq_ok.mp created
  obtain ⟨_, -, created⟩ := bind_eq_ok.mp created
  split at created
  · split at created
    · rename_i inserted
      cases created
      exact ⟨kept, mapError_eq_ok.mp validated, Table.insert?_rows inserted⟩
    · cases created
  · cases created

theorem updateRule_rows {body : AlertRuleUpdate}
    (updated : updateRule library emails db user ruleId projectId body table = .ok next) :
    ∃ kept, body.validate library emails = .ok kept ∧
      next.rows = table.rows.map fun rule =>
        if rule.isOf ruleId projectId then kept.set rule else rule := by
  unfold updateRule at updated
  obtain ⟨kept, validated, updated⟩ := bind_eq_ok.mp updated
  obtain ⟨_, -, updated⟩ := bind_eq_ok.mp updated
  split at updated
  · cases updated
  · split at updated
    · cases updated
    · split at updated
      · cases updated
        exact ⟨kept, mapError_eq_ok.mp validated, rfl⟩
      · cases updated

theorem deleteRule_rows (deleted : deleteRule db user ruleId projectId table = .ok next) :
    next.rows ⊆ table.rows := by
  unfold deleteRule at deleted
  obtain ⟨_, -, deleted⟩ := bind_eq_ok.mp deleted
  split at deleted
  · cases deleted
    exact fun rule member => (Table.mem_deleteWhere.mp member).1
  · cases deleted

end

/-! ### What a rule keeps -/

/-- `send_alert` finds a target. -/
def AlertRuleRow.hasTarget (rule : AlertRuleRow) : Bool :=
  isFilled rule.notifySlackWebhook || isFilled rule.notifyEmail

/-- A target, and a positive threshold unless the rule is about anomalies. -/
structure AlertRuleRow.Valid (rule : AlertRuleRow) : Prop where
  target : rule.hasTarget = true
  threshold : rule.metric ≠ .anomaly → rule.condition ≠ .anomaly →
    ∃ threshold, rule.threshold = some threshold ∧ 0 < threshold

theorem AlertRuleCreate.Accepted.valid {body : AlertRuleCreate} (accepted : body.Accepted)
    (ruleId : UUID) : (body.row ruleId).Valid where
  target := Bool.or_eq_true_iff.mpr accepted.target
  threshold := accepted.threshold

/-- A target that an update sets is filled, and one that it leaves stays. -/
theorem isFilled_or {set stored : Option String} (kept : IsTarget set)
    (filled : isFilled stored = true) : isFilled (set.or stored) = true := by
  cases set with
  | none => exact filled
  | some text => exact kept.isFilled

theorem AlertRuleRow.Valid.set {rule : AlertRuleRow} (valid : rule.Valid)
    {body : AlertRuleUpdate} (accepted : body.Accepted) : (body.set rule).Valid where
  target := by
    have target := Bool.or_eq_true_iff.mp valid.target
    exact Bool.or_eq_true_iff.mpr (target.imp (isFilled_or accepted.slack)
      (isFilled_or accepted.email))
  threshold := by
    intro metric condition
    obtain ⟨threshold, stored, positive⟩ := valid.threshold metric condition
    cases given : body.threshold with
    | none => exact ⟨threshold, by rw [AlertRuleUpdate.set, given]; exact stored, positive⟩
    | some value =>
        exact ⟨value, by rw [AlertRuleUpdate.set, given]; rfl, accepted.threshold value given⟩

/-- The step: an accepted request keeps the rules valid. -/
theorem valid_step {library : UrlLibrary} {emails : EmailLibrary} {table next : AlertRuleTable}
    {request : AlertRequest} (valid : ∀ rule ∈ table.rows, rule.Valid)
    (stepped : (alertRequests library emails).step table request = some next) :
    ∀ rule ∈ next.rows, rule.Valid := by
  have answered := toOption_eq_some.mp stepped
  intro rule member
  cases request with
  | create db user ruleId body =>
      obtain ⟨kept, validated, rows⟩ := createRule_rows answered
      rw [rows, List.mem_append, List.mem_singleton] at member
      rcases member with stored | rfl
      · exact valid rule stored
      · exact (AlertRuleCreate.accepted_of_validate validated).valid ruleId
  | update db user ruleId projectId body =>
      obtain ⟨kept, validated, rows⟩ := updateRule_rows answered
      rw [rows, List.mem_map] at member
      obtain ⟨before, stored, rfl⟩ := member
      split
      · exact (valid before stored).set (AlertRuleUpdate.accepted_of_validate validated)
      · exact valid before stored
  | delete db user ruleId projectId => exact valid rule (deleteRule_rows answered member)

/-- The run: every rule that accepted requests lead to is valid. -/
theorem valid_run {library : UrlLibrary} {emails : EmailLibrary} {table : AlertRuleTable}
    {requests : List AlertRequest}
    (ran : (alertRequests library emails).run Table.empty requests = some table) :
    ∀ rule ∈ table.rows, rule.Valid :=
  (alertRequests library emails).run_invariant_always
    (fun _ _ _ valid stepped => valid_step valid stepped)
    (fun _ member => absurd member List.not_mem_nil) ran

end LlmObs.Backend
