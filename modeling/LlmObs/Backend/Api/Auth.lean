import LlmObs.Backend.Core.Accounts

/-!
Owns `register`, statement by statement, with the bootstrap rule that applies while
public registration is off. It does not own the rate limiter in front of it, nor
`login`.
-/

namespace LlmObs.Backend

open LlmObs.Foundation

structure RegistrationSettings where
  publicRegistrationEnabled : Bool
  bootstrapAdminToken : Option String
deriving DecidableEq, Repr

/-- The validated body. -/
structure RegisterRequest where
  email : String
  orgName : String
  bootstrapToken : Option String
  orgName_ge : 2 ≤ orgName.length := by decide
  orgName_le : orgName.length ≤ 100 := by decide
  bootstrapToken_ge : ∀ token ∈ bootstrapToken, 1 ≤ token.length := by decide
  bootstrapToken_le : ∀ token ∈ bootstrapToken, token.length ≤ 512 := by decide

/-- A body with what the request draws: the ids, the end of the slug, the hash of the
password and the token of the API key. -/
structure RegisterCall where
  body : RegisterRequest
  orgId : UUID
  slugSuffix : String
  userId : UUID
  passwordHash : String
  projectId : UUID
  keyToken : String

def isAsciiText (text : String) : Bool := text.toList.all fun char => decide (char.toNat < 128)

def compareDigestError : PyException :=
  ⟨.typeError, "comparing strings with non-ASCII characters is not supported"⟩

/-- `_is_valid_bootstrap_token` -/
def isValidBootstrapToken (configured token : Option String) : Except PyException Bool :=
  match configured with
  | none => .ok false
  | some configured =>
      if isAsciiText (token.getD "") && isAsciiText configured then
        .ok (decide (token.getD "" = configured))
      else .error compareDigestError

/-- `re.sub(r"[^a-z0-9]", "-", org_name.lower())[:40]`, a dash and six drawn digits. -/
def organizationSlug (runtime : Runtime) (orgName suffix : String) : String :=
  String.ofList (((runtime.lower orgName).toList.map fun char =>
    if ('a' ≤ char ∧ char ≤ 'z') ∨ '0' ≤ char ∧ char ≤ '9' then char else '-').take 40) ++
    "-" ++ suffix

namespace RegisterCall

def organization (runtime : Runtime) (call : RegisterCall) : OrganizationRow where
  id := call.orgId
  name := call.body.orgName
  slug := organizationSlug runtime call.body.orgName call.slugSuffix

def user (call : RegisterCall) : UserRow where
  id := call.userId
  orgId := call.orgId
  email := call.body.email
  passwordHash := call.passwordHash
  role := .admin
  isActive := true

def project (call : RegisterCall) : ProjectAccount where
  id := call.projectId
  orgId := call.orgId
  name := "Default"
  apiKeyHash := newApiKeyHash call.keyToken
  isActive := true

end RegisterCall

/-- The next statement. -/
inductive RegisterStage where
  | counting
  | checkingEmail
  | insertingOrganization
  | insertingUser
  | insertingProject
  /-- Nothing is left but the commit. -/
  | inserted
deriving DecidableEq, Repr

structure Registration where
  call : RegisterCall
  stage : RegisterStage

def Registration.at (registration : Registration) (stage : RegisterStage) : Registration :=
  { registration with stage := stage }

def registrationDisabled : AccountsError := .http 403 "Registration is disabled"
def invalidBootstrapToken : AccountsError := .http 403 "Invalid bootstrap token"

/-- The rule behind `SELECT COUNT(*) FROM users`. -/
def admitsRegistration (settings : RegistrationSettings) (userCount : Nat)
    (bootstrapToken : Option String) : Except AccountsError Unit :=
  if settings.publicRegistrationEnabled then .ok ()
  else if 0 < userCount then .error registrationDisabled
  else
    match isValidBootstrapToken settings.bootstrapAdminToken bootstrapToken with
    | .ok true => .ok ()
    | .ok false => .error invalidBootstrapToken
    | .error exception => .error (.raised exception)

def registerStatement (runtime : Runtime) (settings : RegistrationSettings)
    (db : AccountDatabase) (held : AccountLock → Bool) (registration : Registration) :
    Reply Registration AccountsError :=
  let call := registration.call
  match registration.stage with
  | .counting =>
      match admitsRegistration settings db.users.rows.length call.body.bootstrapToken with
      | .ok _ => .goes (registration.at .checkingEmail)
      | .error error => .raises error
  | .checkingEmail =>
      if emailRegistered db call.body.email then .raises emailAlreadyRegistered
      else .goes (registration.at .insertingOrganization)
  | .insertingOrganization =>
      insertReply held (call.organization runtime).entries
        (∃ row ∈ db.organizations.rows, row.Clash (call.organization runtime))
        (registration.at .insertingUser)
  | .insertingUser =>
      insertReply held call.user.entries (∃ row ∈ db.users.rows, row.Clash call.user)
        (registration.at .insertingProject)
  | .insertingProject =>
      insertReply held (projectEntries call.project)
        (∃ row ∈ db.projects.rows, row.Clash call.project) (registration.at .inserted)
  | .inserted => .waits

def Registration.locks (runtime : Runtime) (registration : Registration) : List AccountLock :=
  let call := registration.call
  match registration.stage with
  | .counting | .checkingEmail | .insertingOrganization => []
  | .insertingUser => (call.organization runtime).entries
  | .insertingProject => (call.organization runtime).entries ++ call.user.entries
  | .inserted =>
      (call.organization runtime).entries ++ call.user.entries ++ projectEntries call.project

/-- The database with the three rows. -/
def commitRegistration (runtime : Runtime) (db : AccountDatabase) (call : RegisterCall) :
    Option AccountDatabase := do
  let organizations ← db.organizations.insert? (call.organization runtime)
  let users ← db.users.insert? call.user
  let projects ← db.projects.insert? call.project
  return { db with organizations := organizations, users := users, projects := projects }

/-- `register`. -/
def register (runtime : Runtime) (settings : RegistrationSettings) :
    TransactionSystem AccountDatabase RegisterCall Registration AccountLock AccountsError where
  start _ _ call := .ok ⟨call, .counting⟩
  locks := Registration.locks runtime
  statement := registerStatement runtime settings
  commit db registration :=
    match registration.stage with
    | .inserted => commitRegistration runtime db registration.call
    | _ => none

/-! ### What a request can do -/

/-- A transaction that goes on keeps its call and leaves the count behind; the count
lets it pass only where the rule does. -/
theorem registration_of_goes {runtime : Runtime} {settings : RegistrationSettings}
    {db : AccountDatabase} {held : AccountLock → Bool} {registration moved : Registration}
    (goes : registerStatement runtime settings db held registration = .goes moved) :
    moved.call = registration.call ∧ moved.stage ≠ .counting ∧
      (registration.stage = .counting →
        admitsRegistration settings db.users.rows.length
          registration.call.body.bootstrapToken = .ok ()) := by
  unfold registerStatement at goes
  dsimp only at goes
  split at goes
  · split at goes
    · rename_i admitted
      cases goes
      exact ⟨rfl, by simp [Registration.at], fun _ => admitted⟩
    · cases goes
  · rename_i stage
    split at goes
    · cases goes
    · cases goes
      exact ⟨rfl, by simp [Registration.at], by simp [stage]⟩
  · rename_i stage
    obtain ⟨rfl, -⟩ := insertReply_goes goes
    exact ⟨rfl, by simp [Registration.at], by simp [stage]⟩
  · rename_i stage
    obtain ⟨rfl, -⟩ := insertReply_goes goes
    exact ⟨rfl, by simp [Registration.at], by simp [stage]⟩
  · rename_i stage
    obtain ⟨rfl, -⟩ := insertReply_goes goes
    exact ⟨rfl, by simp [Registration.at], by simp [stage]⟩
  · cases goes

theorem rows_of_commitRegistration {runtime : Runtime} {db next : AccountDatabase}
    {call : RegisterCall} (commits : commitRegistration runtime db call = some next) :
    next.organizations.rows = db.organizations.rows ++ [call.organization runtime] ∧
      next.users.rows = db.users.rows ++ [call.user] ∧
      next.projects.rows = db.projects.rows ++ [call.project] ∧
      next.invites = db.invites ∧ next.memberships = db.memberships := by
  simp only [commitRegistration, bind, Option.bind_eq_some_iff, pure, Option.some.injEq]
    at commits
  obtain ⟨organizations, organizationInserted, users, userInserted, projects, projectInserted,
    rfl⟩ := commits
  exact ⟨Table.insert?_rows organizationInserted, Table.insert?_rows userInserted,
    Table.insert?_rows projectInserted, rfl, rfl⟩

end LlmObs.Backend
