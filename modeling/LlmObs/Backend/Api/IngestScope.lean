import LlmObs.Backend.Core.Auth
import LlmObs.Backend.Schemas.IngestRequest

/-!
Owns which requests to `POST /v1/ingest` reach the handler: the dependency on the
presented key, with its parameters as FastAPI binds them, and the body. It says
exactly when the handler runs for keys of the wrong scope. How FastAPI reads headers
and finds the text of a query parameter is a parameter itself.
-/

namespace LlmObs.Backend

open LlmObs.Foundation

/-- What FastAPI binds the parameters of a dependency to. -/
structure ParameterBinding where
  /-- The credentials of `HTTPBearer(auto_error=False)`. -/
  bearerCredentials : List (String × String) → Option String
  /-- A header parameter with the default `None`. -/
  header : List (String × String) → String → Option String
  /-- The text of a scalar parameter in the query string. -/
  queryText : List (String × String) → String → Option String
  queryText_mem : ∀ query name text, queryText query name = some text → (name, text) ∈ query

/-- A request to `POST /v1/ingest`. -/
structure IngestCall where
  headers : List (String × String)
  query : List (String × String)
  /-- The body, if it is valid. -/
  payload : Option IngestRequest

inductive IngestAnswer where
  /-- A 422 response to parameters or a body that are not valid. -/
  | unprocessable
  | denied (error : AuthError)
  /-- `ingest_spans` runs. -/
  | handles (project : KeyProject) (payload : IngestRequest)

section

variable (binding : ParameterBinding) (lookup : KeyLookup)

/-- `required_scope: ApiKeyScope = "ingest"`; `none` is a validation error. -/
def requiredScope? (call : IngestCall) : Option ApiKeyScope :=
  match binding.queryText call.query "required_scope" with
  | none => some .ingest
  | some text => ApiKeyScope.ofText? text

/-- The key that `get_project_from_api_key` looks up for a call. -/
def IngestCall.apiKey (call : IngestCall) : Option String :=
  presentedKey (binding.bearerCredentials call.headers) (binding.header call.headers "X-API-Key")

/-- Dependencies and body of `ingest_spans`: the answer, and Redis afterwards. -/
def routeIngest (tables : KeyTables) (cache : String → Option String) (call : IngestCall) :
    IngestAnswer × (String → Option String) :=
  match requiredScope? binding call with
  | none => (.unprocessable, cache)
  | some requiredScope =>
      match getProjectFromApiKey lookup tables cache (binding.bearerCredentials call.headers)
          (binding.header call.headers "X-API-Key") requiredScope with
      | (.error error, cache) => (.denied error, cache)
      | (.ok project, cache) =>
          match call.payload with
          | none => (.unprocessable, cache)
          | some payload => (.handles project payload, cache)

/-- The handler runs. -/
def RunsHandler (tables : KeyTables) (cache : String → Option String) (call : IngestCall) :
    Prop :=
  ∃ project payload, (routeIngest binding lookup tables cache call).1 = .handles project payload

/-- The scope of what the presented key resolves to. -/
def presentedScope (tables : KeyTables) (cache : String → Option String) (call : IngestCall) :
    Option String :=
  match call.apiKey binding with
  | none => none
  | some apiKey =>
      match resolveKey lookup tables cache (apiKeyHash apiKey) with
      | .error _ => none
      | .ok project => project.scope

end

section

variable {binding : ParameterBinding} {lookup : KeyLookup} {tables : KeyTables}
  {cache : String → Option String} {call : IngestCall}

theorem apiKeyAllows_iff {scope : Option String} {requiredScope : ApiKeyScope} :
    apiKeyAllows scope requiredScope = true ↔
      scope = some "read_write" ∨ scope = some requiredScope.text := by
  unfold apiKeyAllows
  split
  · rename_i all
    simp [all]
  · rename_i notAll
    simp [notAll]

theorem ApiKeyScope.ofText?_eq_some {text : String} {scope : ApiKeyScope}
    (named : ApiKeyScope.ofText? text = some scope) : scope.text = text := by
  have found := List.find?_some named
  exact of_decide_eq_true found

/-- The scope check is passed exactly by what the key resolves to. -/
theorem getProjectFromApiKey_isOk_iff {requiredScope : ApiKeyScope} :
    (∃ project, (getProjectFromApiKey lookup tables cache
        (binding.bearerCredentials call.headers) (binding.header call.headers "X-API-Key")
        requiredScope).1 = .ok project) ↔
      apiKeyAllows (presentedScope binding lookup tables cache call) requiredScope = true := by
  have noScope : apiKeyAllows none requiredScope = false := by
    simp [apiKeyAllows]
  unfold getProjectFromApiKey presentedScope IngestCall.apiKey
  cases presentedKey (binding.bearerCredentials call.headers)
      (binding.header call.headers "X-API-Key") with
  | none => simp [noScope]
  | some apiKey =>
      cases resolved : resolveKey lookup tables cache (apiKeyHash apiKey) with
      | error error => simp [resolved, noScope]
      | ok project =>
          cases allowed : apiKeyAllows project.scope requiredScope with
          | true => simp [resolved, allowed]
          | false => simp [resolved, allowed]

/-- The handler runs for a valid body and a key that the bound scope allows. -/
theorem runsHandler_iff :
    RunsHandler binding lookup tables cache call ↔
      call.payload.isSome = true ∧ ∃ requiredScope,
        requiredScope? binding call = some requiredScope ∧
          apiKeyAllows (presentedScope binding lookup tables cache call) requiredScope = true := by
  unfold RunsHandler routeIngest
  cases required : requiredScope? binding call with
  | none => simp
  | some requiredScope =>
      simp only [Option.some.injEq, exists_eq_left', ← getProjectFromApiKey_isOk_iff]
      cases authenticated : getProjectFromApiKey lookup tables cache
          (binding.bearerCredentials call.headers) (binding.header call.headers "X-API-Key")
          requiredScope with
      | mk result nextCache =>
          cases result with
          | error error => simp
          | ok project =>
              cases call.payload with
              | none => simp
              | some payload => simp

/-- Without `required_scope` in the query string the key has to be one for ingest. -/
theorem requiredScope?_of_absent (absent : ∀ entry ∈ call.query, entry.1 ≠ "required_scope") :
    requiredScope? binding call = some .ingest := by
  unfold requiredScope?
  cases bound : binding.queryText call.query "required_scope" with
  | none => rfl
  | some text => exact absurd rfl (absent _ (binding.queryText_mem _ _ _ bound))

end

/-- The scopes that are checked on ingest. -/
def IngestScope (scope : Option String) : Prop :=
  scope = some ApiKeyScope.ingest.text ∨ scope = some ApiKeyScope.readWrite.text

/-- A call without the parameter reaches the handler with a scope for ingest only. -/
theorem ingestScope_of_absent {binding : ParameterBinding} {lookup : KeyLookup}
    {tables : KeyTables} {cache : String → Option String} {call : IngestCall}
    (absent : ∀ entry ∈ call.query, entry.1 ≠ "required_scope")
    (runs : RunsHandler binding lookup tables cache call) :
    IngestScope (presentedScope binding lookup tables cache call) := by
  obtain ⟨_, requiredScope, required, allowed⟩ := runsHandler_iff.mp runs
  rw [requiredScope?_of_absent absent] at required
  cases required
  exact (apiKeyAllows_iff.mp allowed).symm

/-- The handler runs only for keys with a scope for ingest, but for a call with a
valid body that sets `required_scope` to `read` in its query string and presents a
key with the scope `read`. -/
theorem runsHandler_scope_iff (binding : ParameterBinding) (lookup : KeyLookup)
    (tables : KeyTables) (cache : String → Option String) (call : IngestCall) :
    (RunsHandler binding lookup tables cache call →
        IngestScope (presentedScope binding lookup tables cache call)) ↔
      ¬ (call.payload.isSome = true ∧
        binding.queryText call.query "required_scope" = some ApiKeyScope.read.text ∧
        presentedScope binding lookup tables cache call = some ApiKeyScope.read.text) := by
  rw [runsHandler_iff]
  constructor
  · rintro onlyIngest ⟨valid, bound, scope⟩
    have required : requiredScope? binding call = some .read := by
      unfold requiredScope?
      rw [bound]
      decide
    have allowed := onlyIngest ⟨valid, .read, required, apiKeyAllows_iff.mpr (Or.inr scope)⟩
    rw [scope] at allowed
    rcases allowed with same | same <;> exact absurd same (by decide)
  · rintro notRead ⟨valid, requiredScope, required, allowed⟩
    rcases apiKeyAllows_iff.mp allowed with all | same
    · exact Or.inr all
    · cases requiredScope with
      | ingest => exact Or.inl same
      | readWrite => exact Or.inr same
      | read =>
          exfalso
          apply notRead
          refine ⟨valid, ?_, same⟩
          unfold requiredScope? at required
          split at required
          · cases required
          · rename_i text bound
            rw [bound, ApiKeyScope.ofText?_eq_some required]

/-- Parameters of a query string that names each once, and exact header names. -/
def exactBinding : ParameterBinding where
  bearerCredentials := fun _ => none
  header := fun headers name => headers.lookup name
  queryText := fun query name => query.lookup name
  queryText_mem := by
    intro query name text found
    obtain ⟨before, after, rfl, _⟩ := List.lookup_eq_some_iff.mp found
    exact List.mem_append_right _ (List.mem_cons_self ..)

def mistralSpan : SpanSchema where
  spanId := 7
  traceId := 8
  name := "chat"
  provider := "mistral"
  model := "mistral-large"
  inputMessages := [.str "ping"]
  output := some "pong"
  error := some ""
  inputTokens := 3
  outputTokens := 4
  latencyMs := 5
  startedAt := .utc 6

/-- One span, presented with a key for reading. -/
def readKeyCall : IngestCall where
  headers := [("X-API-Key", "llmobs_read")]
  query := [("required_scope", "read")]
  payload := some ⟨[mistralSpan], none, by decide, by decide, by decide⟩

/-- The query string lowers the scope that the key is checked against. -/
theorem readKeyCall_runsHandler :
    ∃ tables, RunsHandler exactBinding (loadsOnly []) tables (fun _ => none) readKeyCall ∧
      ¬ IngestScope (presentedScope exactBinding (loadsOnly []) tables (fun _ => none)
        readKeyCall) := by
  refine ⟨tablesWithKey (apiKeyHash "llmobs_read") .read, ?_, ?_⟩
  · rw [runsHandler_iff]
    refine ⟨rfl, .read, by decide, ?_⟩
    decide +kernel
  · unfold IngestScope
    decide +kernel

end LlmObs.Backend
