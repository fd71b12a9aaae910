import LlmObs.Backend.Runtime
import LlmObs.Foundation.JsonText
import LlmObs.Foundation.Sha256
import LlmObs.Foundation.Table
import LlmObs.Foundation.Uuid

/-!
Owns API keys: the tables that hold their hashes, what a presented key resolves to
in Redis or in those tables, and the scope check. It does not own the requests that
present keys, the endpoints that issue, revoke or rotate them, nor runs of several
authentications.
-/

namespace LlmObs.Backend

open LlmObs.Foundation

inductive ApiKeyScope where
  | ingest
  | read
  | readWrite
deriving DecidableEq, Repr

namespace ApiKeyScope

def text : ApiKeyScope → String
  | .ingest => "ingest"
  | .read => "read"
  | .readWrite => "read_write"

/-- The scope that a text names. -/
def ofText? (text : String) : Option ApiKeyScope :=
  [ingest, read, readWrite].find? fun scope => decide (scope.text = text)

end ApiKeyScope

/-- `api_key_allows` -/
def apiKeyAllows (scope : Option String) (requiredScope : ApiKeyScope) : Bool :=
  if scope = some "read_write" then true else decide (scope = some requiredScope.text)

/-! ### Tables -/

/-- The columns of `projects` that authentication reads. -/
structure ProjectAccount where
  id : UUID
  orgId : UUID
  name : String
  apiKeyHash : String
  isActive : Bool
deriving DecidableEq, Repr

/-- The primary key, `UNIQUE (api_key_hash)` and `UNIQUE (org_id, name)`. -/
def ProjectAccount.Clash (left right : ProjectAccount) : Prop :=
  left.id = right.id ∨ left.apiKeyHash = right.apiKeyHash ∨
    left.orgId = right.orgId ∧ left.name = right.name

instance : DecidableRel ProjectAccount.Clash :=
  fun _ _ => inferInstanceAs (Decidable (_ ∨ _ ∨ _ ∧ _))

structure ProjectApiKey where
  id : UUID
  projectId : UUID
  keyHash : String
  scope : ApiKeyScope
  isActive : Bool
  revokedAt : Option Int
deriving DecidableEq, Repr

/-- The primary key and `UNIQUE (key_hash)`. -/
def ProjectApiKey.Clash (left right : ProjectApiKey) : Prop :=
  left.id = right.id ∨ left.keyHash = right.keyHash

instance : DecidableRel ProjectApiKey.Clash :=
  fun _ _ => inferInstanceAs (Decidable (_ ∨ _))

/-- `projects` and `project_api_keys`. -/
structure KeyTables where
  projects : Table ProjectAccount ProjectAccount.Clash
  keys : Table ProjectApiKey ProjectApiKey.Clash

/-- A row of the `SELECT` of `get_project_from_api_key`. -/
structure KeyRow where
  id : UUID
  orgId : UUID
  name : String
  scope : ApiKeyScope
  apiKeyId : Option UUID
  legacy : Bool
deriving DecidableEq, Repr

/-- The first half of the union. -/
def ProjectAccount.keyRow? (keyHash : String) (project : ProjectAccount) : Option KeyRow :=
  if project.apiKeyHash = keyHash ∧ project.isActive = true then
    some ⟨project.id, project.orgId, project.name, .readWrite, none, true⟩
  else none

/-- A pair of the join in the second half of the union. -/
def ProjectApiKey.keyRow? (keyHash : String) (key : ProjectApiKey) (project : ProjectAccount) :
    Option KeyRow :=
  if key.keyHash = keyHash ∧ key.isActive = true ∧ key.revokedAt = none ∧
      project.id = key.projectId ∧ project.isActive = true then
    some ⟨project.id, project.orgId, project.name, key.scope, some key.id, false⟩
  else none

/-- The rows of the union, before its `LIMIT 1`. -/
def KeyTables.keyRows (tables : KeyTables) (keyHash : String) : List KeyRow :=
  tables.projects.rows.filterMap (·.keyRow? keyHash) ++
    tables.keys.rows.flatMap fun key => tables.projects.rows.filterMap (key.keyRow? keyHash)

/-! ### Authentication -/

/-- What authentication takes from the installation and the database. -/
structure KeyLookup where
  /-- `json.loads` -/
  loads : String → Except PyException Json
  /-- `json.dumps(.., default=str)` -/
  dumps : Json → String
  /-- `LIMIT 1` without an `ORDER BY` -/
  limitOne : List KeyRow → Option KeyRow
  limitOne_mem : ∀ rows row, limitOne rows = some row → row ∈ rows
  limitOne_none : ∀ rows, limitOne rows = none → rows = []

inductive AuthError where
  | http (statusCode : Nat) (detail : String)
  | raised (exception : PyException)
deriving DecidableEq, Repr

def apiKeyRequired : AuthError := .http 401 "API key required"

def invalidApiKey : AuthError := .http 401 "Invalid API key"

def apiKeyScopeDenied : AuthError := .http 403 "API key scope denied"

/-- `type(value).__name__` of a JSON value. -/
def typeName : Json → String
  | .null => "NoneType"
  | .bool _ => "bool"
  | .int _ => "int"
  | .float _ => "float"
  | .str _ => "str"
  | .arr _ => "list"
  | .obj _ => "dict"

/-- `.get` of a value that is no dict. -/
def noAttributeGet (value : Json) : PyException :=
  ⟨.other, "'" ++ typeName value ++ "' object has no attribute 'get'"⟩

/-- `hexdigest` -/
def hexdigest (digest : BitVec 256) : String :=
  String.ofList ((List.range 64).map fun position =>
    Json.hexChar (digest.toNat / 16 ^ (63 - position) % 16))

/-- `key_hash` of a presented key. -/
def apiKeyHash (apiKey : String) : String := hexdigest (sha256 (encodeUtf8 apiKey.toList))

/-- `cache_key` -/
def apiKeyCacheKey (keyHash : String) : String := "apikey:" ++ keyHash

/-- `x_api_key or (creds.credentials if creds else None)`, where it is not empty. -/
def presentedKey (credentials xApiKey : Option String) : Option String :=
  match xApiKey.filter (· ≠ "") with
  | some apiKey => some apiKey
  | none => credentials.filter (· ≠ "")

/-- The dict that `get_project_from_api_key` returns. -/
inductive KeyProject where
  | cached (entries : List (String × Json))
  | selected (row : KeyRow)

/-- `scope` of a cached dict, where it is a text. -/
def scopeEntry (entries : List (String × Json)) : Option String :=
  match entries.lookup "scope" with
  | some (.str scope) => some scope
  | _ => none

/-- `.get("scope")` -/
def KeyProject.scope : KeyProject → Option String
  | .cached entries => scopeEntry entries
  | .selected row => some row.scope.text

/-- `dict(project_row)` as JSON. -/
def KeyRow.json (row : KeyRow) : Json :=
  .obj [("id", .str row.id.str), ("org_id", .str row.orgId.str), ("name", .str row.name),
    ("scope", .str row.scope.text),
    ("api_key_id", match row.apiKeyId with
      | some apiKeyId => .str apiKeyId.str
      | none => .null),
    ("legacy", .bool row.legacy)]

section

variable (lookup : KeyLookup)

/-- `json.loads` of what Redis holds, where it holds a text that is not empty. -/
def cachedEntries (cached : Option String) :
    Except AuthError (Option (List (String × Json))) :=
  match cached.filter (· ≠ "") with
  | none => .ok none
  | some text =>
      match lookup.loads text with
      | .ok (.obj entries) => .ok (some entries)
      | .ok value => .error (.raised (noAttributeGet value))
      | .error exception => .error (.raised exception)

/-- The row of the `SELECT`. -/
def selectKeyRow (tables : KeyTables) (keyHash : String) : Option KeyRow :=
  lookup.limitOne (tables.keyRows keyHash)

/-- What a key resolves to: the cached dict, or the row of the `SELECT`. -/
def resolveKey (tables : KeyTables) (cache : String → Option String) (keyHash : String) :
    Except AuthError KeyProject :=
  match cachedEntries lookup (cache (apiKeyCacheKey keyHash)) with
  | .error error => .error error
  | .ok (some entries) => .ok (.cached entries)
  | .ok none =>
      match selectKeyRow lookup tables keyHash with
      | none => .error invalidApiKey
      | some row => .ok (.selected row)

/-- The `setex` of a selected row. -/
def storeKeyProject (keyHash : String) (project : KeyProject) (cache : String → Option String) :
    String → Option String :=
  match project with
  | .cached _ => cache
  | .selected row => fun key =>
      if key = apiKeyCacheKey keyHash then some (lookup.dumps row.json) else cache key

/-- `get_project_from_api_key`: the project, and Redis afterwards. -/
def getProjectFromApiKey (tables : KeyTables) (cache : String → Option String)
    (credentials xApiKey : Option String) (requiredScope : ApiKeyScope) :
    Except AuthError KeyProject × (String → Option String) :=
  match presentedKey credentials xApiKey with
  | none => (.error apiKeyRequired, cache)
  | some apiKey =>
      match resolveKey lookup tables cache (apiKeyHash apiKey) with
      | .error error => (.error error, cache)
      | .ok project =>
          if apiKeyAllows project.scope requiredScope then
            (.ok project, storeKeyProject lookup (apiKeyHash apiKey) project cache)
          else (.error apiKeyScopeDenied, cache)

end

/-! ### One project -/

/-- `json.dumps` of the dict of a selected row whose texts need no escapes. -/
def dumpsKeyRow : Json → String
  | .obj entries =>
      "\x7b" ++ ", ".intercalate (entries.map fun entry => "\"" ++ entry.1 ++ "\": " ++
        match entry.2 with
        | .str text => "\"" ++ text ++ "\""
        | .bool true => "true"
        | .bool false => "false"
        | _ => "null") ++ "\x7d"
  | _ => "null"

/-- An installation that has to load no text but those of the given documents. -/
def loadsOnly (documents : List Json) : KeyLookup where
  loads text :=
    match documents.find? fun document => dumpsKeyRow document = text with
    | some document => .ok document
    | none => .error ⟨.valueError, "Expecting value: line 1 column 1 (char 0)"⟩
  dumps := dumpsKeyRow
  limitOne := List.head?
  limitOne_mem := fun _ _ found => List.mem_of_head? found
  limitOne_none := fun _ missing => List.head?_eq_none_iff.mp missing

/-- An active project and one active key of it. -/
def tablesWithKey (keyHash : String) (scope : ApiKeyScope) : KeyTables where
  projects := ⟨[⟨1, 1, "Demo", "", true⟩], List.pairwise_singleton _ _⟩
  keys := ⟨[⟨2, 1, keyHash, scope, true, none⟩], List.pairwise_singleton _ _⟩

end LlmObs.Backend
