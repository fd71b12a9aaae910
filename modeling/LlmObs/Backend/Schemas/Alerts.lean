import LlmObs.Backend.Runtime
import LlmObs.Foundation.Outcome

/-!
Owns `_validate_https_webhook`: which texts a Slack webhook may be, as `urlparse` and
`ipaddress` read them.
-/

namespace LlmObs.Backend

open LlmObs.Foundation

/-- The parts of `urlparse(text)` that are read. `port` is an error where reading it
raises. -/
structure ParsedUrl where
  scheme : String
  username : Option String := none
  password : Option String := none
  hostname : Option String
  port : Except String (Option Nat)

/-- An `ip_address`. -/
structure IpAddress where
  isGlobal : Bool
  isPrivate : Bool
  isLoopback : Bool
  isLinkLocal : Bool
  isMulticast : Bool
  isReserved : Bool
  isUnspecified : Bool
deriving DecidableEq, Repr

/-- The texts, addresses and URLs of Python. An error is the text of a `ValueError`. -/
structure UrlLibrary where
  strip : String → String
  lower : String → String
  /-- `text.strip("[]")` -/
  stripBrackets : String → String
  urlparse : String → Except String ParsedUrl
  urljoin : String → String → Except String String
  ipAddress : String → Except String IpAddress
  /-- A host name is in lower case and without brackets. -/
  hostname_normal : ∀ {text parsed hostname}, urlparse text = .ok parsed →
    parsed.hostname = some hostname → stripBrackets (lower hostname) = hostname

/-- `SLACK_WEBHOOK_HOSTS` -/
def slackWebhookHosts : List String := ["hooks.slack.com", "hooks.slack-gov.com"]

/-- `bool` of an optional text. -/
def isFilled (text : Option String) : Bool := text.any (· ≠ "")

variable (library : UrlLibrary)

/-- `_normalize_optional_string` -/
def normalizeOptionalString : Option String → Option String
  | none => none
  | some value => if library.strip value = "" then none else some (library.strip value)

/-- `is_private or is_loopback or ...` -/
def IpAddress.isRefused (ip : IpAddress) : Bool :=
  ip.isPrivate || ip.isLoopback || ip.isLinkLocal || ip.isMulticast || ip.isReserved ||
    ip.isUnspecified

/-- The checks of `_validate_https_webhook` on the host of `value`. -/
def validateHost (hostname value : String) : Except String String :=
  if hostname ∉ slackWebhookHosts then
    .error "Slack webhook must use an official Slack webhook domain"
  else if hostname = "localhost" ∨ endsWithText ".local" hostname then
    .error "Slack webhook cannot target localhost or local hosts"
  else
    match library.ipAddress hostname with
    | .error _ => .ok value
    | .ok ip =>
        if ip.isRefused then
          .error "Slack webhook cannot target private or internal addresses"
        else .ok value

/-- `_validate_https_webhook` behind its normalization. -/
def validateHttpsText (value : String) : Except String String := do
  let parsed ← library.urlparse value
  if parsed.scheme ≠ "https" ∨ isFilled parsed.hostname = false then
    .error "Slack webhook must be an HTTPS URL"
  else do
    let port ← parsed.port
    if port ≠ none ∧ port ≠ some 443 then
      .error "Slack webhook must use the default HTTPS port"
    else
      validateHost library (library.stripBrackets (library.lower (parsed.hostname.getD "")))
        value

/-- `_validate_https_webhook` -/
def validateHttpsWebhook (value : Option String) : Except String (Option String) :=
  match normalizeOptionalString library value with
  | none => .ok none
  | some value => (validateHttpsText library value).map some

variable {library}

/-- What an accepted text is. -/
structure IsSlackUrl (library : UrlLibrary) (url : String) (parsed : ParsedUrl)
    (hostname : String) : Prop where
  parses : library.urlparse url = .ok parsed
  https : parsed.scheme = "https"
  host : parsed.hostname = some hostname
  official : hostname ∈ slackWebhookHosts
  port : parsed.port = .ok none ∨ parsed.port = .ok (some 443)

theorem validateHost_eq_ok {hostname value webhook : String}
    (validated : validateHost library hostname value = .ok webhook) :
    webhook = value ∧ hostname ∈ slackWebhookHosts := by
  unfold validateHost at validated
  split at validated
  · cases validated
  · rename_i official
    split at validated
    · cases validated
    · split at validated
      · exact ⟨(Except.ok.inj validated).symm, not_not.mp official⟩
      · split at validated
        · cases validated
        · exact ⟨(Except.ok.inj validated).symm, not_not.mp official⟩

theorem isSlackUrl_of_validated {value webhook : String}
    (validated : validateHttpsText library value = .ok webhook) :
    webhook = value ∧ ∃ parsed hostname, IsSlackUrl library value parsed hostname := by
  unfold validateHttpsText at validated
  obtain ⟨parsed, parses, checked⟩ := bind_eq_ok.mp validated
  split at checked
  · cases checked
  · rename_i https
    rw [not_or, not_not, Bool.not_eq_false] at https
    obtain ⟨port, portRead, checked⟩ := bind_eq_ok.mp checked
    split at checked
    · cases checked
    · rename_i allowedPort
      have port : parsed.port = .ok none ∨ parsed.port = .ok (some 443) := by
        rw [portRead]
        rcases not_and_or.mp allowedPort with absent | default
        · exact Or.inl (congrArg _ (not_not.mp absent))
        · exact Or.inr (congrArg _ (not_not.mp default))
      cases named : parsed.hostname with
      | none =>
          rw [named] at https
          cases https.2
      | some hostname =>
          rw [named, Option.getD_some, library.hostname_normal parses named] at checked
          obtain ⟨same, official⟩ := validateHost_eq_ok checked
          exact ⟨same, parsed, hostname, parses, https.1, named, official, port⟩

end LlmObs.Backend
