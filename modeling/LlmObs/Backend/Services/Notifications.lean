import LlmObs.Backend.Schemas.Alerts

/-!
Owns `NotificationService._slack`: the validation of a webhook, its DNS queries, the
posts along a chain of redirects and what is returned. It says which URLs are posted to,
for any answers of the name servers and of the servers behind the URLs.
-/

namespace LlmObs.Backend

open LlmObs.Foundation

/-- `MAX_WEBHOOK_REDIRECTS` -/
def maxWebhookRedirects : Nat := 3

/-- How one `socket.getaddrinfo` ends. -/
inductive DnsAnswer where
  | addresses (found : List String)
  | gaierror
  | raises
deriving DecidableEq, Repr

/-- How one `client.post` ends. -/
inductive PostAnswer where
  | response (statusCode : Nat) (location : Option String)
  /-- `httpx.HTTPError` -/
  | httpError
  | raises
deriving DecidableEq, Repr

/-- `r.is_redirect` -/
def PostAnswer.isRedirect : PostAnswer → Bool
  | .response statusCode _ => 300 ≤ statusCode && statusCode ≤ 399
  | _ => false

/-- A 2xx: `r.raise_for_status()` returns. -/
def PostAnswer.isSuccess : PostAnswer → Bool
  | .response statusCode _ => 200 ≤ statusCode && statusCode ≤ 299
  | _ => false

inductive WebhookEvent where
  /-- A query for a host was answered with addresses. -/
  | resolved (hostname : String) (port : Nat) (addresses : List String)
  | posted (url : String) (answer : PostAnswer)
deriving DecidableEq, Repr

structure WebhookState where
  /-- The events so far, the newest first. -/
  events : List WebhookEvent := []
  queries : Nat := 0
  posts : Nat := 0
deriving DecidableEq, Repr

/-- What the network answers to the queries and the posts of a call, each counted from 0. -/
structure WebhookEnv where
  dns : Nat → DnsAnswer
  post : Nat → PostAnswer

inductive WebhookFailure where
  | valueError (message : String)
  | httpError
  | other
deriving DecidableEq, Repr

section

variable (library : UrlLibrary) (env : WebhookEnv)

/-- `_is_internal_ip` -/
def isInternalIp (address : String) : Except String Bool :=
  (library.ipAddress address).map fun ip => !ip.isGlobal

/-- `parsed.port or 443` -/
def deliveryPort : Option Nat → Nat
  | none => 443
  | some port => if port = 0 then 443 else port

/-- What is raised about a host that is an address itself. -/
def literalHostError (hostname : String) : Option String :=
  match isInternalIp library (library.stripBrackets hostname) with
  | .ok true => some "Webhook cannot target private or internal addresses"
  | .ok false => none
  | .error message => if containsText "Webhook cannot target" message then some message else none

/-- `validate_webhook_delivery_url` before it resolves the host: the webhook, the host
and the port. -/
def webhookTarget (url : Option String) : Except String (String × String × Nat) := do
  match ← validateHttpsWebhook library url with
  | none => .error "Webhook URL is required"
  | some webhook => do
      let parsed ← library.urlparse webhook
      if isFilled parsed.username ∨ isFilled parsed.password then
        .error "Webhook URL credentials are not allowed"
      else if isFilled parsed.hostname = false then
        .error "Webhook URL must include a hostname"
      else do
        let port ← parsed.port
        if deliveryPort port ≠ 443 then
          .error "Webhook URL must use the default HTTPS port"
        else
          match literalHostError library (parsed.hostname.getD "") with
          | some message => .error message
          | none => .ok (webhook, parsed.hostname.getD "", deliveryPort port)

/-- `_resolve_webhook_host` -/
def resolveWebhookHost (hostname : String) (port : Nat) (state : WebhookState) :
    Except WebhookFailure (List String) × WebhookState :=
  let queried := { state with queries := state.queries + 1 }
  match env.dns state.queries with
  | .gaierror => (.error (.valueError "Webhook host could not be resolved"), queried)
  | .raises => (.error .other, queried)
  | .addresses found =>
      let resolved := { queried with events := .resolved hostname port found :: state.events }
      if found = [] then (.error (.valueError "Webhook host could not be resolved"), resolved)
      else (.ok found, resolved)

def validateWebhookDeliveryUrl (url : Option String) (state : WebhookState) :
    Except WebhookFailure String × WebhookState :=
  match webhookTarget library url with
  | .error message => (.error (.valueError message), state)
  | .ok (webhook, hostname, port) =>
      match resolveWebhookHost env hostname port state with
      | (.error failure, state) => (.error failure, state)
      | (.ok addresses, state) =>
          match addresses.mapM (isInternalIp library) with
          | .error message => (.error (.valueError message), state)
          | .ok internal =>
              if internal.any id then
                (.error (.valueError "Webhook DNS resolves to private or internal addresses"),
                  state)
              else (.ok webhook, state)

/-- `client.post` -/
def postWebhook (url : String) (state : WebhookState) : PostAnswer × WebhookState :=
  let answer := env.post state.posts
  (answer, { state with
    events := .posted url answer :: state.events
    posts := state.posts + 1 })

/-- The loop over the redirects, `remaining` passes of it, and what follows it. -/
def followWebhook :
    (remaining : Nat) → (currentWebhook : String) → WebhookState →
      Except WebhookFailure Bool × WebhookState
  | 0, _, state => (.ok false, state)
  | remaining + 1, currentWebhook, state =>
      match validateWebhookDeliveryUrl library env (some currentWebhook) state with
      | (.error failure, state) => (.error failure, state)
      | (.ok webhook, state) =>
          match postWebhook env webhook state with
          | (.httpError, state) => (.error .httpError, state)
          | (.raises, state) => (.error .other, state)
          | (.response statusCode location, state) =>
              if (PostAnswer.response statusCode location).isRedirect then
                if isFilled location then
                  match library.urljoin webhook (location.getD "") with
                  | .error message => (.error (.valueError message), state)
                  | .ok next => followWebhook remaining next state
                else (.ok false, state)
              else if (PostAnswer.response statusCode location).isSuccess then (.ok true, state)
              else (.error .httpError, state)

/-- `_slack`: what it returns, or raises, and the events of the call. -/
def slack (notifySlackWebhook : Option String) : Except WebhookFailure Bool × WebhookState :=
  match validateWebhookDeliveryUrl library env notifySlackWebhook {} with
  | (.error (.valueError _), state) => (.ok false, state)
  | (.error failure, state) => (.error failure, state)
  | (.ok webhook, state) =>
      match followWebhook library env (maxWebhookRedirects + 1) webhook state with
      | (.error (.valueError _), state) => (.ok false, state)
      | (.error .httpError, state) => (.ok false, state)
      | (result, state) => (result, state)

end

/-! ### Vetted URLs -/

/-- An official Slack URL without credentials whose host has no internal address. -/
structure IsVetted (library : UrlLibrary) (url hostname : String) (addresses : List String) :
    Prop where
  official : ∃ parsed, IsSlackUrl library url parsed hostname ∧
    isFilled parsed.username = false ∧ isFilled parsed.password = false
  resolved : addresses ≠ []
  external : ∀ address ∈ addresses, ∃ ip, library.ipAddress address = .ok ip ∧ ip.isGlobal

/-- Each post follows, as the very next event, the resolution that vetted its URL. -/
def PostsVetted (library : UrlLibrary) (events : List WebhookEvent) : Prop :=
  ∀ url answer earlier, .posted url answer :: earlier <:+ events →
    ∃ hostname addresses before, earlier = .resolved hostname 443 addresses :: before ∧
      IsVetted library url hostname addresses

section

variable {library : UrlLibrary} {env : WebhookEnv}

theorem postsVetted_resolved {events : List WebhookEvent} (vetted : PostsVetted library events)
    (hostname : String) (port : Nat) (addresses : List String) :
    PostsVetted library (.resolved hostname port addresses :: events) := by
  intro url answer earlier suffix
  rcases List.suffix_cons_iff.mp suffix with same | before
  · cases same
  · exact vetted url answer earlier before

theorem postsVetted_posted {events : List WebhookEvent} (vetted : PostsVetted library events)
    {url hostname : String} {addresses : List String}
    (urlVetted : IsVetted library url hostname addresses) (answer : PostAnswer) :
    PostsVetted library
      (.posted url answer :: .resolved hostname 443 addresses :: events) := by
  intro other otherAnswer earlier suffix
  rcases List.suffix_cons_iff.mp suffix with same | before
  · cases same
    exact ⟨hostname, addresses, events, rfl, urlVetted⟩
  · exact postsVetted_resolved vetted hostname 443 addresses other otherAnswer earlier before

/-! ### The validation -/

theorem validateHttpsWebhook_eq_some {url : Option String} {webhook : String}
    (validated : validateHttpsWebhook library url = .ok (some webhook)) :
    ∃ parsed hostname, IsSlackUrl library webhook parsed hostname := by
  unfold validateHttpsWebhook at validated
  split at validated
  · cases validated
  · obtain ⟨accepted, returned, same⟩ := map_eq_ok.mp validated
    obtain ⟨rfl, parsed, hostname, slackUrl⟩ := isSlackUrl_of_validated returned
    cases same
    exact ⟨parsed, hostname, slackUrl⟩

/-- The second parser finds what the first one accepted, and no credentials. -/
theorem webhookTarget_eq_ok {url : Option String} {webhook hostname : String} {port : Nat}
    (checked : webhookTarget library url = .ok (webhook, hostname, port)) :
    port = 443 ∧ ∃ parsed, IsSlackUrl library webhook parsed hostname ∧
      isFilled parsed.username = false ∧ isFilled parsed.password = false := by
  unfold webhookTarget at checked
  obtain ⟨validated, returned, checked⟩ := bind_eq_ok.mp checked
  cases validated with
  | none => cases checked
  | some value =>
      obtain ⟨parsed, host, slackUrl⟩ := validateHttpsWebhook_eq_some returned
      obtain ⟨again, parses, checked⟩ := bind_eq_ok.mp checked
      obtain rfl : parsed = again := Except.ok.inj (slackUrl.parses.symm.trans parses)
      rw [slackUrl.host, Option.getD_some] at checked
      split at checked
      · cases checked
      · rename_i anonymous
        rw [not_or, Bool.not_eq_true, Bool.not_eq_true] at anonymous
        split at checked
        · cases checked
        · obtain ⟨given, _, checked⟩ := bind_eq_ok.mp checked
          split at checked
          · cases checked
          · rename_i default
            split at checked
            · cases checked
            · cases checked
              exact ⟨not_not.mp default, parsed, slackUrl, anonymous⟩

/-- A query adds at most its answer to the events. -/
theorem resolveWebhookHost_spec {hostname : String} {port : Nat} {state next : WebhookState}
    {outcome : Except WebhookFailure (List String)}
    (resolved : resolveWebhookHost env hostname port state = (outcome, next)) :
    next.posts = state.posts ∧
      match outcome with
      | .ok addresses => addresses ≠ [] ∧
          next.events = .resolved hostname port addresses :: state.events
      | .error _ => next.events = state.events ∨
          ∃ addresses, next.events = .resolved hostname port addresses :: state.events := by
  unfold resolveWebhookHost at resolved
  dsimp only at resolved
  split at resolved
  · cases resolved
    exact ⟨rfl, Or.inl rfl⟩
  · cases resolved
    exact ⟨rfl, Or.inl rfl⟩
  · split at resolved
    · cases resolved
      exact ⟨rfl, Or.inr ⟨_, rfl⟩⟩
    · rename_i found
      cases resolved
      exact ⟨rfl, found, rfl⟩

theorem external_of_noneInternal {addresses : List String} {internal : List Bool}
    (looked : List.Forall₂ (fun address isInternal =>
      isInternalIp library address = .ok isInternal) addresses internal)
    (noneInternal : ¬ internal.any id) :
    ∀ address ∈ addresses, ∃ ip, library.ipAddress address = .ok ip ∧ ip.isGlobal := by
  induction looked with
  | nil => exact fun _ member => absurd member List.not_mem_nil
  | cons here _ inductionHypothesis =>
      rw [List.any_cons, Bool.or_eq_true, not_or] at noneInternal
      obtain ⟨ip, read, isGlobal⟩ := map_eq_ok.mp here
      refine List.forall_mem_cons.mpr ⟨⟨ip, read, ?_⟩, inductionHypothesis noneInternal.2⟩
      have notInternal := noneInternal.1
      rw [← isGlobal, id, Bool.not_eq_true, Bool.not_eq_false'] at notInternal
      exact notInternal

/-- A validation posts nothing, and one that returns has just vetted its URL. -/
theorem validateWebhookDeliveryUrl_spec {url : Option String} {state next : WebhookState}
    {outcome : Except WebhookFailure String}
    (validated : validateWebhookDeliveryUrl library env url state = (outcome, next)) :
    next.posts = state.posts ∧
      match outcome with
      | .ok webhook => ∃ hostname addresses, IsVetted library webhook hostname addresses ∧
          next.events = .resolved hostname 443 addresses :: state.events
      | .error _ => next.events = state.events ∨
          ∃ hostname port addresses,
            next.events = .resolved hostname port addresses :: state.events := by
  unfold validateWebhookDeliveryUrl at validated
  cases checked : webhookTarget library url with
  | error message =>
      rw [checked] at validated
      cases validated
      exact ⟨rfl, Or.inl rfl⟩
  | ok target =>
      obtain ⟨webhook, hostname, port⟩ := target
      obtain ⟨rfl, official⟩ := webhookTarget_eq_ok checked
      rw [checked] at validated
      dsimp only at validated
      cases answered : resolveWebhookHost env hostname 443 state with
      | mk queried after =>
          obtain ⟨samePosts, spec⟩ := resolveWebhookHost_spec answered
          rw [answered] at validated
          cases queried with
          | error failure =>
              cases validated
              refine ⟨samePosts, ?_⟩
              rcases spec with same | ⟨addresses, added⟩
              · exact Or.inl same
              · exact Or.inr ⟨hostname, 443, addresses, added⟩
          | ok addresses =>
              obtain ⟨nonempty, added⟩ := spec
              dsimp only at validated
              cases looked : addresses.mapM (isInternalIp library) with
              | error message =>
                  rw [looked] at validated
                  cases validated
                  exact ⟨samePosts, Or.inr ⟨hostname, 443, addresses, added⟩⟩
              | ok internal =>
                  rw [looked] at validated
                  dsimp only at validated
                  split at validated
                  · cases validated
                    exact ⟨samePosts, Or.inr ⟨hostname, 443, addresses, added⟩⟩
                  · rename_i noneInternal
                    cases validated
                    exact ⟨samePosts, hostname, addresses, ⟨official, nonempty,
                      external_of_noneInternal (mapM_eq_ok_iff.mp looked) noneInternal⟩, added⟩

/-! ### A call -/

/-- What a call has posted. -/
def WebhookState.posted (state : WebhookState) : List (String × PostAnswer) :=
  state.events.filterMap fun
    | .resolved .. => none
    | .posted url answer => some (url, answer)

/-- Each post so far was vetted, and they are counted. -/
structure Vetting (library : UrlLibrary) (state : WebhookState) : Prop where
  vetted : PostsVetted library state.events
  counted : state.posts = state.posted.length

/-- `True` is returned behind a post that was answered 2xx. -/
def EndsInSuccess (state : WebhookState) : Prop :=
  ∃ url answer earlier, state.events = .posted url answer :: earlier ∧ answer.isSuccess

theorem Vetting.initial : Vetting library {} where
  vetted url answer earlier suffix := by cases List.suffix_nil.mp suffix
  counted := rfl

theorem vetting_validated {url : Option String} {state next : WebhookState}
    {outcome : Except WebhookFailure String} (before : Vetting library state)
    (validated : validateWebhookDeliveryUrl library env url state = (outcome, next)) :
    Vetting library next ∧ next.posts = state.posts := by
  obtain ⟨samePosts, spec⟩ := validateWebhookDeliveryUrl_spec validated
  have added : next.events = state.events ∨ ∃ hostname port addresses,
      next.events = .resolved hostname port addresses :: state.events := by
    cases outcome with
    | error failure => exact spec
    | ok webhook =>
        obtain ⟨hostname, addresses, _, added⟩ := spec
        exact Or.inr ⟨hostname, 443, addresses, added⟩
  refine ⟨?_, samePosts⟩
  have counted := before.counted
  unfold WebhookState.posted at counted
  rcases added with same | ⟨hostname, port, addresses, added⟩
  · exact ⟨same ▸ before.vetted, by rw [samePosts, counted, WebhookState.posted, same]⟩
  · exact ⟨added ▸ postsVetted_resolved before.vetted hostname port addresses,
      by rw [samePosts, counted, WebhookState.posted, added]; rfl⟩

/-- A post of the URL that the last validation returned. -/
theorem vetting_posted {url : Option String} {webhook : String}
    {state validatedState : WebhookState} (before : Vetting library state)
    (validated : validateWebhookDeliveryUrl library env url state = (.ok webhook, validatedState)) :
    Vetting library (postWebhook env webhook validatedState).2 ∧
      (postWebhook env webhook validatedState).2.posts = state.posts + 1 := by
  obtain ⟨after, samePosts⟩ := vetting_validated before validated
  obtain ⟨-, hostname, addresses, urlVetted, added⟩ := validateWebhookDeliveryUrl_spec validated
  have counted := after.counted
  unfold WebhookState.posted at counted
  refine ⟨⟨?_, ?_⟩, congrArg (· + 1) samePosts⟩
  · show PostsVetted library (.posted webhook _ :: validatedState.events)
    rw [added]
    exact postsVetted_posted before.vetted urlVetted _
  · show validatedState.posts + 1 = _
    rw [counted]
    rfl

theorem postWebhook_events {url : String} {state next : WebhookState} {answer : PostAnswer}
    (answered : postWebhook env url state = (answer, next)) :
    next.events = .posted url answer :: state.events := by
  cases answered
  rfl

/-- By induction on the passes left: each makes one post at most. -/
theorem followWebhook_spec {remaining : Nat} {current : String} {state final : WebhookState}
    {result : Except WebhookFailure Bool} (before : Vetting library state)
    (followed : followWebhook library env remaining current state = (result, final)) :
    Vetting library final ∧ final.posts ≤ state.posts + remaining ∧
      (result = .ok true → EndsInSuccess final) := by
  induction remaining generalizing current state with
  | zero =>
      cases followed
      exact ⟨before, Nat.le_refl _, fun impossible => (by cases impossible)⟩
  | succ remaining inductionHypothesis =>
      unfold followWebhook at followed
      cases validated : validateWebhookDeliveryUrl library env (some current) state with
      | mk outcome validatedState =>
          rw [validated] at followed
          obtain ⟨after, samePosts⟩ := vetting_validated before validated
          cases outcome with
          | error failure =>
              cases followed
              exact ⟨after, by omega, fun impossible => (by cases impossible)⟩
          | ok webhook =>
              obtain ⟨posted, onePost⟩ := vetting_posted before validated
              dsimp only at followed
              cases answered : postWebhook env webhook validatedState with
              | mk answer postedState =>
                  have events := postWebhook_events answered
                  rw [answered] at followed posted onePost
                  dsimp only at followed posted onePost
                  have atMost : postedState.posts ≤ state.posts + (remaining + 1) := by omega
                  cases answer with
                  | httpError | raises =>
                      cases followed
                      exact ⟨posted, atMost, fun impossible => (by cases impossible)⟩
                  | response statusCode location =>
                      dsimp only at followed
                      split at followed
                      · split at followed
                        · split at followed
                          · cases followed
                            exact ⟨posted, atMost, fun impossible => (by cases impossible)⟩
                          · obtain ⟨vetted, fewer, success⟩ := inductionHypothesis posted followed
                            exact ⟨vetted, by omega, success⟩
                        · cases followed
                          exact ⟨posted, atMost, fun impossible => (by cases impossible)⟩
                      · split at followed
                        · rename_i succeeded
                          cases followed
                          exact ⟨posted, atMost, fun _ => ⟨webhook, _, _, events, succeeded⟩⟩
                        · cases followed
                          exact ⟨posted, atMost, fun impossible => (by cases impossible)⟩

/-- A webhook that is redirected once: two posts, and the answer to the second counts. -/
example :
    (slack {
        strip := id
        lower := id
        stripBrackets := id
        urlparse := fun _ => .ok {
          scheme := "https", hostname := some "hooks.slack.com", port := .ok none }
        urljoin := fun _ location => .ok location
        ipAddress := fun _ => .ok ⟨true, false, false, false, false, false, false⟩
        hostname_normal := fun _ _ => rfl } {
        dns := fun _ => .addresses ["34.1.2.3"]
        post := fun number =>
          if number = 0 then .response 302 (some "/b") else .response 200 none }
      (some "/a")).2.posted.map Prod.fst = ["/b", "/a"] := by
  decide

end

end LlmObs.Backend
