import LlmObs.Backend.Api.Auth
import LlmObs.Foundation.Machine

/-!
Owns when the bootstrap token creates one administrator only, while any number of
`register` transactions are interleaved: nothing but the count keeps the second one
out, so no other transaction may have passed its count when one is admitted.
-/

namespace LlmObs.Backend

open LlmObs.Foundation

abbrev RegisterSessions := Sessions AccountDatabase Registration AccountsError

/-- A count that admits its request is made before any other open transaction has
been admitted. -/
def AdmittedAlone (settings : RegistrationSettings) (state : RegisterSessions) :
    SessionAction RegisterCall → Prop
  | .statement index =>
      match state.phase? index with
      | some ⟨call, .counting⟩ =>
          admitsRegistration settings state.database.users.rows.length
              call.body.bootstrapToken = .ok () →
            ∀ other ∈ state.openPhases, other.stage = .counting
      | _ => True
  | _ => True

instance (settings : RegistrationSettings) (state : RegisterSessions)
    (action : SessionAction RegisterCall) : Decidable (AdmittedAlone settings state action) := by
  unfold AdmittedAlone
  split
  · split <;> infer_instance
  · infer_instance

/-- A count of no users, where public registration is off. -/
theorem no_users_of_admitted {settings : RegistrationSettings} {userCount : Nat}
    {bootstrapToken : Option String} (closed : settings.publicRegistrationEnabled = false)
    (admitted : admitsRegistration settings userCount bootstrapToken = .ok ()) :
    userCount = 0 := by
  rw [admitsRegistration, closed, if_neg Bool.false_ne_true] at admitted
  split at admitted
  · cases admitted
  · omega

/-- What holds of the registrations that started from `initial`: one of them at most
is past its count, and none is once one has committed. -/
structure BootstrappedOnce (runtime : Runtime) (initial : AccountDatabase)
    (state : RegisterSessions) : Prop where
  users : state.database.users.rows = state.history.map fun entry => entry.1.call.user
  organizations : state.database.organizations.rows = initial.organizations.rows ++
    state.history.map fun entry => entry.1.call.organization runtime
  alone : ∀ {index other registration otherRegistration},
    state.phase? index = some registration → state.phase? other = some otherRegistration →
      registration.stage ≠ .counting → otherRegistration.stage ≠ .counting → index = other
  closed : state.history ≠ [] → ∀ registration ∈ state.openPhases, registration.stage = .counting
  once : state.history.length ≤ 1

section Steps

variable {runtime : Runtime} {settings : RegistrationSettings} {initial : AccountDatabase}
  {state : RegisterSessions}

theorem bootstrappedOnce_idle {db : AccountDatabase} (noUsers : db.users.rows = [])
    (now : Int) : BootstrappedOnce runtime db (.idle db now) where
  users := noUsers
  organizations := (List.append_nil _).symm
  alone found := by simp [Sessions.idle, Sessions.phase?] at found
  closed committed := absurd rfl committed
  once := Nat.zero_le 1

/-- A step that only adds a request that has not counted. -/
theorem BootstrappedOnce.began (once : BootstrappedOnce runtime initial state)
    {session : Session Registration AccountsError}
    (counting : ∀ registration, session.phase? = some registration →
      registration.stage = .counting) :
    BootstrappedOnce runtime initial (state.push session) where
  users := once.users
  organizations := once.organizations
  alone found otherFound passed otherPassed := by
    rcases Sessions.phase?_push found with old | ⟨-, new⟩
    · rcases Sessions.phase?_push otherFound with otherOld | ⟨-, new⟩
      · exact once.alone old otherOld passed otherPassed
      · exact absurd (counting _ new) otherPassed
    · exact absurd (counting _ new) passed
  closed committed registration member := by
    rcases Sessions.openPhases_push member with old | new
    · exact once.closed committed registration old
    · exact counting registration new
  once := once.once

theorem BootstrappedOnce.moved (once : BootstrappedOnce runtime initial state)
    (closed : settings.publicRegistrationEnabled = false) {index : Nat}
    {registration moved : Registration} (found : state.phase? index = some registration)
    (admittedAlone : AdmittedAlone settings state (.statement index))
    (goes : registerStatement runtime settings state.database
      ((register runtime settings).heldByOthers state.sessions index) registration =
        .goes moved) :
    BootstrappedOnce runtime initial (state.setSession index (.running moved)) := by
  obtain ⟨-, movedPassed, rule⟩ := registration_of_goes goes
  -- The others have not counted: by the condition if this is the count, else because
  -- this transaction has.
  have apart : (∀ other otherRegistration, other ≠ index →
      state.phase? other = some otherRegistration → otherRegistration.stage = .counting) ∧
        state.history = [] := by
    by_cases counting : registration.stage = .counting
    · have admitted := rule counting
      obtain ⟨call, stage⟩ := registration
      cases counting
      simp only [AdmittedAlone, found] at admittedAlone
      refine ⟨fun other otherRegistration _ otherFound => admittedAlone admitted
        otherRegistration (Sessions.mem_openPhases.mpr ⟨other, otherFound⟩), ?_⟩
      have noUsers := List.eq_nil_of_length_eq_zero (no_users_of_admitted closed admitted)
      rw [once.users] at noUsers
      exact List.map_eq_nil_iff.mp noUsers
    · refine ⟨fun other otherRegistration different otherFound => ?_, ?_⟩
      · by_contra passed
        exact different (once.alone otherFound found passed counting)
      · by_contra committed
        exact counting (once.closed committed registration
          (Sessions.mem_openPhases.mpr ⟨index, found⟩))
  refine ⟨once.users, once.organizations, ?_, fun committed => absurd apart.2 committed,
    once.once⟩
  intro first second firstRegistration secondRegistration found₁ found₂ passed₁ passed₂
  rcases Sessions.phase?_setSession found₁ with ⟨same₁, -⟩ | ⟨different₁, old₁⟩
  · rcases Sessions.phase?_setSession found₂ with ⟨same₂, -⟩ | ⟨different₂, old₂⟩
    · exact same₁.trans same₂.symm
    · exact absurd (apart.1 second secondRegistration different₂ old₂) passed₂
  · exact absurd (apart.1 first firstRegistration different₁ old₁) passed₁

theorem BootstrappedOnce.failed (once : BootstrappedOnce runtime initial state) (index : Nat)
    (error : Option AccountsError) :
    BootstrappedOnce runtime initial (state.setSession index (.failed error)) where
  users := once.users
  organizations := once.organizations
  alone found otherFound := once.alone (Sessions.phase?_ended rfl found).2
    (Sessions.phase?_ended rfl otherFound).2
  closed committed registration member := by
    obtain ⟨other, found⟩ := Sessions.mem_openPhases.mp member
    exact once.closed committed registration
      (Sessions.mem_openPhases.mpr ⟨other, (Sessions.phase?_ended rfl found).2⟩)
  once := once.once

theorem BootstrappedOnce.committed (once : BootstrappedOnce runtime initial state) {index : Nat}
    {registration : Registration} {db : AccountDatabase}
    (found : state.phase? index = some registration)
    (commits : (register runtime settings).commit state.database registration = some db) :
    BootstrappedOnce runtime initial { state.setSession index .committed with
      database := db
      history := state.history ++ [(registration, state.now)] } := by
  have passed : registration.stage ≠ .counting := by
    intro counting
    simp [register, counting] at commits
  have first : state.history = [] := by
    by_contra committed
    exact passed (once.closed committed registration
      (Sessions.mem_openPhases.mpr ⟨index, found⟩))
  have rows : commitRegistration runtime state.database registration.call = some db := by
    simp only [register] at commits
    split at commits
    · exact commits
    · cases commits
  obtain ⟨organizations, users, -⟩ := rows_of_commitRegistration rows
  refine ⟨?_, ?_, ?_, fun _ other member => ?_, ?_⟩
  · dsimp only
    rw [users, once.users, List.map_append, List.map_singleton]
  · dsimp only
    rw [organizations, once.organizations, List.map_append, List.map_singleton,
      List.append_assoc]
  · intro left right leftRegistration rightRegistration leftFound rightFound
    exact once.alone (Sessions.phase?_ended rfl leftFound).2
      (Sessions.phase?_ended rfl rightFound).2
  · obtain ⟨otherIndex, otherFound⟩ := Sessions.mem_openPhases.mp member
    obtain ⟨different, old⟩ := Sessions.phase?_ended rfl otherFound
    by_contra otherPassed
    exact different (once.alone old found otherPassed passed)
  · simp [first]

theorem BootstrappedOnce.step (once : BootstrappedOnce runtime initial state)
    (closed : settings.publicRegistrationEnabled = false) {next : RegisterSessions}
    {action : SessionAction RegisterCall} (admittedAlone : AdmittedAlone settings state action)
    (stepped : (register runtime settings).machine.step state action = some next) :
    BootstrappedOnce runtime initial next := by
  cases TransactionSystem.change_of_step stepped with
  | began call session started same =>
      refine same ▸ once.began fun registration running => ?_
      have start := started registration running
      simp only [register, Except.ok.injEq] at start
      rw [← start]
  | moved index registration moved acted found replied same =>
      subst acted
      exact same ▸ once.moved closed found admittedAlone replied
  | failed index registration error found same => exact same ▸ once.failed index error
  | committed index registration db found commits same =>
      exact same ▸ once.committed found commits
  | elapsed duration same =>
      exact same ▸ ⟨once.users, once.organizations, once.alone, once.closed, once.once⟩

end Steps

/-- With public registration off and no users, one registration at most creates an
organization and its admin, as long as no count admits a request while another one
has been admitted. -/
theorem registersOnce_of_admittedAlone {runtime : Runtime} {settings : RegistrationSettings}
    {db : AccountDatabase} {now : Int} {actions : List (SessionAction RegisterCall)}
    {final : RegisterSessions} (closed : settings.publicRegistrationEnabled = false)
    (noUsers : db.users.rows = [])
    (reached : (register runtime settings).machine.run (.idle db now) actions = some final)
    (alone : (register runtime settings).machine.Along (AdmittedAlone settings) (.idle db now)
      actions) :
    final.history.length ≤ 1 ∧
      final.database.users.rows = (final.history.map fun entry => entry.1.call.user) ∧
      final.database.organizations.rows = db.organizations.rows ++
        final.history.map fun entry => entry.1.call.organization runtime := by
  have once : BootstrappedOnce runtime db final :=
    (register runtime settings).machine.run_invariant _
      (fun _ _ _ once admitted stepped => once.step closed admitted stepped)
      (bootstrappedOnce_idle noUsers now) alone reached
  exact ⟨once.once, once.users, once.organizations⟩

/-- Registration closed behind the token "token". -/
def closedRegistration : RegistrationSettings := ⟨false, some "token"⟩

def firstAdministrator : RegisterCall where
  body :=
    { email := "first@example.com", orgName := "first", bootstrapToken := some "token" }
  orgId := 1
  slugSuffix := "000001"
  userId := 11
  passwordHash := "hash"
  projectId := 21
  keyToken := "key1"

def secondAdministrator : RegisterCall where
  body :=
    { email := "second@example.com", orgName := "second", bootstrapToken := some "token" }
  orgId := 2
  slugSuffix := "000002"
  userId := 12
  passwordHash := "hash"
  projectId := 22
  keyToken := "key2"

/-- The five statements of one registration and its commit. -/
def registerAlone (index : Nat) : List (SessionAction RegisterCall) :=
  List.replicate 5 (.statement index) ++ [.commit index]

theorem registersOnce_of_admittedAlone_first :
    ∃ final, (register .inUtc closedRegistration).machine.run (.idle .empty 0)
        ([.begin firstAdministrator, .begin secondAdministrator] ++ registerAlone 0 ++
          [.statement 1]) = some final ∧
      final.history.length ≤ 1 ∧
      final.database.users.rows = (final.history.map fun entry => entry.1.call.user) ∧
      final.database.organizations.rows = [] ++
        final.history.map fun entry => entry.1.call.organization .inUtc := by
  obtain ⟨final, reached⟩ : ∃ final, (register .inUtc closedRegistration).machine.run
      (.idle .empty 0) ([.begin firstAdministrator, .begin secondAdministrator] ++
        registerAlone 0 ++ [.statement 1]) = some final := ⟨_, rfl⟩
  exact ⟨final, reached, registersOnce_of_admittedAlone rfl rfl reached (by decide +kernel)⟩

/-- Two counts of no users before either commit: two organizations with an admin
each. -/
theorem bootstrap_registersTwice :
    ((register .inUtc closedRegistration).machine.run (.idle .empty 0)
        ([.begin firstAdministrator, .begin secondAdministrator, .statement 0, .statement 1] ++
          List.replicate 4 (.statement 0) ++ [.commit 0] ++
          List.replicate 4 (.statement 1) ++ [.commit 1])).map
        (fun final => (final.database.organizations.rows, final.database.users.rows)) =
      some ([firstAdministrator.organization .inUtc, secondAdministrator.organization .inUtc],
        [firstAdministrator.user, secondAdministrator.user]) := by
  decide +kernel

end LlmObs.Backend
