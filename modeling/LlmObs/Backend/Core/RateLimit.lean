import LlmObs.Backend.Core.Auth
import LlmObs.Foundation.Machine
import LlmObs.Foundation.SlidingWindow
import LlmObs.Foundation.SortedSet
import Mathlib.Algebra.Order.Ring.Rat
import Mathlib.Logic.Function.Basic
import Mathlib.Tactic.Linarith

/-!
Owns `RateLimiter` and `AuthRateLimiter` on their sorted sets in Redis: any number of
calls for any keys, what each of them answers, and in which runs the calls for a key
stay within its limit.
-/

namespace LlmObs.Backend

open LlmObs.Foundation

/-- The settings that the limiters read. -/
structure RateLimitSettings where
  apiRateLimitPerMinute : Int := 1000
  authRateLimitPerMinute : Int := 20
  authRateLimitWindowSeconds : Int := 60

/-- The text `f"{now}:{id(object())}"`, which its two numbers determine. -/
structure RateMember where
  now : ℚ
  address : Nat
deriving DecidableEq

/-- What one call takes from its process and from the server. -/
structure RateReading where
  /-- `time.time()`, the seconds since the epoch. -/
  now : ℚ
  now_nonneg : 0 ≤ now
  /-- `id(object())` -/
  address : Nat
  /-- The clock of Redis when it executes the pipeline. -/
  serverTime : ℚ

def RateReading.member (reading : RateReading) : RateMember := ⟨reading.now, reading.address⟩

/-- The value of a limiter's key, and when it expires. -/
structure RateWindow where
  calls : SortedSet RateMember ℚ
  expiresAt : ℚ

/-- The keys of Redis that hold a sorted set. -/
abbrev RateWindows := String → Option RateWindow

/-- What Redis sees under a key. -/
def RateWindows.live (redis : RateWindows) (key : String) (serverTime : ℚ) :
    SortedSet RateMember ℚ :=
  match redis key with
  | some window => if serverTime < window.expiresAt then window.calls else .empty
  | none => .empty

/-- The headers that a call sets. -/
structure RateLimitHeaders where
  limit : Int
  remaining : Int
deriving DecidableEq, Repr

/-- `HTTPException` with status 429 and `rate_limit_exceeded`. -/
structure RateLimitExceeded where
  limit : Int
  retryAfter : Int
  headers : RateLimitHeaders
deriving DecidableEq, Repr

/-- `zremrangebyscore` of a limiter's pipeline. -/
def prunedCalls (window : Int) (key : String) (reading : RateReading) (redis : RateWindows) :
    SortedSet RateMember ℚ :=
  (redis.live key reading.serverTime).zremrangebyscore 0 (reading.now - window)

/-- `zadd` of a limiter's pipeline. -/
def countedCalls (window : Int) (key : String) (reading : RateReading) (redis : RateWindows) :
    SortedSet RateMember ℚ :=
  (prunedCalls window key reading redis).zadd reading.member reading.now

/-- The body that the two limiters share. -/
def checkWindow (window limit : Int) (key : String) (reading : RateReading)
    (redis : RateWindows) : Except RateLimitExceeded RateLimitHeaders × RateWindows :=
  let calls := countedCalls window key reading redis
  let count : Int := calls.zcard
  let remaining := max 0 (limit - count)
  let after := Function.update redis key
    (some ⟨calls, reading.serverTime + (window + 1)⟩)
  if limit < count then
    (.error { limit := limit, retryAfter := window, headers := ⟨limit, 0⟩ }, after)
  else (.ok ⟨limit, remaining⟩, after)

def RateLimiter.check (settings : RateLimitSettings) (projectId : String)
    (reading : RateReading) (redis : RateWindows) :
    Except RateLimitExceeded RateLimitHeaders × RateWindows :=
  checkWindow 60 settings.apiRateLimitPerMinute ("ratelimit:" ++ projectId) reading redis

def AuthRateLimiter.check (settings : RateLimitSettings) (identifier action : String)
    (reading : RateReading) (redis : RateWindows) :
    Except RateLimitExceeded RateLimitHeaders × RateWindows :=
  checkWindow settings.authRateLimitWindowSeconds settings.authRateLimitPerMinute
    ("ratelimit:auth:" ++ action ++ ":" ++ hexdigest (sha256 (encodeUtf8 identifier.toList)))
    reading redis

/-! ### Calls of both limiters -/

/-- What a call is about. The routes pass `str(project["id"])` to `RateLimiter`. -/
inductive RateSubject where
  | project (projectId : UUID)
  | auth (identifier action : String)

namespace RateSubject

def key : RateSubject → String
  | .project projectId => "ratelimit:" ++ projectId.str
  | .auth identifier action =>
      "ratelimit:auth:" ++ action ++ ":" ++ hexdigest (sha256 (encodeUtf8 identifier.toList))

def window (settings : RateLimitSettings) : RateSubject → Int
  | .project _ => 60
  | .auth _ _ => settings.authRateLimitWindowSeconds

def limit (settings : RateLimitSettings) : RateSubject → Int
  | .project _ => settings.apiRateLimitPerMinute
  | .auth _ _ => settings.authRateLimitPerMinute

/-- The call of the subject's limiter. -/
def check (settings : RateLimitSettings) (reading : RateReading) (redis : RateWindows) :
    RateSubject → Except RateLimitExceeded RateLimitHeaders × RateWindows
  | .project projectId => RateLimiter.check settings projectId.str reading redis
  | .auth identifier action => AuthRateLimiter.check settings identifier action reading redis

theorem check_eq (settings : RateLimitSettings) (reading : RateReading) (redis : RateWindows)
    (subject : RateSubject) : subject.check settings reading redis =
      checkWindow (subject.window settings) (subject.limit settings) subject.key reading
        redis := by
  cases subject <;> rfl

/-- No hexadecimal digit is the second letter of `auth`. -/
theorem str_ne_auth (projectId : UUID) (rest : String) : projectId.str ≠ "auth:" ++ rest := by
  intro same
  have second := congrArg (fun text => text.toList[1]?) same
  have digit : projectId.str.toList[1]? = some (projectId.charAt 1) := by
    simp [UUID.str]
  rw [digit] at second
  have letter : ("auth:" ++ rest).toList[1]? = some 'u' := by
    rw [String.toList_append]
    rfl
  rw [letter, Option.some.injEq] at second
  have noDigit : ∀ value : Fin 16, UUID.hexDigit value ≠ 'u' := by decide
  exact noDigit _ second

theorem append_of_prefix {whole first second : String} (whole_eq : whole = first ++ second)
    (third fourth fifth : String) :
    whole ++ third ++ fourth ++ fifth = first ++ (second ++ (third ++ fourth ++ fifth)) := by
  rw [whole_eq]
  simp only [String.append_assoc]

theorem key_auth (identifier action : String) :
    ∃ rest, key (.auth identifier action) = "ratelimit:" ++ ("auth:" ++ rest) := by
  have whole : "ratelimit:auth:" = "ratelimit:" ++ "auth:" := rfl
  exact ⟨_, append_of_prefix whole _ _ _⟩

theorem key_project_ne_key_auth (projectId : UUID) (identifier action : String) :
    key (.project projectId) ≠ key (.auth identifier action) := by
  intro equal
  obtain ⟨rest, auth⟩ := key_auth identifier action
  exact str_ne_auth projectId rest ((String.append_right_inj _).mp (equal.trans auth))

/-- Calls for one key are calls of one limiter. -/
theorem settings_of_key (settings : RateLimitSettings) {left right : RateSubject}
    (same : left.key = right.key) :
    left.window settings = right.window settings ∧
      left.limit settings = right.limit settings := by
  cases left with
  | project projectId =>
      cases right with
      | project other => exact ⟨rfl, rfl⟩
      | auth identifier action =>
          exact absurd same (key_project_ne_key_auth projectId identifier action)
  | auth identifier action =>
      cases right with
      | project projectId =>
          exact absurd same.symm (key_project_ne_key_auth projectId identifier action)
      | auth other otherAction => exact ⟨rfl, rfl⟩

end RateSubject

/-! ### Runs -/

/-- A call that has been answered. -/
structure RateDecision where
  subject : RateSubject
  reading : RateReading
  admitted : Bool

structure RateState where
  redis : RateWindows
  /-- Every call so far, the newest first. -/
  log : List RateDecision

/-- A subject and what its call reads. -/
abbrev RateCall := RateSubject × RateReading

def RateState.initial : RateState := ⟨fun _ => none, []⟩

/-- The calls for one key. -/
def RateState.decisions (key : String) (state : RateState) : List RateDecision :=
  state.log.filter fun decision => decision.subject.key = key

/-- Each action is one call. -/
def rateMachine (settings : RateLimitSettings) : Machine RateState RateCall where
  step state call :=
    let answered := call.1.check settings call.2 state.redis
    some {
      redis := answered.2
      log := ⟨call.1, call.2, answered.1.isOk⟩ :: state.log }

/-- The clock of the calls for one key does not run backwards. -/
def NonDecreasing (state : RateState) (call : RateCall) : Prop :=
  ∀ decision ∈ state.decisions call.1.key, decision.reading.now ≤ call.2.now

/-- The call is counted beside every call of its window: its member is none of those
that the pruning leaves, and a key that has expired held no more than the pruning
would have removed. -/
structure CountsAnew (settings : RateLimitSettings) (state : RateState) (call : RateCall) :
    Prop where
  newMember : ∀ entry ∈ (prunedCalls (call.1.window settings) call.1.key call.2
    state.redis).entries, entry.1 ≠ call.2.member
  expiredLate : ∀ window, state.redis call.1.key = some window →
    window.expiresAt ≤ call.2.serverTime →
      ∀ entry ∈ window.calls.entries, entry.2 ≤ call.2.now - call.1.window settings

/-! ### One call -/

section Check

variable {window limit : Int} {key : String} {reading : RateReading} {redis : RateWindows}

theorem checkWindow_redis : (checkWindow window limit key reading redis).2 =
    Function.update redis key (some ⟨countedCalls window key reading redis,
      reading.serverTime + (window + 1)⟩) := by
  unfold checkWindow
  dsimp only
  split <;> rfl

theorem checkWindow_isOk_iff : (checkWindow window limit key reading redis).1.isOk ↔
    ((countedCalls window key reading redis).zcard : Int) ≤ limit := by
  unfold checkWindow
  dsimp only
  split
  · rename_i exceeded
    simp only [Except.isOk, Except.toBool, Bool.false_eq_true, false_iff]
    omega
  · rename_i within
    simp only [Except.isOk, Except.toBool, true_iff]
    omega

theorem mem_live {entry : RateMember × ℚ} {serverTime : ℚ}
    (member : entry ∈ (redis.live key serverTime).entries) :
    ∃ stored, redis key = some stored ∧ entry ∈ stored.calls.entries := by
  unfold RateWindows.live at member
  cases stored : redis key with
  | none =>
      rw [stored] at member
      cases member
  | some value =>
      rw [stored] at member
      dsimp only at member
      split at member
      · exact ⟨value, rfl, member⟩
      · cases member

/-- Of what is stored, the pruning leaves at least the calls of the window. -/
theorem mem_prunedCalls {entry : RateMember × ℚ} {stored : RateWindow}
    (found : redis key = some stored) (member : entry ∈ stored.calls.entries)
    (expiredLate : stored.expiresAt ≤ reading.serverTime →
      ∀ entry ∈ stored.calls.entries, entry.2 ≤ reading.now - window)
    (recent : reading.now - window < entry.2) :
    entry ∈ (prunedCalls window key reading redis).entries := by
  rw [prunedCalls, SortedSet.mem_zremrangebyscore]
  refine ⟨?_, fun pruned => absurd pruned.2 (not_le.mpr recent)⟩
  unfold RateWindows.live
  rw [found]
  dsimp only
  split
  · exact member
  · rename_i expired
    exact absurd (expiredLate (not_lt.mp expired) entry member) (not_le.mpr recent)

end Check

/-! ### The calls for one key -/

/-- What Redis holds for a key after the calls `log`, the newest first. -/
structure Accounted (width : ℚ) (limit : Nat) (stored : Option RateWindow)
    (log : List RateDecision) : Prop where
  /-- From the last call on, each call of the window is in the set. -/
  kept : ∀ now, (∀ decision ∈ log, decision.reading.now ≤ now) →
    ∀ decision ∈ SlidingWindow.recent (·.reading.now) width now log,
      ∃ value, stored = some value ∧
        (decision.reading.member, decision.reading.now) ∈ value.calls.entries
  /-- and no two calls of the window are one member. -/
  distinct : ∀ now, (∀ decision ∈ log, decision.reading.now ≤ now) →
    ((SlidingWindow.recent (·.reading.now) width now log).map (·.reading.member)).Nodup
  withinLimit : SlidingWindow.WithinLimit (·.reading.now) (·.admitted) width limit log

theorem accounted_nil {width : ℚ} {limit : Nat} : Accounted width limit none [] where
  kept _ _ _ member := by cases member
  distinct _ _ := List.nodup_nil
  withinLimit := trivial

section Step

variable {window limit : Int} {key : String} {reading : RateReading} {redis : RateWindows}
  {log : List RateDecision} {decision : RateDecision}

/-- A call that is counted anew adds one to the calls of its window. -/
theorem recent_counted (before : Accounted window limit.toNat (redis key) log)
    (ordered : ∀ earlier ∈ log, earlier.reading.now ≤ reading.now)
    (newMember : ∀ entry ∈ (prunedCalls window key reading redis).entries,
      entry.1 ≠ reading.member)
    (expiredLate : ∀ stored, redis key = some stored →
      stored.expiresAt ≤ reading.serverTime →
        ∀ entry ∈ stored.calls.entries, entry.2 ≤ reading.now - window)
    (earlier : RateDecision)
    (member : earlier ∈ SlidingWindow.recent (·.reading.now) (window : ℚ) reading.now log) :
    earlier.reading.member ≠ reading.member ∧
      (earlier.reading.member, earlier.reading.now) ∈
        (countedCalls window key reading redis).entries := by
  obtain ⟨stored, found, entry⟩ := before.kept reading.now ordered earlier member
  have pruned := mem_prunedCalls found entry (expiredLate stored found)
    (SlidingWindow.mem_recent.mp member).2
  have other := newMember _ pruned
  exact ⟨other, SortedSet.mem_zadd_of_ne pruned other⟩

/-- The set that the call writes has the call and every counted call of its window. -/
theorem mem_countedCalls (same : decision.reading = reading)
    (counted : ∀ earlier ∈ SlidingWindow.recent (·.reading.now) (window : ℚ) reading.now log,
      earlier.reading.member ≠ reading.member ∧
        (earlier.reading.member, earlier.reading.now) ∈
          (countedCalls window key reading redis).entries) {other : RateDecision}
    (member : other ∈
      decision :: SlidingWindow.recent (·.reading.now) (window : ℚ) reading.now log) :
    (other.reading.member, other.reading.now) ∈
      (countedCalls window key reading redis).entries := by
  cases member with
  | head =>
      rw [same]
      exact SortedSet.mem_zadd_self
  | tail _ earlier => exact (counted other earlier).2

theorem accounted_step (before : Accounted window limit.toNat (redis key) log)
    (ordered : ∀ earlier ∈ log, earlier.reading.now ≤ reading.now)
    (newMember : ∀ entry ∈ (prunedCalls window key reading redis).entries,
      entry.1 ≠ reading.member)
    (expiredLate : ∀ stored, redis key = some stored →
      stored.expiresAt ≤ reading.serverTime →
        ∀ entry ∈ stored.calls.entries, entry.2 ≤ reading.now - window)
    (same : decision.reading = reading)
    (admitted_iff : decision.admitted ↔
      ((countedCalls window key reading redis).zcard : Int) ≤ limit) :
    Accounted window limit.toNat
      ((checkWindow window limit key reading redis).2 key) (decision :: log) := by
  have counted := recent_counted before ordered newMember expiredLate
  have afterCall : (checkWindow window limit key reading redis).2 key =
      some ⟨countedCalls window key reading redis, reading.serverTime + (window + 1)⟩ := by
    rw [checkWindow_redis, Function.update_self]
  have sublist : ∀ now, reading.now ≤ now →
      (SlidingWindow.recent (·.reading.now) (window : ℚ) now (decision :: log)).Sublist
        (decision :: SlidingWindow.recent (·.reading.now) (window : ℚ) reading.now log) := by
    intro now later
    rw [← same] at later ⊢
    exact SlidingWindow.recent_cons_sublist later
  have newest : ((decision :: SlidingWindow.recent (·.reading.now) (window : ℚ) reading.now
      log).map (·.reading.member)).Nodup := by
    rw [List.map_cons, List.nodup_cons]
    refine ⟨fun repeated => ?_, before.distinct reading.now ordered⟩
    obtain ⟨earlier, recent, equal⟩ := List.mem_map.mp repeated
    rw [same] at equal
    exact (counted earlier recent).1 equal
  have distinct : ∀ now, reading.now ≤ now →
      ((SlidingWindow.recent (·.reading.now) (window : ℚ) now (decision :: log)).map
        (·.reading.member)).Nodup :=
    fun now later => newest.sublist ((sublist now later).map _)
  have kept : ∀ now, reading.now ≤ now → ∀ other ∈
      SlidingWindow.recent (·.reading.now) (window : ℚ) now (decision :: log),
        (other.reading.member, other.reading.now) ∈
          (countedCalls window key reading redis).entries := by
    intro now later other recent
    exact mem_countedCalls same counted ((sublist now later).mem recent)
  have callBefore : ∀ now, (∀ earlier ∈ decision :: log, earlier.reading.now ≤ now) →
      reading.now ≤ now := by
    intro now latest
    rw [← same]
    exact latest decision List.mem_cons_self
  refine ⟨?_, fun now latest => distinct now (callBefore now latest), ?_, before.withinLimit⟩
  · intro now latest other recent
    exact ⟨_, afterCall, kept now (callBefore now latest) other recent⟩
  · intro admitted
    have fits := admitted_iff.mp admitted
    have fewer := SortedSet.length_le_zcard (distinct reading.now le_rfl) (fun _ listed => by
        obtain ⟨other, recent, rfl⟩ := List.mem_map.mp listed
        exact List.mem_map.mpr ⟨_, kept reading.now le_rfl other recent, rfl⟩)
    rw [List.length_map] at fewer
    show (SlidingWindow.recent _ _ decision.reading.now _).length ≤ limit.toNat
    rw [same]
    omega

end Step

/-! ### Any run -/

section Run

variable {settings : RateLimitSettings} {subject : RateSubject}

/-- What holds for the key of `subject` between two calls. -/
def SubjectAccounted (settings : RateLimitSettings) (subject : RateSubject) (state : RateState) :
    Prop :=
  Accounted (subject.window settings) (subject.limit settings).toNat (state.redis subject.key)
    (state.decisions subject.key)

theorem decisions_step_of_ne {state next : RateState} {call : RateCall}
    (other : call.1.key ≠ subject.key)
    (stepped : (rateMachine settings).step state call = some next) :
    next.redis subject.key = state.redis subject.key ∧
      next.decisions subject.key = state.decisions subject.key := by
  cases stepped
  constructor
  · show (call.1.check settings call.2 state.redis).2 subject.key = _
    rw [RateSubject.check_eq, checkWindow_redis, Function.update_of_ne other.symm]
  · show List.filter _ (_ :: state.log) = _
    rw [List.filter_cons_of_neg (by simpa using other)]
    rfl

/-- A call for another key changes nothing for this one. -/
theorem subjectAccounted_step {state next : RateState} {call : RateCall}
    (before : SubjectAccounted settings subject state)
    (meets : NonDecreasing state call ∧
      (call.1.key = subject.key → CountsAnew settings state call))
    (stepped : (rateMachine settings).step state call = some next) :
    SubjectAccounted settings subject next := by
  by_cases same : call.1.key = subject.key
  · obtain ⟨ordered, counts⟩ := meets
    obtain ⟨newMember, expiredLate⟩ := counts same
    obtain ⟨sameWindow, sameLimit⟩ := RateSubject.settings_of_key settings same
    cases stepped
    unfold NonDecreasing at ordered
    unfold SubjectAccounted RateState.decisions
    rw [List.filter_cons_of_pos (by simpa using same)]
    dsimp only
    rw [RateSubject.check_eq, sameWindow, sameLimit, same]
    rw [sameWindow, same] at newMember expiredLate
    rw [same] at ordered
    exact accounted_step before ordered newMember expiredLate rfl checkWindow_isOk_iff
  · obtain ⟨sameStored, sameLog⟩ := decisions_step_of_ne same stepped
    unfold SubjectAccounted
    rw [sameStored, sameLog]
    exact before

/-- Every entry of a key is a call for the key, in every state that a run reaches. -/
def SubjectScored (subject : RateSubject) (state : RateState) : Prop :=
  ∀ value, state.redis subject.key = some value → ∀ entry ∈ value.calls.entries,
    ∃ decision ∈ state.decisions subject.key,
      entry = (decision.reading.member, decision.reading.now)

theorem subjectScored_step {state next : RateState} {call : RateCall}
    (before : SubjectScored subject state)
    (stepped : (rateMachine settings).step state call = some next) :
    SubjectScored subject next := by
  intro value found entry listed
  by_cases same : call.1.key = subject.key
  · cases stepped
    dsimp only at found
    rw [RateSubject.check_eq, checkWindow_redis, same, Function.update_self,
      Option.some.injEq] at found
    subst found
    unfold RateState.decisions
    rw [List.filter_cons_of_pos (by simpa using same)]
    rcases SortedSet.mem_of_mem_zadd listed with rfl | earlier
    · exact ⟨_, List.mem_cons_self .., rfl⟩
    · obtain ⟨stored, found, member⟩ :=
        mem_live (SortedSet.mem_zremrangebyscore.mp earlier).1
      obtain ⟨other, listed, equal⟩ := before stored found entry member
      exact ⟨other, List.mem_cons_of_mem _ listed, equal⟩
  · obtain ⟨sameStored, sameLog⟩ := decisions_step_of_ne same stepped
    rw [sameStored] at found
    rw [sameLog]
    exact before value found entry listed

/-- Nothing is left of calls that are a window ago. -/
theorem zcard_countedCalls_of_idle {state : RateState} {reading : RateReading}
    (scored : SubjectScored subject state)
    (idle : ∀ decision ∈ state.decisions subject.key,
      decision.reading.now + subject.window settings ≤ reading.now) :
    (countedCalls (subject.window settings) subject.key reading state.redis).zcard = 1 := by
  have nothing : (prunedCalls (subject.window settings) subject.key reading
      state.redis).entries = [] := by
    rw [List.eq_nil_iff_forall_not_mem]
    intro entry left
    obtain ⟨live, kept⟩ := SortedSet.mem_zremrangebyscore.mp left
    obtain ⟨stored, found, member⟩ := mem_live live
    obtain ⟨decision, listed, rfl⟩ := scored stored found entry member
    apply kept
    exact ⟨decision.reading.now_nonneg, le_sub_iff_add_le.mpr (idle decision listed)⟩
  have zcard : (prunedCalls (subject.window settings) subject.key reading
      state.redis).zcard = 0 := by
    rw [SortedSet.zcard, nothing, List.length_nil]
  rw [countedCalls, SortedSet.zcard_zadd, nothing, zcard]
  rfl

/-- The calls for the key that are admitted at a time inside. -/
def RateState.admitted (key : String) (inside : ℚ → Bool) (state : RateState) :
    List RateDecision :=
  (state.decisions key).filter fun decision =>
    decision.admitted && inside decision.reading.now

/-- While the clock does not run backwards and each call of a subject is counted anew,
its limiter admits at most `limit` calls in any half-open window. In every run it admits
a call that follows a window without any. -/
theorem admitted_le_limit (settings : RateLimitSettings) (subject : RateSubject)
    {calls : List RateCall} {final : RateState}
    (ran : (rateMachine settings).run .initial calls = some final) :
    ((rateMachine settings).Along NonDecreasing .initial calls →
      (rateMachine settings).Along (fun state call =>
        call.1.key = subject.key → CountsAnew settings state call) .initial calls →
      ∀ start : ℚ,
        (final.admitted subject.key
          (SlidingWindow.fromStart (subject.window settings : ℚ) start)).length ≤
            (subject.limit settings).toNat ∧
        (final.admitted subject.key
          (SlidingWindow.afterStart (subject.window settings : ℚ) start)).length ≤
            (subject.limit settings).toNat) ∧
    ∀ reading : RateReading, (∀ decision ∈ final.decisions subject.key,
        decision.reading.now + subject.window settings ≤ reading.now) →
      1 ≤ subject.limit settings →
      (subject.check settings reading final.redis).1.isOk := by
  constructor
  · intro ordered counted start
    have initial : SubjectAccounted settings subject .initial := accounted_nil
    have accounted : SubjectAccounted settings subject final :=
      (rateMachine settings).run_invariant (SubjectAccounted settings subject)
        (fun _ _ _ before meets stepped => subjectAccounted_step before meets stepped)
        initial (ordered.and counted) ran
    exact ⟨accounted.withinLimit.length_admitted_le (SlidingWindow.narrow_fromStart _ start),
      accounted.withinLimit.length_admitted_le (SlidingWindow.narrow_afterStart _ start)⟩
  · intro reading idle positive
    have initial : SubjectScored subject .initial := by
      intro value found
      cases found
    have scored : SubjectScored subject final :=
      (rateMachine settings).run_invariant_always
        (fun _ _ _ before stepped => subjectScored_step before stepped) initial ran
    rw [RateSubject.check_eq, checkWindow_isOk_iff, zcard_countedCalls_of_idle scored idle]
    exact positive

end Run

/-- A first call counts, and a second one is admitted a window later. -/
theorem admitted_le_limit_one_call :
    ∃ final, (rateMachine { apiRateLimitPerMinute := 1 }).run .initial
        [(.project 0, ⟨0, le_rfl, 7, 0⟩)] = some final ∧
      (final.admitted (RateSubject.project 0).key (SlidingWindow.fromStart 60 0)).length ≤ 1 ∧
      ((RateSubject.project 0).check { apiRateLimitPerMinute := 1 }
        ⟨60, by decide, 7, 60⟩ final.redis).1.isOk := by
  obtain ⟨windows, readmitted⟩ := admitted_le_limit { apiRateLimitPerMinute := 1 } (.project 0)
    (show (rateMachine _).run .initial [(.project 0, ⟨0, le_rfl, 7, 0⟩)] = some _ from rfl)
  have ordered : (rateMachine { apiRateLimitPerMinute := 1 }).Along NonDecreasing .initial
      [(.project 0, ⟨0, le_rfl, 7, 0⟩)] :=
    ⟨fun _ earlier => (by cases earlier), fun _ _ => trivial⟩
  have counted : (rateMachine { apiRateLimitPerMinute := 1 }).Along (fun state call =>
      call.1.key = (RateSubject.project 0).key →
        CountsAnew { apiRateLimitPerMinute := 1 } state call) .initial
      [(.project 0, ⟨0, le_rfl, 7, 0⟩)] :=
    ⟨fun _ => ⟨fun _ listed => (by cases listed), fun _ found => (by cases found)⟩,
      fun _ _ => trivial⟩
  refine ⟨_, rfl, (windows ordered counted 0).1, readmitted _ ?_ (by decide)⟩
  intro decision listed
  obtain rfl := List.mem_singleton.mp (List.mem_filter.mp listed).1
  show (0 : ℚ) + ((60 : Int) : ℚ) ≤ 60
  norm_num

/-- The member of a call is the only one of its key. -/
def OnlyMember (key : String) (reading : RateReading) (redis : RateWindows) : Prop :=
  ∀ stored, redis key = some stored → ∀ entry ∈ stored.calls.entries,
    entry.1 = reading.member

/-- A call whose member is the only one already is counted as the first one. -/
theorem checkWindow_of_onlyMember (window : Int) {limit : Int} {key : String}
    {reading : RateReading} {redis : RateWindows} (only : OnlyMember key reading redis)
    (positive : 1 ≤ limit) :
    (checkWindow window limit key reading redis).1.isOk ∧
      OnlyMember key reading (checkWindow window limit key reading redis).2 := by
  have member : ∀ entry ∈ (countedCalls window key reading redis).entries,
      entry.1 = reading.member := by
    intro entry listed
    rcases SortedSet.mem_of_mem_zadd listed with rfl | earlier
    · rfl
    · obtain ⟨stored, found, member⟩ :=
        mem_live (SortedSet.mem_zremrangebyscore.mp earlier).1
      exact only stored found entry member
  have one : (countedCalls window key reading redis).zcard ≤ [reading.member].length :=
    SortedSet.zcard_le_length fun entry listed => List.mem_singleton.mpr (member entry listed)
  rw [List.length_singleton] at one
  constructor
  · rw [checkWindow_isOk_iff]
    omega
  · intro stored found
    rw [checkWindow_redis, Function.update_self, Option.some.injEq] at found
    subst found
    exact member

/-- Two calls with one reading of the clock and one address: the second adds no
member, and both are admitted under a limit of one. -/
theorem admitted_twice :
    ∃ final, (rateMachine { apiRateLimitPerMinute := 1 }).run .initial
        [(.project 0, ⟨0, le_rfl, 7, 0⟩), (.project 0, ⟨0, le_rfl, 7, 0⟩)] = some final ∧
      (rateMachine { apiRateLimitPerMinute := 1 }).Along NonDecreasing .initial
        [(.project 0, ⟨0, le_rfl, 7, 0⟩), (.project 0, ⟨0, le_rfl, 7, 0⟩)] ∧
      (final.admitted (RateSubject.project 0).key (SlidingWindow.fromStart 60 0)).length = 2 := by
  have nothing : OnlyMember (RateSubject.project 0).key ⟨0, le_rfl, 7, 0⟩
      RateState.initial.redis := by
    intro stored found
    cases found
  obtain ⟨firstOk, only⟩ :=
    checkWindow_of_onlyMember 60 nothing (le_refl (1 : Int))
  obtain ⟨secondOk, -⟩ := checkWindow_of_onlyMember 60 only (le_refl (1 : Int))
  refine ⟨_, rfl, ?_, ?_⟩
  · refine ⟨fun _ earlier => (by cases earlier), fun _ first => ?_⟩
    cases first
    refine ⟨fun decision earlier => ?_, fun _ _ => trivial⟩
    obtain rfl := List.mem_singleton.mp (List.mem_filter.mp earlier).1
    exact le_rfl
  · show (List.filter _ (List.filter _ [
      (⟨.project 0, ⟨0, le_rfl, 7, 0⟩, (checkWindow 60 1 (RateSubject.project 0).key _
        (checkWindow 60 1 (RateSubject.project 0).key _ RateState.initial.redis).2).1.isOk⟩ :
          RateDecision),
      ⟨.project 0, ⟨0, le_rfl, 7, 0⟩, (checkWindow 60 1 (RateSubject.project 0).key _
        RateState.initial.redis).1.isOk⟩])).length = 2
    rw [firstOk, secondOk]
    simp [SlidingWindow.fromStart]

/-! ### The clock of the server -/

section Prompt

variable {settings : RateLimitSettings} {subject : RateSubject}

/-- Redis executes a call within a second of its reading of the clock. -/
def Prompt (call : RateCall) : Prop :=
  call.2.now ≤ call.2.serverTime ∧ call.2.serverTime ≤ call.2.now + 1

/-- A key expires a window and a second after the last of its calls. -/
structure ExpiresLate (settings : RateLimitSettings) (subject : RateSubject)
    (state : RateState) : Prop where
  scored : SubjectScored subject state
  expiresAt : ∀ value, state.redis subject.key = some value → ∀ entry ∈ value.calls.entries,
    entry.2 + (subject.window settings + 1) ≤ value.expiresAt

theorem expiresLate_step {state next : RateState} {call : RateCall}
    (before : ExpiresLate settings subject state)
    (meets : NonDecreasing state call ∧ Prompt call)
    (stepped : (rateMachine settings).step state call = some next) :
    ExpiresLate settings subject next := by
  refine ⟨subjectScored_step before.scored stepped, ?_⟩
  by_cases same : call.1.key = subject.key
  · obtain ⟨ordered, prompt⟩ := meets
    obtain ⟨sameWindow, _⟩ := RateSubject.settings_of_key settings same
    have scored := subjectScored_step before.scored stepped
    intro value found entry listed
    obtain ⟨decision, called, rfl⟩ := scored value found entry listed
    have latest : decision.reading.now ≤ call.2.now := by
      cases stepped
      unfold RateState.decisions at called
      rw [List.filter_cons_of_pos (by simpa using same)] at called
      cases called with
      | head => exact le_rfl
      | tail _ earlier => exact ordered decision (same ▸ earlier)
    cases stepped
    dsimp only at found
    rw [RateSubject.check_eq, checkWindow_redis, same, Function.update_self,
      Option.some.injEq, sameWindow] at found
    subst found
    exact add_le_add_left (latest.trans prompt.1) _
  · obtain ⟨sameStored, _⟩ := decisions_step_of_ne same stepped
    rw [sameStored]
    exact before.expiresAt

/-- Where Redis is prompt, no call that still counts is lost to the expiry of its key,
and a call is counted anew when its member is new. -/
theorem countsAnew_of_prompt {calls : List RateCall}
    (ordered : (rateMachine settings).Along NonDecreasing .initial calls)
    (prompt : ∀ call ∈ calls, Prompt call)
    (newMember : (rateMachine settings).Along (fun state call => call.1.key = subject.key →
      ∀ entry ∈ (prunedCalls (call.1.window settings) call.1.key call.2 state.redis).entries,
        entry.1 ≠ call.2.member) .initial calls) :
    (rateMachine settings).Along (fun state call =>
      call.1.key = subject.key → CountsAnew settings state call) .initial calls := by
  have promptAlong := (rateMachine settings).along_of_forall
    (fun call listed _ => prompt call listed) .initial
  have initial : ExpiresLate settings subject .initial :=
    ⟨fun _ found => (by cases found), fun _ found => (by cases found)⟩
  apply Machine.Along.mono_of_invariant _ _ initial ((ordered.and promptAlong).and newMember)
  · intro state call next before meets stepped
    exact expiresLate_step before meets.1 stepped
  · intro state call before meets same
    refine ⟨meets.2 same, fun stored found expired entry listed => ?_⟩
    obtain ⟨sameWindow, _⟩ := RateSubject.settings_of_key settings same
    have late := before.expiresAt stored (same ▸ found) entry listed
    have soon := meets.1.2.2
    rw [sameWindow]
    linarith

end Prompt

end LlmObs.Backend
