import LlmObs.Backend.Runtime
import LlmObs.Foundation.Machine
import LlmObs.Foundation.Uuid
import Mathlib.Data.List.Basic

/-!
Owns any number of `send_alert` calls for one rule on the cooldown key of the rule: the
Redis `get`, the two channels, the Redis `set` with its expiry and the alert event, each
a step of its own. It says in which runs notifications of different calls are a
cooldown apart. It does not own the delivery inside a channel.
-/

namespace LlmObs.Backend

open LlmObs.Foundation

/-! ### The rule and its calls -/

/-- The entries of a rule that `send_alert` reads. -/
structure AlertRule where
  id : UUID
  notifySlackWebhook : Option String
  notifyEmail : Option String
  cooldownMinutes : Nat
  cooldownMinutes_ge : 1 ≤ cooldownMinutes := by decide

namespace AlertRule

variable (rule : AlertRule)

/-- The `ex` of the key, in milliseconds. -/
def cooldown : Nat := rule.cooldownMinutes * 60 * 1000

theorem cooldown_pos : 0 < rule.cooldown := by
  have := rule.cooldownMinutes_ge
  unfold cooldown
  omega

def hasSlack : Bool := rule.notifySlackWebhook.any (· ≠ "")

def hasEmail : Bool := rule.notifyEmail.any (· ≠ "")

end AlertRule

/-- The next step of a call. -/
inductive AlertPhase where
  | checking
  | slack
  | email (sent : Bool)
  | recording
  /-- `record_alert_if_sent` behind `send_alert`. -/
  | inserting
  | returned (sent : Bool)
  | stopped
deriving DecidableEq, Repr

namespace AlertPhase

/-- `if sent`, after the channels. -/
def afterChannels (sent : Bool) : AlertPhase := if sent then .recording else .returned false

def afterSlack (rule : AlertRule) (sent : Bool) : AlertPhase :=
  if rule.hasEmail then .email sent else afterChannels sent

/-- After a `get` that found no key. -/
def afterRead (rule : AlertRule) : AlertPhase :=
  if rule.hasSlack then .slack else afterSlack rule false

/-- The call has read the key and may still set it. -/
def isOpen : AlertPhase → Bool
  | .slack | .email _ | .recording => true
  | _ => false

def isEnded : AlertPhase → Bool
  | .returned _ | .stopped => true
  | _ => false

/-- The phase after a channel has answered. -/
def afterChannel (rule : AlertRule) (reported : Bool) : AlertPhase → Option AlertPhase
  | .slack => some (afterSlack rule reported)
  | .email sent => some (afterChannels (sent || reported))
  | _ => none

end AlertPhase

/-- How `_slack` or `_email` ends: whether the message is delivered, and what is
returned. -/
inductive ChannelAnswer where
  | sent
  | failed
  /-- The message is delivered and the answer of the server is lost. -/
  | unacknowledged
deriving DecidableEq, Repr

def ChannelAnswer.delivered : ChannelAnswer → Bool
  | .failed => false
  | .sent | .unacknowledged => true

def ChannelAnswer.reported : ChannelAnswer → Bool
  | .sent => true
  | .failed | .unacknowledged => false

structure Notification where
  call : Nat
  time : Nat
deriving DecidableEq, Repr

/-- A call, and the notifications whose cooldown was set when it read the key. -/
structure AlertCall where
  phase : AlertPhase
  settled : List Notification
deriving DecidableEq, Repr

structure AlertState where
  now : Nat
  /-- When the key expires, if it was ever set. -/
  expiry : Option Nat
  calls : List AlertCall
  notifications : List Notification
  /-- The calls whose `set` took effect. -/
  recorded : List Nat
  alertEvents : List Nat
deriving DecidableEq, Repr

inductive AlertAction where
  /-- A task calls `send_alert`. -/
  | raise
  | get (call : Nat)
  | deliver (call : Nat) (answer : ChannelAnswer)
  /-- The key is set; the call may not live to see it. -/
  | set (call : Nat) (answered : Bool)
  | insert (call : Nat)
  /-- An exception, a cancellation or a crash. -/
  | stop (call : Nat)
  | elapse (duration : Nat)
deriving DecidableEq, Repr

namespace AlertState

def idle : AlertState := ⟨0, none, [], [], [], []⟩

/-- `redis.get(cooldown_key)` finds the key. -/
def onCooldown (state : AlertState) : Bool := state.expiry.any (state.now < ·)

/-- The notifications whose cooldown has been set. -/
def settled (state : AlertState) : List Notification :=
  state.notifications.filter fun notification => decide (notification.call ∈ state.recorded)

def setPhase (state : AlertState) (index : Nat) (call : AlertCall) (phase : AlertPhase) :
    AlertState :=
  { state with calls := state.calls.set index { call with phase := phase } }

end AlertState

section

variable (rule : AlertRule)

/-- What a call does next. -/
def stepCall (state : AlertState) (index : Nat) (call : AlertCall) :
    AlertAction → Option AlertState
  | .get _ =>
      if call.phase = .checking then
        if state.onCooldown then some (state.setPhase index call (.returned false))
        else some (state.setPhase index { call with settled := state.settled } (.afterRead rule))
      else none
  | .deliver _ answer =>
      (call.phase.afterChannel rule answer.reported).map fun phase =>
        { state.setPhase index call phase with
          notifications := state.notifications ++
            if answer.delivered then [⟨index, state.now⟩] else [] }
  | .set _ answered =>
      if call.phase = .recording then
        some { state.setPhase index call (if answered then .inserting else .stopped) with
          expiry := some (state.now + rule.cooldown)
          recorded := state.recorded ++ [index] }
      else none
  | .insert _ =>
      if call.phase = .inserting then
        some { state.setPhase index call (.returned true) with
          alertEvents := state.alertEvents ++ [index] }
      else none
  | .stop _ => if call.phase.isEnded then none else some (state.setPhase index call .stopped)
  | .raise | .elapse _ => none

def stepAlerts (state : AlertState) (action : AlertAction) : Option AlertState :=
  match action with
  | .raise => some { state with calls := state.calls ++ [⟨.checking, []⟩] }
  | .elapse duration => some { state with now := state.now + duration }
  | .get index | .deliver index _ | .set index _ | .insert index | .stop index =>
      state.calls[index]?.bind fun call => stepCall rule state index call action

def alertCalls : Machine AlertState AlertAction := ⟨stepAlerts rule⟩

end

/-! ### What one step can do -/

/-- What a step leaves of the notifications, the key and the call that made it. -/
inductive AlertChange (rule : AlertRule) (state : AlertState) (action : AlertAction)
    (next : AlertState) : Prop
  | raised (same : next = { state with calls := state.calls ++ [⟨.checking, []⟩] })
  | read (index : Nat) (call : AlertCall) (found : state.calls[index]? = some call)
      (absent : state.onCooldown = false) (checking : call.phase = .checking)
      (same : next = state.setPhase index { call with settled := state.settled }
        (.afterRead rule))
  | delivered (index : Nat) (call : AlertCall) (answer : ChannelAnswer) (phase : AlertPhase)
      (acted : action = .deliver index answer) (found : state.calls[index]? = some call)
      (opened : call.phase.isOpen = true) (recorded : phase.isOpen = true ∨ phase = .returned false)
      (same : next = { state.setPhase index call phase with
        notifications := state.notifications ++
          if answer.delivered then [⟨index, state.now⟩] else [] })
  | recorded (index : Nat) (call : AlertCall) (phase : AlertPhase)
      (found : state.calls[index]? = some call) (closed : phase.isOpen = false)
      (checked : phase ≠ .checking)
      (same : next = { state.setPhase index call phase with
        expiry := some (state.now + rule.cooldown)
        recorded := state.recorded ++ [index] })
  | ended (index : Nat) (call : AlertCall) (phase : AlertPhase) (events : List Nat)
      (found : state.calls[index]? = some call) (closed : phase.isOpen = false)
      (checked : phase ≠ .checking)
      (same : next = { state.setPhase index call phase with alertEvents := events })
  | elapsed (duration : Nat) (same : next = { state with now := state.now + duration })

theorem afterChannel_cases {rule : AlertRule} {phase next : AlertPhase} {reported : Bool}
    (moved : phase.afterChannel rule reported = some next) :
    phase.isOpen = true ∧ (next.isOpen = true ∨ next = .returned false) := by
  have closes : ∀ sent, (AlertPhase.afterChannels sent).isOpen = true ∨
      AlertPhase.afterChannels sent = .returned false := by
    intro sent
    cases sent with
    | true => exact .inl rfl
    | false => exact .inr rfl
  unfold AlertPhase.afterChannel at moved
  split at moved
  · cases moved
    refine ⟨rfl, ?_⟩
    unfold AlertPhase.afterSlack
    split
    · exact .inl rfl
    · exact closes reported
  · cases moved
    exact ⟨rfl, closes _⟩
  · cases moved

theorem alertChange {rule : AlertRule} {state next : AlertState} {action : AlertAction}
    (stepped : (alertCalls rule).step state action = some next) :
    AlertChange rule state action next := by
  simp only [alertCalls, stepAlerts] at stepped
  split at stepped
  · exact .raised (Option.some.inj stepped).symm
  · rename_i duration
    exact .elapsed duration (Option.some.inj stepped).symm
  · rename_i index
    obtain ⟨call, found, stepped⟩ := Option.bind_eq_some_iff.mp stepped
    simp only [stepCall] at stepped
    split at stepped
    · rename_i checking
      split at stepped
      · exact .ended index call (.returned false) state.alertEvents found rfl (by decide)
          (Option.some.inj stepped).symm
      · rename_i absent
        rw [Bool.not_eq_true] at absent
        exact .read index call found absent checking (Option.some.inj stepped).symm
    · cases stepped
  · rename_i index answer
    obtain ⟨call, found, stepped⟩ := Option.bind_eq_some_iff.mp stepped
    obtain ⟨phase, moved, same⟩ := Option.map_eq_some_iff.mp stepped
    obtain ⟨opened, closes⟩ := afterChannel_cases moved
    exact .delivered index call answer phase rfl found opened closes same.symm
  · rename_i index answered
    obtain ⟨call, found, stepped⟩ := Option.bind_eq_some_iff.mp stepped
    simp only [stepCall] at stepped
    split at stepped
    · refine .recorded index call _ found ?_ ?_ (Option.some.inj stepped).symm
      · cases answered <;> rfl
      · cases answered <;> decide
    · cases stepped
  · rename_i index
    obtain ⟨call, found, stepped⟩ := Option.bind_eq_some_iff.mp stepped
    simp only [stepCall] at stepped
    split at stepped
    · exact .ended index call (.returned true) _ found rfl (by decide)
        (Option.some.inj stepped).symm
    · cases stepped
  · rename_i index
    obtain ⟨call, found, stepped⟩ := Option.bind_eq_some_iff.mp stepped
    simp only [stepCall] at stepped
    split at stepped
    · cases stepped
    · exact .ended index call .stopped state.alertEvents found rfl (by decide)
        (Option.some.inj stepped).symm

/-! ### The key covers what is recorded -/

/-- What holds of a call: what was settled at its read is a cooldown ago, and until it
sets the key it is not among the recorded ones. -/
structure CallFits (rule : AlertRule) (now : Nat) (recorded : List Nat) (index : Nat)
    (call : AlertCall) : Prop where
  settledPast : ∀ notification ∈ call.settled, notification.time + rule.cooldown ≤ now
  unrecorded : call.phase = .checking ∨ call.phase.isOpen = true → index ∉ recorded

/-- What holds in every state, whatever the calls do. -/
structure CooldownCovers (rule : AlertRule) (state : AlertState) : Prop where
  timely : ∀ notification ∈ state.notifications, notification.time ≤ state.now
  covered : ∀ notification ∈ state.settled, ∃ expiry, state.expiry = some expiry ∧
    notification.time + rule.cooldown ≤ expiry
  calls : ∀ index call, state.calls[index]? = some call →
    CallFits rule state.now state.recorded index call
  recordedCalls : ∀ index ∈ state.recorded, index < state.calls.length

theorem cooldownCovers_idle (rule : AlertRule) : CooldownCovers rule .idle := by
  constructor <;> simp [AlertState.idle, AlertState.settled]

section

variable {rule : AlertRule} {state next : AlertState} {action : AlertAction} {index : Nat}
  {call : AlertCall} {phase : AlertPhase}

theorem mem_settled {notification : Notification} :
    notification ∈ state.settled ↔
      notification ∈ state.notifications ∧ notification.call ∈ state.recorded := by
  simp [AlertState.settled]

/-- A call that moves to a phase in which it fits leaves the others as they fit. -/
theorem callFits_set {now : Nat} {recorded : List Nat} {calls : List AlertCall} {moved : AlertCall}
    (others : ∀ other call, other ≠ index → calls[other]? = some call →
      CallFits rule now recorded other call)
    (fits : CallFits rule now recorded index moved) :
    ∀ other call, (calls.set index moved)[other]? = some call →
      CallFits rule now recorded other call := by
  intro other call found
  by_cases same : index = other
  · subst same
    rw [List.getElem?_set_self'] at found
    cases before : calls[index]? with
    | none => simp [before] at found
    | some old =>
        simp only [before, Option.map_eq_map, Option.map_some, Function.const_apply,
          Option.some.injEq] at found
        exact found ▸ fits
  · rw [List.getElem?_set_ne same] at found
    exact others other call (Ne.symm same) found

/-- What was recorded when the key is absent is a cooldown ago. -/
theorem CooldownCovers.past_of_absent (covers : CooldownCovers rule state)
    (absent : state.onCooldown = false) :
    ∀ notification ∈ state.settled, notification.time + rule.cooldown ≤ state.now := by
  intro notification member
  obtain ⟨expiry, isSet, within⟩ := covers.covered notification member
  rw [AlertState.onCooldown, isSet, Option.any_some, decide_eq_false_iff_not] at absent
  omega

theorem cooldownCovers_step (covers : CooldownCovers rule state)
    (stepped : (alertCalls rule).step state action = some next) : CooldownCovers rule next := by
  cases alertChange stepped with
  | raised same =>
      subst same
      refine ⟨covers.timely, covers.covered, fun index call found => ?_, fun index member => ?_⟩
      · rcases Nat.lt_or_ge index state.calls.length with old | beyond
        · rw [List.getElem?_append_left old] at found
          exact covers.calls index call found
        · have unrecorded : index ∉ state.recorded := fun member =>
            absurd (covers.recordedCalls index member) (by omega)
          rw [List.getElem?_append_right beyond, List.getElem?_singleton] at found
          split at found
          · cases found
            exact ⟨by simp, fun _ => unrecorded⟩
          · cases found
      · have old := covers.recordedCalls index member
        simp only [List.length_append, List.length_singleton]
        omega
  | read index call found absent checking same =>
      subst same
      have before := covers.calls index call found
      refine ⟨covers.timely, covers.covered, ?_, ?_⟩
      · refine callFits_set (fun other call _ => covers.calls other call)
          ⟨covers.past_of_absent absent, fun _ => before.unrecorded (.inl checking)⟩
      · simpa [AlertState.setPhase] using covers.recordedCalls
  | delivered index call answer phase acted found opened recorded same =>
      subst same
      have before := covers.calls index call found
      have unrecorded := before.unrecorded (.inr opened)
      refine ⟨?_, ?_, ?_, ?_⟩
      · intro notification member
        rcases List.mem_append.mp member with old | new
        · exact covers.timely notification old
        · split at new
          · rw [List.mem_singleton.mp new]
            exact Nat.le_refl _
          · cases new
      · intro notification member
        obtain ⟨stored, isRecorded⟩ := mem_settled.mp member
        rcases List.mem_append.mp stored with old | new
        · exact covers.covered notification (mem_settled.mpr ⟨old, isRecorded⟩)
        · split at new
          · rw [List.mem_singleton.mp new] at isRecorded
            exact absurd isRecorded unrecorded
          · cases new
      · exact callFits_set (fun other call _ => covers.calls other call)
          ⟨before.settledPast, fun _ => unrecorded⟩
      · simpa [AlertState.setPhase] using covers.recordedCalls
  | recorded index call phase found closed checked same =>
      subst same
      have before := covers.calls index call found
      refine ⟨covers.timely, ?_, ?_, ?_⟩
      · intro notification member
        have sent := covers.timely notification (mem_settled.mp member).1
        exact ⟨_, rfl, Nat.add_le_add_right sent _⟩
      · refine callFits_set (fun other call different old => ?_) ⟨before.settledPast, ?_⟩
        · have fits := covers.calls other call old
          refine ⟨fits.settledPast, fun pending member => ?_⟩
          rcases List.mem_append.mp member with earlier | new
          · exact fits.unrecorded pending earlier
          · exact different (List.mem_singleton.mp new)
        · rintro (checking | opened)
          · exact absurd checking checked
          · rw [closed] at opened
            cases opened
      · intro other member
        simp only [AlertState.setPhase, List.length_set]
        rcases List.mem_append.mp member with earlier | new
        · exact covers.recordedCalls other earlier
        · rw [List.mem_singleton.mp new]
          exact (List.getElem?_eq_some_iff.mp found).1
  | ended index call phase events found closed checked same =>
      subst same
      have before := covers.calls index call found
      refine ⟨covers.timely, covers.covered, ?_, ?_⟩
      · refine callFits_set (fun other call _ => covers.calls other call)
          ⟨before.settledPast, ?_⟩
        rintro (checking | opened)
        · exact absurd checking checked
        · rw [closed] at opened
          cases opened
      · simpa [AlertState.setPhase] using covers.recordedCalls
  | elapsed duration same =>
      subst same
      refine ⟨fun notification member => ?_, covers.covered, fun index call found => ?_,
        covers.recordedCalls⟩
      · exact Nat.le_add_right_of_le (covers.timely notification member)
      · have fits := covers.calls index call found
        exact ⟨fun notification member =>
          Nat.le_add_right_of_le (fits.settledPast notification member), fits.unrecorded⟩

theorem cooldownCovers_run {actions : List AlertAction}
    (reached : (alertCalls rule).run .idle actions = some state) : CooldownCovers rule state :=
  (alertCalls rule).run_invariant_always
    (fun _ _ _ covers stepped => cooldownCovers_step covers stepped)
    (cooldownCovers_idle rule) reached

/-- A notification is never taken back. -/
theorem notifications_step (stepped : (alertCalls rule).step state action = some next) :
    state.notifications ⊆ next.notifications := by
  cases alertChange stepped with
  | raised same | elapsed _ same => exact same ▸ List.Subset.refl _
  | read _ _ _ _ _ same => exact same ▸ List.Subset.refl _
  | recorded _ _ _ _ _ _ same | ended _ _ _ _ _ _ _ same => exact same ▸ List.Subset.refl _
  | delivered _ _ _ _ _ _ _ _ same => exact same ▸ List.subset_append_left _ _

theorem notifications_run {actions : List AlertAction}
    (reached : (alertCalls rule).run state actions = some next) :
    state.notifications ⊆ next.notifications := by
  have kept : ∀ before action after, state.notifications ⊆ before.notifications →
      (alertCalls rule).step before action = some after →
        state.notifications ⊆ after.notifications := fun _ _ _ subset stepped =>
    List.Subset.trans subset (notifications_step stepped)
  exact (alertCalls rule).run_invariant_always kept (List.Subset.refl _) reached

end

/-! ### A cooldown apart -/

/-- Within a cooldown at most one call delivers. -/
def Spaced (rule : AlertRule) (state : AlertState) : Prop :=
  ∀ first ∈ state.notifications, ∀ second ∈ state.notifications, first.call ≠ second.call →
    first.time + rule.cooldown ≤ second.time ∨ second.time + rule.cooldown ≤ first.time

instance (rule : AlertRule) (state : AlertState) : Decidable (Spaced rule state) :=
  inferInstanceAs (Decidable (∀ _ ∈ _, ∀ _ ∈ _, _ → _))

/-- When a call delivers, the cooldown of every recent notification of another call was
already set at its read of the key. -/
def DeliversSettled (rule : AlertRule) (state : AlertState) : AlertAction → Prop
  | .deliver index answer => answer.delivered = true → ∀ call ∈ state.calls[index]?,
      ∀ notification ∈ state.notifications, notification.call ≠ index →
        state.now < notification.time + rule.cooldown → notification ∈ call.settled
  | _ => True

instance (rule : AlertRule) (state : AlertState) (action : AlertAction) :
    Decidable (DeliversSettled rule state action) := by
  cases action <;> unfold DeliversSettled <;> infer_instance

section

variable {rule : AlertRule} {state next : AlertState} {action : AlertAction}

/-- Such a delivery is a cooldown after those of the other calls. -/
theorem spaced_step (covers : CooldownCovers rule state) (spaced : Spaced rule state)
    (settled : DeliversSettled rule state action)
    (stepped : (alertCalls rule).step state action = some next) : Spaced rule next := by
  cases alertChange stepped with
  | raised same | elapsed _ same => exact same ▸ spaced
  | read _ _ _ _ _ same => exact same ▸ spaced
  | recorded _ _ _ _ _ _ same | ended _ _ _ _ _ _ _ same => exact same ▸ spaced
  | delivered index call answer phase acted found opened recorded same =>
      subst same acted
      have late : answer.delivered = true → ∀ notification ∈ state.notifications,
          notification.call ≠ index → notification.time + rule.cooldown ≤ state.now := by
        intro isDelivered notification member other
        by_contra recent
        have inSettled := settled isDelivered call found notification member other (by omega)
        exact recent ((covers.calls index call found).settledPast notification inSettled)
      -- Two old notifications are apart as before; the new one is compared with an old one.
      intro first firstMember second secondMember different
      cases isDelivered : answer.delivered with
      | false =>
          simp only [isDelivered, Bool.false_eq_true, if_false, List.append_nil] at *
          exact spaced first firstMember second secondMember different
      | true =>
          simp only [isDelivered, if_true, List.mem_append, List.mem_singleton] at *
          rcases firstMember with firstOld | rfl <;> rcases secondMember with secondOld | rfl
          · exact spaced first firstOld second secondOld different
          · exact .inl (late trivial first firstOld different)
          · exact .inr (late trivial second secondOld (Ne.symm different))
          · exact absurd rfl different

theorem notifications_deliver {index : Nat} {answer : ChannelAnswer}
    (stepped : (alertCalls rule).step state (.deliver index answer) = some next) :
    next.notifications =
      state.notifications ++ if answer.delivered then [⟨index, state.now⟩] else [] := by
  simp only [alertCalls, stepAlerts, stepCall, Option.bind_eq_some_iff,
    Option.map_eq_some_iff] at stepped
  obtain ⟨call, -, phase, -, rfl⟩ := stepped
  rfl

/-- A delivery that is not settled is too early. -/
theorem not_spaced_of_unsettled (covers : CooldownCovers rule state)
    (unsettled : ¬DeliversSettled rule state action)
    (stepped : (alertCalls rule).step state action = some next) : ¬Spaced rule next := by
  cases action with
  | deliver index answer =>
      simp only [DeliversSettled, not_forall] at unsettled
      obtain ⟨isDelivered, call, found, notification, member, other, recent, -⟩ := unsettled
      have grown := notifications_deliver stepped
      rw [if_pos isDelivered] at grown
      intro spaced
      rw [Spaced, grown] at spaced
      have old : notification ∈ state.notifications ++ [⟨index, state.now⟩] :=
        List.mem_append_left _ member
      have new : ⟨index, state.now⟩ ∈
          state.notifications ++ [(⟨index, state.now⟩ : Notification)] :=
        List.mem_append_right _ (List.mem_singleton_self _)
      have sent := covers.timely notification member
      have positive := rule.cooldown_pos
      rcases spaced notification old _ new other with before | after
      · exact absurd before (Nat.not_le.mpr recent)
      · have late : state.now + rule.cooldown ≤ notification.time := after
        omega
  | _ => exact absurd trivial unsettled

end

/-- Notifications of different calls are a cooldown apart exactly when every delivery
finds those of the other calls settled at its read. -/
theorem spaced_iff_deliversSettled (rule : AlertRule) {actions : List AlertAction}
    {final : AlertState} (reached : (alertCalls rule).run .idle actions = some final) :
    Spaced rule final ↔ (alertCalls rule).Along (DeliversSettled rule) .idle actions := by
  constructor
  · intro spaced
    by_contra broken
    obtain ⟨before, action, after, middle, next, -, ran, unsettled, stepped, onward⟩ :=
      (alertCalls rule).exists_breach_of_not_along reached broken
    refine not_spaced_of_unsettled (cooldownCovers_run ran) unsettled stepped ?_
    exact fun first firstMember second secondMember =>
      spaced first (notifications_run onward firstMember) second
        (notifications_run onward secondMember)
  · intro along
    have initial : CooldownCovers rule .idle ∧ Spaced rule .idle :=
      ⟨cooldownCovers_idle rule, by simp [Spaced, AlertState.idle]⟩
    have kept : ∀ state action next, CooldownCovers rule state ∧ Spaced rule state →
        DeliversSettled rule state action → (alertCalls rule).step state action = some next →
          CooldownCovers rule next ∧ Spaced rule next := fun _ _ _ invariant settled stepped =>
      ⟨cooldownCovers_step invariant.1 stepped,
        spaced_step invariant.1 invariant.2 settled stepped⟩
    exact ((alertCalls rule).run_invariant _ kept initial along reached).2

/-! ### Two calls on one rule -/

def emailRule : AlertRule where
  id := 1
  notifySlackWebhook := none
  notifyEmail := some "ops@example.com"
  cooldownMinutes := 1

/-- Two tasks read the key before either sets it. -/
def overlappingCalls : List AlertAction :=
  [.raise, .raise, .get 0, .get 1, .deliver 0 .sent, .deliver 1 .sent, .set 0 true, .set 1 true]

/-- The second call comes when the key of the first has expired. -/
def callsInTurn : List AlertAction :=
  [.raise, .get 0, .deliver 0 .sent, .set 0 true, .insert 0, .elapse 60000, .raise, .get 1,
    .deliver 1 .sent, .set 1 true]

theorem not_spaced_overlappingCalls :
    ∃ final, (alertCalls emailRule).run .idle overlappingCalls = some final ∧
      ¬Spaced emailRule final :=
  ⟨⟨0, some 60000, [⟨.inserting, []⟩, ⟨.inserting, []⟩], [⟨0, 0⟩, ⟨1, 0⟩], [0, 1], []⟩,
    by decide, by decide⟩

/-- The calls in turn, when the second has set the key. -/
def afterCallsInTurn : AlertState where
  now := 60000
  expiry := some 120000
  calls := [⟨.returned true, []⟩, ⟨.inserting, [⟨0, 0⟩]⟩]
  notifications := [⟨0, 0⟩, ⟨1, 60000⟩]
  recorded := [0, 1]
  alertEvents := [0]

theorem spaced_callsInTurn :
    (alertCalls emailRule).run .idle callsInTurn = some afterCallsInTurn ∧
      Spaced emailRule afterCallsInTurn := by
  have reached : (alertCalls emailRule).run .idle callsInTurn = some afterCallsInTurn := by
    decide
  exact ⟨reached, (spaced_iff_deliversSettled emailRule reached).mpr (by decide)⟩

end LlmObs.Backend
