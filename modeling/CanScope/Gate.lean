import CanScope.Log.Notice

/-!
# The gate

A flag decides whether the overlay is subscribed. `Gate.poll` reads the flag if more than the poll
interval has passed since the last read, and then subscribes, gives the subscription up, or leaves
things as they are.

**Surroundings.** What reading the flag or subscribing would give is passed to a poll as data
(`Answers`); `Poll` says which of the answers it looked at. A poll that is not due looks at none.

**Failures.** A flag that cannot be read keeps its last value. A subscription that is refused turns
the flag's value off until a read succeeds, and the gate stays idle.
-/
namespace CanScope

structure Gate.Settings where
  /-- The flag that switches the overlay on. -/
  flagKey : String
  channel : String
  /-- Whether only the latest unread event is kept. -/
  conflate : Bool
  pollInterval : Span
  deriving DecidableEq, Repr

def Gate.Settings.default : Gate.Settings := ⟨"ShowDebugInfo", "can", true, .ofMillis 500⟩

structure Gate (σ : Type) where
  settings : Gate.Settings
  enabled : Bool
  lastChecked : Option Instant
  subscription : Option σ
  deriving DecidableEq, Repr

/-- Whether a gate holds a subscription. -/
inductive Gate.State where
  | idle | active
  deriving DecidableEq, Repr

inductive Transition where
  | unchanged | activated | deactivated
  deriving DecidableEq, Repr

/-- What the surroundings would answer during one poll. -/
structure Answers (σ : Type) where
  flag : Flag.Reading
  subscription : Except BusError σ

structure Poll (σ : Type) where
  gate : Gate σ
  transition : Transition
  read : Bool
  asked : Bool
  released : Option σ
  notices : List Notice
  deriving DecidableEq, Repr

namespace Gate

variable {σ : Type}

/-- Idle; the first poll reads the flag. -/
def new (settings : Settings) : Gate σ := ⟨settings, false, none, none⟩

def isActive (g : Gate σ) : Bool := g.subscription.isSome

def state (g : Gate σ) : State := if g.isActive then .active else .idle

def checkDue (g : Gate σ) (now : Instant) : Bool :=
  match g.lastChecked with
  | none => true
  | some last => decide (g.settings.pollInterval < now.since last)

/-- Takes note of what reading the flag gave at `now`; a flag that is not set is off. -/
def observe (g : Gate σ) (now : Instant) (flag : Flag.Reading) : Gate σ :=
  { g with
    lastChecked := some now
    enabled := match flag with
      | .ok value => value.getD false
      | .error _ => g.enabled }

def observeNotices (g : Gate σ) (flag : Flag.Reading) : List Notice :=
  match flag with
  | .ok _ => []
  | .error e => [.flagReadFailed g.settings.flagKey g.enabled e]

/-- Subscribes, gives up the subscription or keeps things, as the value of the flag asks. -/
def settle (g : Gate σ) (subscription : Except BusError σ) : Poll σ :=
  match g.enabled, g.subscription with
  | true, none =>
    match subscription with
    | .ok s =>
      ⟨{ g with subscription := some s }, .activated, true, true, none,
        [.activated g.settings.flagKey g.settings.channel]⟩
    | .error e =>
      ⟨{ g with enabled := false }, .unchanged, true, true, none,
        [.subscribeFailed g.settings.channel e]⟩
  | false, some s =>
    ⟨{ g with subscription := none }, .deactivated, true, false, some s,
      [.deactivated g.settings.flagKey]⟩
  | enabled, _ => ⟨g, .unchanged, true, false, none, [.flagUnchanged enabled]⟩

def poll (g : Gate σ) (now : Instant) (answers : Answers σ) : Poll σ :=
  if g.checkDue now then
    let p := (g.observe now answers.flag).settle answers.subscription
    { p with notices := g.observeNotices answers.flag ++ p.notices }
  else ⟨g, .unchanged, false, false, none, []⟩

theorem poll_of_not_due (g : Gate σ) (now : Instant) (answers : Answers σ)
    (h : g.checkDue now = false) : g.poll now answers = ⟨g, .unchanged, false, false, none, []⟩ := by
  simp [poll, h]

end Gate

end CanScope
