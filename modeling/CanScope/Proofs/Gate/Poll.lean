import CanScope.Gate

/-!
# One poll

`Gate.poll` is handed the answers of its surroundings beforehand. Two other views of it:

* `Outcome` says all that a poll can do, a case for each way it can end (`poll_outcome`). Every fact
  about polls below is read off these five cases.
* `dialogue` is the same poll with the surroundings outside: it names one request after the other,
  and goes on with the answer to that request alone. `poll_dialogue` shows that both end in the same
  gate with the same transition, and that `Poll.read` and `Poll.asked` tell which requests were made.
-/
namespace CanScope

/-- What a poll may ask of its surroundings. -/
inductive Request where
  | flag (key : String)
  | subscription (channel : String) (conflate : Bool)
  deriving DecidableEq, Repr

def Request.isSubscription : Request → Bool
  | .flag _ => false
  | .subscription _ _ => true

def Poll.requests {σ : Type} (p : Poll σ) (settings : Gate.Settings) : List Request :=
  (if p.read then [.flag settings.flagKey] else []) ++
    (if p.asked then [.subscription settings.channel settings.conflate] else [])

/-- A computation that asks for one answer at a time. -/
inductive Dialogue (σ ρ : Type) where
  | done (result : ρ)
  | flag (key : String) (next : Flag.Reading → Dialogue σ ρ)
  | subscription (channel : String) (conflate : Bool) (next : Except BusError σ → Dialogue σ ρ)

namespace Dialogue

variable {σ ρ : Type}

def requests (answers : Answers σ) : Dialogue σ ρ → List Request
  | .done _ => []
  | .flag key next => .flag key :: (next answers.flag).requests answers
  | .subscription channel conflate next =>
    .subscription channel conflate :: (next answers.subscription).requests answers

def result (answers : Answers σ) : Dialogue σ ρ → ρ
  | .done r => r
  | .flag _ next => (next answers.flag).result answers
  | .subscription _ _ next => (next answers.subscription).result answers

end Dialogue

namespace Gate

variable {σ : Type}

/-- The second part of a poll: the flag is known, the subscription follows it. -/
def settleDialogue (g : Gate σ) : Dialogue σ (Gate σ × Transition) :=
  if g.enabled && g.subscription.isNone then
    .subscription g.settings.channel g.settings.conflate fun
      | .ok s => .done ({ g with subscription := some s }, .activated)
      | .error _ => .done ({ g with enabled := false }, .unchanged)
  else if !g.enabled && g.subscription.isSome then
    .done ({ g with subscription := none }, .deactivated)
  else .done (g, .unchanged)

/-- A poll at `now`, request by request. -/
def dialogue (g : Gate σ) (now : Instant) : Dialogue σ (Gate σ × Transition) :=
  if g.checkDue now then .flag g.settings.flagKey fun flag => (g.observe now flag).settleDialogue
  else .done (g, .unchanged)

/-! ## The ways a poll can end -/

/-- All that the poll `p` of `g` at `now` can have done. -/
inductive Outcome (g : Gate σ) (now : Instant) (a : Answers σ) (p : Poll σ) : Prop where
  | early (due : g.checkDue now = false) (gate : p.gate = g)
      (transition : p.transition = .unchanged) (read : p.read = false) (asked : p.asked = false)
  | activated (s : σ) (due : g.checkDue now = true) (on : (g.observe now a.flag).enabled = true)
      (idle : g.subscription = none) (granted : a.subscription = .ok s)
      (gate : p.gate = { g.observe now a.flag with subscription := some s })
      (transition : p.transition = .activated) (read : p.read = true) (asked : p.asked = true)
  | refused (e : BusError) (due : g.checkDue now = true)
      (on : (g.observe now a.flag).enabled = true) (idle : g.subscription = none)
      (denied : a.subscription = .error e)
      (gate : p.gate = { g.observe now a.flag with enabled := false })
      (transition : p.transition = .unchanged) (read : p.read = true) (asked : p.asked = true)
  | deactivated (s : σ) (due : g.checkDue now = true)
      (off : (g.observe now a.flag).enabled = false) (held : g.subscription = some s)
      (gate : p.gate = { g.observe now a.flag with subscription := none })
      (transition : p.transition = .deactivated) (read : p.read = true) (asked : p.asked = false)
  | kept (due : g.checkDue now = true)
      (agree : (g.observe now a.flag).enabled = g.isActive) (gate : p.gate = g.observe now a.flag)
      (transition : p.transition = .unchanged) (read : p.read = true) (asked : p.asked = false)

theorem poll_outcome (g : Gate σ) (now : Instant) (a : Answers σ) :
    Outcome g now a (g.poll now a) := by
  cases due : g.checkDue now with
  | false =>
    rw [poll_of_not_due g now a due]
    exact .early due rfl rfl rfl rfl
  | true =>
    have hs : (g.observe now a.flag).subscription = g.subscription := rfl
    unfold poll
    rw [if_pos due, settle.eq_def, hs]
    cases on : (g.observe now a.flag).enabled with
    | true =>
      cases held : g.subscription with
      | none =>
        cases answer : a.subscription with
        | ok s => exact .activated s due on held answer (by simp [on]) rfl rfl rfl
        | error e => exact .refused e due on held answer (by simp [hs, held]) rfl rfl rfl
      | some s => exact .kept due (by rw [on, isActive, held]; rfl) rfl rfl rfl rfl
    | false =>
      cases held : g.subscription with
      | none => exact .kept due (by rw [on, isActive, held]; rfl) rfl rfl rfl rfl
      | some s => exact .deactivated s due on held (by simp [on]) rfl rfl rfl

/-- A poll gives up the subscription it found, and does so only as it deactivates. -/
theorem poll_released (g : Gate σ) (now : Instant) (a : Answers σ) :
    (g.poll now a).released =
      if (g.poll now a).transition = .deactivated then g.subscription else none := by
  have hs : (g.observe now a.flag).subscription = g.subscription := rfl
  unfold poll
  split
  · rw [settle.eq_def, hs]
    cases (g.observe now a.flag).enabled <;> cases g.subscription <;> cases a.subscription <;> rfl
  · rfl

/-- A subscription held after a poll was held before it, or was granted. -/
theorem held_or_activated {g : Gate σ} {now : Instant} {a : Answers σ} {s : σ}
    (held : (g.poll now a).gate.subscription = some s) :
    g.subscription = some s ∨ (g.poll now a).transition = .activated := by
  cases g.poll_outcome now a with
  | early _ gate => rw [gate] at held; exact .inl held
  | activated s' _ _ _ _ _ transition => exact .inr transition
  | refused e _ _ _ _ gate => rw [gate] at held; exact .inl held
  | deactivated s' _ _ _ gate => rw [gate] at held; cases held
  | kept _ _ gate => rw [gate] at held; exact .inl held

theorem poll_settings (g : Gate σ) (now : Instant) (a : Answers σ) :
    (g.poll now a).gate.settings = g.settings := by
  cases g.poll_outcome now a with
  | early _ gate => rw [gate]
  | activated s _ _ _ _ gate => rw [gate]; rfl
  | refused e _ _ _ _ gate => rw [gate]; rfl
  | deactivated s _ _ _ gate => rw [gate]; rfl
  | kept _ _ gate => rw [gate]; rfl

/-! ## The requests of a poll -/

/-- A poll does what its dialogue does, and says truly what it asked for. -/
theorem poll_dialogue (g : Gate σ) (now : Instant) (a : Answers σ) :
    (g.dialogue now).result a = ((g.poll now a).gate, (g.poll now a).transition) ∧
      (g.dialogue now).requests a = (g.poll now a).requests g.settings := by
  have hs : (g.observe now a.flag).subscription = g.subscription := rfl
  have hset : (g.observe now a.flag).settings = g.settings := rfl
  unfold dialogue
  cases g.poll_outcome now a with
  | early due gate transition read asked =>
    simp [due, gate, transition, read, asked, Poll.requests, Dialogue.result, Dialogue.requests]
  | activated s due on idle granted gate transition read asked =>
    simp [due, gate, transition, read, asked, Poll.requests, settleDialogue, on, hs, hset, idle,
      granted, Dialogue.result, Dialogue.requests]
  | refused e due on idle denied gate transition read asked =>
    simp [due, gate, transition, read, asked, Poll.requests, settleDialogue, on, hs, hset, idle,
      denied, Dialogue.result, Dialogue.requests]
  | deactivated s due off held gate transition read asked =>
    simp [due, gate, transition, read, asked, Poll.requests, settleDialogue, off, hs, held,
      Dialogue.result, Dialogue.requests]
  | kept due agree gate transition read asked =>
    rw [isActive] at agree
    cases held : g.subscription <;> rw [held] at agree <;>
      simp [due, gate, transition, read, asked, Poll.requests, settleDialogue, agree, hs, held,
        Dialogue.result, Dialogue.requests]

end Gate

end CanScope
