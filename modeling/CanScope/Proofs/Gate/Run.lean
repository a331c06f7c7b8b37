import CanScope.Proofs.Gate.Poll
import CanScope.Proofs.Trace

/-!
# Runs of polls

A gate is polled again and again, at any moments and with any answers.

**Invariant.** Between polls the value of the flag and the subscription agree: `enabled` is on
exactly while a subscription is held. A poll keeps this whatever it is answered (`poll_agrees`),
because a refused subscription turns the value off again.

**Results.**
* `turns_safe`: along every run from a new gate each poll is `Safe`, and activations and
  deactivations alternate, an activation first.
-/
namespace CanScope

namespace Gate

variable {σ : Type}

/-- The moment of a poll and what its surroundings would answer. -/
structure Call (σ : Type) where
  now : Instant
  answers : Answers σ

abbrev Turn (σ : Type) := Step (Gate σ) (Call σ)

namespace Turn

def poll (t : Turn σ) : Poll σ := t.found.poll t.input.now t.input.answers

def left (t : Turn σ) : Gate σ := t.poll.gate

def requests (t : Turn σ) : List Request :=
  (t.found.dialogue t.input.now).requests t.input.answers

def subscribes (t : Turn σ) : Nat := t.requests.countP Request.isSubscription

end Turn

/-- The polls of a gate that is called as `calls` say. -/
def turns (g : Gate σ) (calls : List (Call σ)) : List (Turn σ) :=
  trace (fun g c => (g.poll c.now c.answers).gate) g calls

/-- What a single poll of a run may be relied on for. -/
structure Turn.Safe (t : Turn σ) : Prop where
  enabled_eq : t.left.enabled = t.left.isActive
  state_eq : t.left.isActive = decide (t.left.state = .active)
  activated : t.poll.transition = .activated ↔
    t.found.isActive = false ∧ t.left.isActive = true
  deactivated : t.poll.transition = .deactivated ↔
    t.found.isActive = true ∧ t.left.isActive = false
  /-- A flag that was read decides. -/
  settled : ∀ value, t.found.checkDue t.input.now = true → t.input.answers.flag = .ok value →
    (t.left.isActive = true ↔ value = some true ∧
      (t.found.isActive = true ∨ ∃ s, t.input.answers.subscription = .ok s))
  /-- A flag that could not be read counts as the value the gate has. -/
  failed : ∀ e, t.input.answers.flag = .error e →
    t.left = (t.found.poll t.input.now
      { t.input.answers with flag := .ok (some t.found.enabled) }).gate
  once : t.subscribes ≤ 1
  never_held : t.found.isActive = true → t.subscribes = 0

/-- The transitions of a list are `a` and `b` in turn, `a` first. -/
def Alternates (a b : Transition) : List Transition → Prop
  | [] => True
  | t :: ts => t = a ∧ Alternates b a ts

/-- The changes of state along a run. -/
def switches (ts : List (Turn σ)) : List Transition :=
  (ts.map (·.poll.transition)).filter (· ≠ .unchanged)

/-! ## One poll -/

@[simp] theorem isActive_observe (g : Gate σ) (now : Instant) (flag : Flag.Reading) :
    (g.observe now flag).isActive = g.isActive := rfl

theorem isActive_of_none {g : Gate σ} (h : g.subscription = none) : g.isActive = false := by
  rw [isActive, h]; rfl

theorem isActive_of_some {g : Gate σ} {s : σ} (h : g.subscription = some s) :
    g.isActive = true := by
  rw [isActive, h]; rfl

/-- The value of the flag and the subscription still agree after a poll. -/
theorem poll_agrees (g : Gate σ) (now : Instant) (a : Answers σ) (h : g.enabled = g.isActive) :
    (g.poll now a).gate.enabled = (g.poll now a).gate.isActive := by
  cases g.poll_outcome now a with
  | early _ gate => rw [gate, h]
  | activated s _ on _ _ gate => rw [gate]; exact on
  | refused e _ _ idle _ gate => rw [gate]; exact (isActive_of_none idle).symm
  | deactivated s _ off _ gate => rw [gate]; exact off
  | kept _ agree gate => rw [gate, agree, isActive_observe]

/-- A transition names the change of state it goes with. -/
theorem transition_eq (g : Gate σ) (now : Instant) (a : Answers σ) :
    (g.poll now a).transition =
      match g.isActive, (g.poll now a).gate.isActive with
      | false, true => .activated
      | true, false => .deactivated
      | _, _ => .unchanged := by
  cases g.poll_outcome now a with
  | early _ gate transition => rw [gate, transition]; cases g.isActive <;> rfl
  | activated s _ _ idle _ gate transition => rw [gate, transition, isActive_of_none idle]; rfl
  | refused e _ _ idle _ gate transition =>
    have still : (g.poll now a).gate.isActive = false := by rw [gate]; exact isActive_of_none idle
    rw [still, transition, isActive_of_none idle]
  | deactivated s _ _ held gate transition => rw [gate, transition, isActive_of_some held]; rfl
  | kept _ _ gate transition =>
    rw [gate, transition, isActive_observe]; cases g.isActive <;> rfl

theorem poll_settled (g : Gate σ) (now : Instant) (a : Answers σ) {value : Option Bool}
    (agrees : g.enabled = g.isActive) (due : g.checkDue now = true) (read : a.flag = .ok value) :
    (g.poll now a).gate.isActive = true ↔
      value = some true ∧ (g.isActive = true ∨ ∃ s, a.subscription = .ok s) := by
  have seen : (g.observe now a.flag).enabled = true ↔ value = some true := by
    rw [read]
    cases value with
    | none => simp [observe]
    | some b => simp [observe]
  rw [← poll_agrees g now a agrees]
  cases g.poll_outcome now a with
  | early early => rw [due] at early; cases early
  | activated s _ on _ granted gate => simp [gate, ← seen, on, granted]
  | refused e _ _ idle denied gate => simp [gate, isActive_of_none idle, denied]
  | deactivated s _ off _ gate => simp [gate, ← seen, off]
  | kept _ agree gate =>
    rw [gate, ← seen, ← agree]
    constructor
    · exact fun on => ⟨on, .inl on⟩
    · exact fun h => h.1

/-- A failed read is a read of the value that the gate has. -/
theorem poll_failed (g : Gate σ) (now : Instant) (a : Answers σ) {e : FlagError}
    (failed : a.flag = .error e) :
    (g.poll now a).gate = (g.poll now { a with flag := .ok (some g.enabled) }).gate := by
  have same : g.observe now (.error e) = g.observe now (.ok (some g.enabled)) := rfl
  unfold poll
  split
  · simp only [failed, same]
  · rfl

/-! ## Subscribing -/

theorem poll_asked_iff (g : Gate σ) (now : Instant) (a : Answers σ) :
    (g.poll now a).asked = true ↔
      g.checkDue now = true ∧ (g.observe now a.flag).enabled = true ∧ g.isActive = false := by
  cases g.poll_outcome now a with
  | early due _ _ _ asked => simp [asked, due]
  | activated s due on idle _ _ _ _ asked => simp [asked, due, on, isActive_of_none idle]
  | refused e due on idle _ _ _ _ asked => simp [asked, due, on, isActive_of_none idle]
  | deactivated s due off held _ _ _ asked => simp [asked, off]
  | kept due agree _ _ _ asked => cases on : g.isActive <;> simp [asked, agree, on]

/-- The poll says truly how often it asked for a subscription. -/
theorem Turn.subscribes_eq (t : Turn σ) : t.subscribes = if t.poll.asked then 1 else 0 := by
  have made := (poll_dialogue t.found t.input.now t.input.answers).2
  rw [subscribes, requests, made, Poll.requests, ← Turn.poll]
  cases t.poll.read <;> cases t.poll.asked <;> rfl

/-! ## Whole runs -/

theorem turns_agree {settings : Settings} {calls : List (Call σ)} {before after : List (Turn σ)}
    {t : Turn σ} (cut : (new settings).turns calls = before ++ t :: after) :
    t.found.enabled = t.found.isActive :=
  trace_invariant (fun _ g => g.enabled = g.isActive)
    (fun _ t agrees => poll_agrees t.found t.input.now t.input.answers agrees) rfl cut

theorem Turn.safe_of_agrees (t : Turn σ) (agrees : t.found.enabled = t.found.isActive) : t.Safe where
  enabled_eq := poll_agrees _ _ _ agrees
  state_eq := by unfold state; cases t.left.isActive <;> rfl
  activated := by
    rw [left, poll, transition_eq]
    cases t.found.isActive <;> cases (t.found.poll _ _).gate.isActive <;> simp
  deactivated := by
    rw [left, poll, transition_eq]
    cases t.found.isActive <;> cases (t.found.poll _ _).gate.isActive <;> simp
  settled _ due read := poll_settled _ _ _ agrees due read
  failed _ failed := poll_failed _ _ _ failed
  once := by rw [subscribes_eq]; split <;> omega
  never_held held := by
    rw [subscribes_eq, if_neg]
    intro asked
    have idle := ((poll_asked_iff _ _ _).mp asked).2.2
    rw [held] at idle
    cases idle

theorem switches_cons (g : Gate σ) (c : Call σ) (cs : List (Call σ)) :
    switches (g.turns (c :: cs)) =
      if (g.poll c.now c.answers).transition = .unchanged then
        switches ((g.poll c.now c.answers).gate.turns cs)
      else (g.poll c.now c.answers).transition ::
        switches ((g.poll c.now c.answers).gate.turns cs) := by
  simp only [switches, turns, trace, List.map_cons, List.filter_cons, Turn.poll, decide_not,
    Bool.not_eq_true', decide_eq_false_iff_not, ite_not]

/-- The next change of state that a run shows is the one that its state allows. -/
theorem alternates_switches (g : Gate σ) (calls : List (Call σ)) :
    if g.isActive then Alternates .deactivated .activated (switches (g.turns calls))
    else Alternates .activated .deactivated (switches (g.turns calls)) := by
  induction calls generalizing g with
  | nil => cases g.isActive <;> trivial
  | cons c cs ih =>
    have rest := ih (g.poll c.now c.answers).gate
    rw [switches_cons, transition_eq]
    cases was : g.isActive <;> cases is : (g.poll c.now c.answers).gate.isActive <;>
      rw [is] at rest
    · exact rest
    · exact ⟨rfl, rest⟩
    · exact ⟨rfl, rest⟩
    · exact rest

/-- Every poll of every run is safe, and the changes of state alternate. -/
theorem turns_safe (settings : Settings) (calls : List (Call σ)) :
    (∀ t ∈ (new settings).turns calls, t.Safe) ∧
      Alternates .activated .deactivated (switches ((new settings : Gate σ).turns calls)) := by
  constructor
  · intro t member
    obtain ⟨before, after, cut⟩ := List.append_of_mem member
    exact t.safe_of_agrees (turns_agree cut)
  · exact alternates_switches (new settings) calls

end Gate

end CanScope
