import CanScope.Session
import CanScope.Proofs.Bus.Run
import CanScope.Proofs.Overlay.Log

/-!
# Runs of a session

All that may go on around an overlay on a bus is an `Action`: its own ticks, changes of the flags it
reads, sources that break, subscriptions that are refused, and any use of the bus by others.

A tick turns to the bus too. The poll may subscribe or give a subscription up (`uses`), and what the
gate then holds is drained. `commit_bus` and `tickOn_bus` say that this is all, so what is known of
the runs of a bus holds of the bus in a session. `Committed` has the ways it can end one by one.

Of all mailboxes a tick drains only that of the subscription held (`drainable?`), and those of others it
leaves alone (`Foreign.tickOn`).
-/
namespace CanScope.Session

open Bus (Op)

inductive Action where
  | tick (now : Instant)
  /-- A tick that gets its flag from elsewhere. -/
  | tickOn (now : Instant) (flag : Flag.Reading)
  | set (key : String) (value : Bool)
  | unset (key : String)
  /-- From now on reading a flag fails, or does not. -/
  | fail (on : Bool)
  /-- From now on subscribing is refused, or is not. -/
  | refuse (on : Bool)
  | bus (op : Op)
  deriving DecidableEq, Repr

def perform (s : Session) : Action → Session
  | .tick now => (s.tick now).2
  | .tickOn now flag => (s.tickOn now flag).2
  | .set key value => { s with flags := s.flags.set key value }
  | .unset key => { s with flags := s.flags.unset key }
  | .fail on => { s with failing := on }
  | .refuse on => { s with refusing := on }
  | .bus op => { s with bus := s.bus.perform op }

def tick? (s : Session) : Action → Option (Tick Ticket)
  | .tick now => some (s.tick now).1
  | .tickOn now flag => some (s.tickOn now flag).1
  | _ => none

/-- The ticks of a run: the overlay after each, its report and its notices. -/
def ticks (s : Session) : List Action → List (Tick Ticket)
  | [] => []
  | a :: rest => (s.tick? a).toList ++ (s.perform a).ticks rest

/-- The default settings, but for a queueing subscription. -/
def queueing : Overlay.Settings :=
  { Overlay.Settings.default with gate := { Gate.Settings.default with conflate := false } }

/-- The poll that a tick starts with. -/
def pollOn (s : Session) (now : Instant) (flag : Flag.Reading) : Poll Ticket :=
  s.overlay.gate.poll now (s.answersTo flag)

/-- A tick as one of the overlay among its surroundings. -/
def turnOn (s : Session) (now : Instant) (flag : Flag.Reading) : Overlay.Turn Ticket :=
  ⟨s.overlay, now, s.answersTo flag, fun t => ((s.commit (s.pollOn now flag)).bus.drain t).1⟩

/-- How the poll `p` of a session uses the bus. -/
def uses (s : Session) (p : Poll Ticket) : List Op :=
  (if p.asked && !s.refusing then [.subscribe s.gateSettings.channel s.gateSettings.conflate]
    else []) ++ p.released.toList.map .drop

variable (s : Session) (now : Instant) (flag : Flag.Reading)

theorem tickOn_eq : (s.tickOn now flag).1 = (s.turnOn now flag).tick := rfl

theorem tickOn_overlay : (s.tickOn now flag).2.overlay = (s.tickOn now flag).1.overlay := rfl

theorem tickOn_surroundings :
    (s.tickOn now flag).2.flags = s.flags ∧ (s.tickOn now flag).2.failing = s.failing ∧
      (s.tickOn now flag).2.refusing = s.refusing := by
  simp only [tickOn, drain]
  split <;> exact ⟨rfl, rfl, rfl⟩

/-! ## Ticks and other actions -/

def Action.isTick : Action → Bool
  | .tick _ => true
  | .tickOn _ _ => true
  | _ => false

/-- When the overlay ticks, and what reading its flag gives then. -/
def turn? (s : Session) : Action → Option (Instant × Flag.Reading)
  | .tick now => some (now, s.flag s.gateSettings.flagKey)
  | .tickOn now flag => some (now, flag)
  | _ => none

theorem exists_turn {a : Action} (ticks : a.isTick = true) :
    ∃ now flag, s.turn? a = some (now, flag) := by
  cases a with
  | tick now => exact ⟨now, _, rfl⟩
  | tickOn now flag => exact ⟨now, flag, rfl⟩
  | set key value => cases ticks
  | unset key => cases ticks
  | fail on => cases ticks
  | refuse on => cases ticks
  | bus op => cases ticks

theorem tickOn_of_turn {s : Session} {a : Action} {now : Instant} {flag : Flag.Reading}
    (turn : s.turn? a = some (now, flag)) :
    s.tick? a = some (s.tickOn now flag).1 ∧ s.perform a = (s.tickOn now flag).2 := by
  cases a with
  | tick now => cases turn; exact ⟨rfl, rfl⟩
  | tickOn now flag => cases turn; exact ⟨rfl, rfl⟩
  | set key value => cases turn
  | unset key => cases turn
  | fail on => cases turn
  | refuse on => cases turn
  | bus op => cases turn

theorem tick?_of_quiet {a : Action} (quiet : a.isTick = false) : s.tick? a = none := by
  cases a <;> first | rfl | cases quiet

theorem turn_of_tick? {s : Session} {a : Action} {t : Tick Ticket} (ticked : s.tick? a = some t) :
    ∃ now flag, s.turn? a = some (now, flag) := by
  refine s.exists_turn ?_
  by_contra quiet
  rw [s.tick?_of_quiet (Bool.eq_false_iff.2 quiet)] at ticked
  cases ticked

theorem overlay_of_quiet {a : Action} (quiet : a.isTick = false) :
    (s.perform a).overlay = s.overlay := by
  cases a <;> first | rfl | cases quiet

theorem next_of_quiet {a : Action} (quiet : a.isTick = false) : (s.perform a).bus.next =
    s.bus.next + if a matches .bus (.subscribe _ _) then 1 else 0 := by
  cases a with
  | bus op => cases op <;> exact s.bus.perform_next _
  | tick now => cases quiet
  | tickOn now flag => cases quiet
  | set key value => rfl
  | unset key => rfl
  | fail on => rfl
  | refuse on => rfl

/-! ## The bus -/

theorem commit_bus (p : Poll Ticket) : (s.commit p).bus = s.bus.run (s.uses p) := by
  unfold commit uses subscription
  cases p.asked <;> cases s.refusing <;> cases p.released <;> rfl

theorem tickOn_bus : (s.tickOn now flag).2.bus =
    (s.commit (s.pollOn now flag)).bus.run
      ((s.pollOn now flag).gate.subscription.toList.map .drain) := by
  show (drain { s.commit (s.pollOn now flag) with
    overlay := { s.overlay with gate := (s.pollOn now flag).gate } }).2.bus = _
  simp only [drain]
  cases (s.pollOn now flag).gate.subscription <;> rfl

theorem subscription_ok {s : Session} {t : Ticket} (granted : s.subscription.1 = .ok t) :
    s.refusing = false ∧ t = ⟨s.bus.next⟩ := by
  unfold subscription at granted
  cases refusing : s.refusing with
  | true =>
    rw [refusing] at granted
    cases granted
  | false =>
    rw [refusing] at granted
    cases granted
    exact ⟨rfl, rfl⟩

/-- What the poll `p` of a session does to its bus, a case for each way it can end. -/
inductive Committed (s : Session) (p : Poll Ticket) : Prop where
  | opened (transition : p.transition = .activated) (found : s.overlay.gate.subscription = none)
      (held : p.gate.subscription = some ⟨s.bus.next⟩)
      (bus : (s.commit p).bus =
        (s.bus.subscribe s.gateSettings.channel s.gateSettings.conflate).2)
  | dropped (t : Ticket) (transition : p.transition = .deactivated)
      (found : s.overlay.gate.subscription = some t) (held : p.gate.subscription = none)
      (bus : (s.commit p).bus = s.bus.drop t)
  | kept (transition : p.transition = .unchanged)
      (held : p.gate.subscription = s.overlay.gate.subscription) (bus : (s.commit p).bus = s.bus)

theorem committed (s : Session) (now : Instant) (flag : Flag.Reading) :
    s.Committed (s.pollOn now flag) := by
  have released := s.overlay.gate.poll_released now (s.answersTo flag)
  have bus := s.commit_bus (s.pollOn now flag)
  rw [uses, pollOn, released] at bus
  cases s.overlay.gate.poll_outcome now (s.answersTo flag) with
  | early due gate transition _ asked =>
    rw [transition, asked] at bus
    exact .kept transition (congrArg _ gate) bus
  | activated t _ _ idle granted gate transition _ asked =>
    obtain ⟨obliging, rfl⟩ := subscription_ok granted
    rw [transition, asked, obliging] at bus
    exact .opened transition idle (congrArg _ gate) bus
  | refused e _ _ idle denied gate transition _ asked =>
    have refusing : s.refusing = true := by
      cases refusing : s.refusing with
      | true => rfl
      | false =>
        rw [answersTo, subscription, refusing] at denied
        cases denied
    rw [transition, asked, refusing] at bus
    exact .kept transition (by rw [pollOn, gate]; rfl) bus
  | deactivated t _ _ found gate transition _ asked =>
    rw [transition, asked, found] at bus
    exact .dropped t transition found (congrArg _ gate) bus
  | kept _ _ gate transition _ asked =>
    rw [transition, asked] at bus
    exact .kept transition (by rw [pollOn, gate]; rfl) bus

/-- A poll that activates the gate takes a new subscription and does nothing else to the bus. -/
theorem opened_of_activated {s : Session} {now : Instant} {flag : Flag.Reading}
    (activated : (s.pollOn now flag).transition = .activated) :
    (s.pollOn now flag).gate.subscription = some ⟨s.bus.next⟩ ∧
      (s.commit (s.pollOn now flag)).bus =
        (s.bus.subscribe s.gateSettings.channel s.gateSettings.conflate).2 := by
  cases s.committed now flag with
  | opened _ _ held bus => exact ⟨held, bus⟩
  | dropped _ transition => rw [transition] at activated; cases activated
  | kept transition => rw [transition] at activated; cases activated

/-! ## The subscription held -/

theorem tickOn_gate : (s.tickOn now flag).2.overlay.gate = (s.pollOn now flag).gate :=
  (s.turnOn now flag).left_gate

theorem tickOn_depth : (s.tickOn now flag).2.bus.depth = s.bus.depth := by
  rw [tickOn_bus, commit_bus, Bus.run_depth, Bus.run_depth]

theorem tickOn_next : (s.tickOn now flag).2.bus.next =
    s.bus.next + if (s.pollOn now flag).transition = .activated then 1 else 0 := by
  have drained : (s.tickOn now flag).2.bus.next = (s.commit (s.pollOn now flag)).bus.next := by
    rw [tickOn_bus]
    cases (s.pollOn now flag).gate.subscription with
    | none => rfl
    | some t => exact Bus.drain_next _ t
  rw [drained]
  cases s.committed now flag with
  | opened transition _ _ bus => rw [transition, bus]; rfl
  | dropped t transition _ _ bus => rw [transition, bus]; rfl
  | kept transition _ bus => rw [transition, bus]; rfl

theorem pollOn_subscription : (s.pollOn now flag).gate.subscription =
    match (s.pollOn now flag).transition with
    | .activated => some ⟨s.bus.next⟩
    | .deactivated => none
    | .unchanged => s.overlay.gate.subscription := by
  cases s.committed now flag with
  | opened transition _ held => rw [transition, held]
  | dropped t transition _ held => rw [transition, held]
  | kept transition held => rw [transition, held]

/-- The subscription held is one that the bus gave out. -/
def Issued (s : Session) : Prop :=
  ∀ t, s.overlay.gate.subscription = some t → t.number < s.bus.next

/-- The ticket `t` was given out, and not to the overlay. -/
structure Foreign (s : Session) (t : Ticket) : Prop where
  old : t.number < s.bus.next
  other : s.overlay.gate.subscription ≠ some t

variable {s}

theorem Issued.tickOn (h : s.Issued) : (s.tickOn now flag).2.Issued := by
  intro t held
  rw [tickOn_gate] at held
  rw [tickOn_next]
  cases s.committed now flag with
  | opened transition _ new =>
    cases held.symm.trans new
    rw [if_pos transition]
    exact Nat.lt_succ_self s.bus.next
  | dropped _ _ _ gone =>
    rw [gone] at held
    cases held
  | kept _ same =>
    rw [same] at held
    exact Nat.lt_add_right _ (h t held)

theorem Issued.bus (h : s.Issued) (op : Op) : (s.perform (.bus op)).Issued := by
  intro t held
  have old := h t held
  show t.number < (s.bus.perform op).next
  rw [Bus.perform_next]
  exact Nat.lt_add_right _ old

/-- A tick has no part in the subscriptions of others. -/
theorem Foreign.tickOn {t : Ticket} (h : s.Foreign t) :
    (s.tickOn now flag).2.bus.mailbox? t = s.bus.mailbox? t ∧ (s.tickOn now flag).2.Foreign t := by
  have unlike : t ≠ ⟨s.bus.next⟩ := by
    rintro rfl
    exact Nat.lt_irrefl _ h.old
  have gate := s.tickOn_gate now flag
  have old : t.number < (s.tickOn now flag).2.bus.next := by
    rw [tickOn_next]
    exact Nat.lt_add_right _ h.old
  suffices h : (s.commit (s.pollOn now flag)).bus.mailbox? t = s.bus.mailbox? t ∧
      (s.pollOn now flag).gate.subscription ≠ some t by
    refine ⟨?_, old, by rw [gate]; exact h.2⟩
    rw [tickOn_bus, ← h.1]
    cases held : (s.pollOn now flag).gate.subscription with
    | none => rfl
    | some t' =>
      have other : ¬t = t' := by
        rintro rfl
        exact h.2 held
      exact (Bus.mailbox?_drain _ t t').trans (if_neg other)
  cases s.committed now flag with
  | opened _ _ held bus =>
    rw [held, bus, Bus.mailbox?_subscribe, if_neg unlike]
    exact ⟨rfl, fun same => unlike (Option.some.inj same).symm⟩
  | dropped t' _ found held bus =>
    have other : ¬t = t' := by
      rintro rfl
      exact h.other found
    rw [held, bus, Bus.mailbox?_drop, if_neg other]
    exact ⟨rfl, by simp⟩
  | kept _ held bus =>
    rw [held, bus]
    exact ⟨rfl, h.other⟩

/-- The mailbox of the subscription held. -/
def mailbox? (s : Session) : Option Mailbox := s.overlay.gate.subscription.bind s.bus.mailbox?

/-- The mailbox that a tick drains. -/
def drainable? (s : Session) (now : Instant) (flag : Flag.Reading) : Option Mailbox :=
  match (s.pollOn now flag).transition with
  | .activated => some (Bus.opened s.gateSettings.channel s.gateSettings.conflate)
  | .deactivated => none
  | .unchanged => s.mailbox?

theorem drainable?_eq : (s.pollOn now flag).gate.subscription.bind
    (s.commit (s.pollOn now flag)).bus.mailbox? = s.drainable? now flag := by
  rw [drainable?]
  cases s.committed now flag with
  | opened transition _ held bus =>
    rw [transition, held, bus, Option.bind_some, Bus.mailbox?_subscribe, if_pos rfl]
  | dropped t transition _ held => rw [transition, held, Option.bind_none]
  | kept transition held bus =>
    rw [transition, held, bus]
    rfl

theorem mailbox?_tickOn :
    (s.tickOn now flag).2.mailbox? = (s.drainable? now flag).map (·.drain.2) := by
  rw [mailbox?, ← drainable?_eq, tickOn_gate, tickOn_bus]
  cases (s.pollOn now flag).gate.subscription with
  | none => rfl
  | some t =>
    show ((s.commit (s.pollOn now flag)).bus.drain t).2.mailbox? t = _
    rw [Bus.mailbox?_drain, if_pos rfl]
    rfl

/-- What draining gives in a tick. -/
theorem drained_eq : ((s.pollOn now flag).gate.subscription.map fun t =>
      ((s.commit (s.pollOn now flag)).bus.drain t).1).getD (.ok []) =
    ((s.drainable? now flag).map (·.drain.1)).getD (.ok []) := by
  rw [← drainable?_eq]
  cases (s.pollOn now flag).gate.subscription with
  | none => rfl
  | some t => exact Bus.drain_answer _ t

theorem Issued.mailbox?_bus (h : s.Issued) {t : Ticket} (held : s.overlay.gate.subscription = some t)
    (op : Op) : (s.perform (.bus op)).mailbox? =
      if op = .drop t then none else s.mailbox?.map (·.meet s.bus.depth t op) := by
  have found : (s.perform (.bus op)).mailbox? = (s.bus.perform op).mailbox? t := by
    rw [mailbox?, perform, held]
    rfl
  rw [found, Bus.mailbox?_perform _ (h t held), mailbox?, held]
  rfl

end CanScope.Session
