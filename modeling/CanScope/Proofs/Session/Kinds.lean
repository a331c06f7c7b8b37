import CanScope.Proofs.Bus.Kinds
import CanScope.Proofs.Session.Idle
import Mathlib.Data.Option.Basic

/-!
# Conflating or queueing makes no difference to slow traffic

An overlay that ticks often enough to find at most one new event each time cannot tell whether its
subscription conflates or queues, whatever else becomes of its channel.

**Slow traffic (`Sparse`).** Between two consecutive ticks at most one event is published on the
channel of the overlay. What is published before the first tick or after the last does not matter.

**What is compared (`Tick.outline`).** All of a tick but the setting itself and the number of the
ticket: the state of the gate, the cache, the report and the notices.

**Invariant (`Level`).** The sessions have the same flags and the same overlay in outline, and the
mailboxes of their subscriptions are paired as long as at most one event came in since the last tick.
An idle overlay has no mailbox, so any number of events may pass it by.

**One bus (`Company`).** Of two overlays over one bus, each is on a level with one that has the bus to
itself: a tick of the one leaves the subscription of the other alone (`Foreign.tickOn`).

**Results.**
* `kinds_agree`: under slow traffic the ticks of two overlays that differ in the setting only have the
  same outlines, each with a bus to itself or both on one bus.
-/
namespace CanScope

/-! ## Outlines -/

section Outlines

variable {σ : Type}

/-- The same settings, for conflating or for queueing subscriptions. -/
def Overlay.Settings.conflating (settings : Settings) (on : Bool) : Settings :=
  { settings with gate := { settings.gate with conflate := on } }

/-- A gate but for the kind of its subscriptions and the one that it holds. -/
def Gate.outline (g : Gate σ) : Gate Unit :=
  ⟨{ g.settings with conflate := true }, g.enabled, g.lastChecked, g.subscription.map fun _ => ()⟩

def Answers.outline (a : Answers σ) : Answers Unit := ⟨a.flag, a.subscription.map fun _ => ()⟩

def Poll.outline (p : Poll σ) : Poll Unit :=
  ⟨p.gate.outline, p.transition, p.read, p.asked, p.released.map fun _ => (), p.notices⟩

def Overlay.outline (o : Overlay σ) : Overlay Unit := ⟨o.gate.outline, o.cache⟩

/-- A tick but for the kind of the subscription: the gate and the cache it led to, its report and
its notices. -/
def Tick.outline (t : Tick σ) : Tick Unit := ⟨t.overlay.outline, t.report, t.notices⟩

theorem Gate.poll_outline (g : Gate σ) (now : Instant) (a : Answers σ) :
    (g.poll now a).outline = g.outline.poll now a.outline := by
  have due : g.outline.checkDue now = g.checkDue now := rfl
  have settles (g : Gate σ) :
      (g.settle a.subscription).outline = g.outline.settle a.outline.subscription := by
    obtain ⟨settings, enabled, lastChecked, subscription⟩ := g
    obtain ⟨flag, answer⟩ := a
    cases enabled <;> cases subscription <;> cases answer <;> rfl
  unfold poll
  rw [due]
  split
  · have settled := settles (g.observe now a.flag)
    have observed : g.outline.observe now a.outline.flag = (g.observe now a.flag).outline := rfl
    have notices : g.outline.observeNotices a.outline.flag = g.observeNotices a.flag := rfl
    rw [observed, notices, ← settled]
    rfl
  · rfl

theorem Overlay.finish_outline (o : Overlay σ) (now : Instant) (p : Poll σ)
    (drain : σ → Except BusError (List Event)) :
    (o.finish now p drain).outline =
      o.outline.finish now p.outline fun _ => (p.gate.subscription.map drain).getD (.ok []) := by
  obtain ⟨⟨settings, enabled, lastChecked, subscription⟩, transition, read, asked, released,
    notices⟩ := p
  cases subscription <;> rfl

end Outlines

/-! ## Related options -/

theorem rel_map {α β α' β' : Type} {R : α → β → Prop} {S : α' → β' → Prop} {x : Option α}
    {y : Option β} (h : Option.Rel R x y) (f : α → α') (g : β → β')
    (step : ∀ a b, R a b → S (f a) (g b)) : Option.Rel S (x.map f) (y.map g) := by
  cases h with
  | some related => exact .some (step _ _ related)
  | none => exact .none

theorem map_eq_of_rel {α β γ : Type} {R : α → β → Prop} {x : Option α} {y : Option β}
    (h : Option.Rel R x y) {f : α → γ} {g : β → γ} (same : ∀ a b, R a b → f a = g b) :
    x.map f = y.map g := by
  cases h with
  | some related => exact congrArg some (same _ _ related)
  | none => rfl

namespace Session

open Bus (Op)
open Mailbox (Paired)

/-! ## Slow traffic -/

/-- Publishes an event on `c`. -/
def Action.brings (c : String) : Action → Bool
  | .bus op => Bus.publishes c op
  | _ => false

/-- Reads a mailbox or gives it up. -/
def Action.usesTicket : Action → Bool
  | .bus op => op.usesTicket
  | _ => false

/-- What is done between each tick and the next. -/
def stretches (actions : List Action) : List (List Action) :=
  (actions.splitOnP Action.isTick).tail.dropLast

def Sparse (c : String) (actions : List Action) : Prop :=
  ∀ stretch ∈ stretches actions, stretch.countP (Action.brings c) ≤ 1

instance (c : String) (actions : List Action) : Decidable (Sparse c actions) :=
  inferInstanceAs (Decidable (∀ stretch ∈ stretches actions, stretch.countP (Action.brings c) ≤ 1))

/-- The actions `actions` go on slow traffic. If the overlay is active, `n` events came in already
since the last tick. -/
structure Ahead (c : String) (active : Bool) (n : Nat) (actions : List Action) : Prop where
  first : active = true → 1 < (actions.splitOnP Action.isTick).length →
    n + ((actions.splitOnP Action.isTick).headD []).countP (Action.brings c) ≤ 1
  later : Sparse c actions

namespace Ahead

variable {c : String} {active : Bool} {n : Nat} {a : Action} {rest : List Action}

theorem tick (h : Ahead c active n (a :: rest)) (ticks : a.isTick = true) :
    (active = true → n ≤ 1) ∧ ∀ active', Ahead c active' 0 rest := by
  obtain ⟨first, later⟩ := h
  have nonempty := List.splitOnP_ne_nil Action.isTick rest
  rw [Sparse, stretches] at later
  rw [List.splitOnP_cons_eq_if_modifyHead, if_pos ticks] at first later
  constructor
  · intro on
    exact first on (Nat.succ_lt_succ (List.length_pos_iff.2 nonempty))
  · intro active'
    obtain ⟨stretch, others, split⟩ := List.exists_cons_of_ne_nil nonempty
    rw [List.tail_cons, split] at later
    -- what follows this tick is a stretch only if there is another tick behind it
    refine ⟨fun _ more => ?_, ?_⟩
    · rw [split] at more ⊢
      have some : others ≠ [] := List.length_pos_iff.1 (Nat.lt_of_succ_lt_succ more)
      rw [List.headD_cons, Nat.zero_add]
      exact later stretch (by rw [List.dropLast_cons_of_ne_nil some]; exact List.mem_cons_self)
    · intro stretch' among
      rw [stretches, split, List.tail_cons] at among
      refine later stretch' ?_
      have some : others ≠ [] := by
        rintro rfl
        cases among
      rw [List.dropLast_cons_of_ne_nil some]
      exact List.mem_cons_of_mem _ among

theorem other (h : Ahead c active n (a :: rest)) (quiet : a.isTick = false) :
    Ahead c active (n + if a.brings c then 1 else 0) rest := by
  obtain ⟨first, later⟩ := h
  obtain ⟨stretch, others, split⟩ :=
    List.exists_cons_of_ne_nil (List.splitOnP_ne_nil Action.isTick rest)
  rw [Sparse, stretches] at later
  rw [List.splitOnP_cons_eq_if_modifyHead, quiet, if_neg Bool.false_ne_true, split,
    List.modifyHead_cons] at first later
  refine ⟨fun on more => ?_, ?_⟩
  · rw [split] at more ⊢
    have count := first on more
    rw [List.headD_cons, List.countP_cons] at count
    rw [List.headD_cons]
    omega
  · rw [Sparse, stretches, split]
    exact later

end Ahead

/-! ## Two sessions -/

variable {s s' : Session} {c : String} {n : Nat}

/-- The overlays cannot be told apart in outline, now or as long as they find at most one new event.
Since the last tick `n` events came in. -/
structure Level (c : String) (n : Nat) (s s' : Session) : Prop where
  overlay : s.overlay.outline = s'.overlay.outline
  channel : s.gateSettings.channel = c
  flags : s.flags = s'.flags
  failing : s.failing = s'.failing
  refusing : s.refusing = s'.refusing
  issued : s.Issued
  issued' : s'.Issued
  mailbox : (s.overlay.isActive = true → n ≤ 1) →
    Option.Rel (Paired c n s.bus.depth s'.bus.depth) s.mailbox? s'.mailbox?

namespace Level

theorem new (settings : Overlay.Settings) (conflate conflate' : Bool) (capacity capacity' : Nat) :
    Level settings.gate.channel 0 (new (settings.conflating conflate) capacity)
      (new (settings.conflating conflate') capacity') where
  overlay := rfl
  channel := rfl
  flags := rfl
  failing := rfl
  refusing := rfl
  issued _ held := by cases held
  issued' _ held := by cases held
  mailbox _ := .none

theorem channel' (h : Level c n s s') : s'.gateSettings.channel = c :=
  (congrArg (·.gate.settings.channel) h.overlay).symm.trans h.channel

theorem flag_eq (h : Level c n s s') :
    s.flag s.gateSettings.flagKey = s'.flag s'.gateSettings.flagKey := by
  have key : s.gateSettings.flagKey = s'.gateSettings.flagKey :=
    congrArg (·.gate.settings.flagKey) h.overlay
  rw [flag, flag, h.failing, h.flags, key]

/-- Where one overlay holds a subscription, so does the other. -/
theorem subscription (h : Level c n s s') : s.overlay.gate.subscription.map (fun _ => ()) =
    s'.overlay.gate.subscription.map (fun _ => ()) := congrArg (·.gate.subscription) h.overlay

theorem pollOn_outline (h : Level c n s s') (now : Instant) (flag : Flag.Reading) :
    (s.pollOn now flag).outline = (s'.pollOn now flag).outline := by
  have gate : s.overlay.gate.outline = s'.overlay.gate.outline := congrArg Overlay.gate h.overlay
  have answers : (s.answersTo flag).outline = (s'.answersTo flag).outline := by
    simp only [answersTo, Session.subscription, Answers.outline, h.channel, h.channel', h.refusing]
    split <;> rfl
  rw [pollOn, pollOn, Gate.poll_outline, Gate.poll_outline, gate, answers]

theorem transition (h : Level c n s s') (now : Instant) (flag : Flag.Reading) :
    (s.pollOn now flag).transition = (s'.pollOn now flag).transition :=
  congrArg (·.transition) (h.pollOn_outline now flag)

/-- A tick drains the paired mailboxes, or new ones. -/
theorem drainable (h : Level c n s s') (few : s.overlay.isActive = true → n ≤ 1) (now : Instant)
    (flag : Flag.Reading) :
    Option.Rel (Paired c n s.bus.depth s'.bus.depth) (s.drainable? now flag)
      (s'.drainable? now flag) := by
  rw [drainable?, drainable?, ← h.transition now flag, h.channel, h.channel']
  split
  · exact .some ((Paired.opened _ _ c _ _).mono (Nat.zero_le n))
  · exact .none
  · exact h.mailbox few

theorem tickOn (h : Level c n s s') (few : s.overlay.isActive = true → n ≤ 1) (now : Instant)
    (flag : Flag.Reading) :
    (s.tickOn now flag).1.outline = (s'.tickOn now flag).1.outline ∧
      Level c 0 (s.tickOn now flag).2 (s'.tickOn now flag).2 := by
  have paired := h.drainable few now flag
  have answers := map_eq_of_rel paired fun m m' related =>
    related.drain_eq s.bus.depth_pos s'.bus.depth_pos
  have tick : (s.tickOn now flag).1.outline = (s'.tickOn now flag).1.outline := by
    show (s.overlay.finish now (s.pollOn now flag) fun t =>
        ((s.commit (s.pollOn now flag)).bus.drain t).1).outline =
      (s'.overlay.finish now (s'.pollOn now flag) fun t =>
        ((s'.commit (s'.pollOn now flag)).bus.drain t).1).outline
    rw [Overlay.finish_outline, Overlay.finish_outline, drained_eq, drained_eq, h.overlay,
      h.pollOn_outline now flag, answers]
  obtain ⟨flags, failing, refusing⟩ := s.tickOn_surroundings now flag
  obtain ⟨flags', failing', refusing'⟩ := s'.tickOn_surroundings now flag
  refine ⟨tick, congrArg Tick.overlay tick, ?_, ?_, ?_, ?_, h.issued.tickOn now flag,
    h.issued'.tickOn now flag, fun _ => ?_⟩
  · rw [gateSettings, tickOn_gate, pollOn, Gate.poll_settings]
    exact h.channel
  · rw [flags, flags', h.flags]
  · rw [failing, failing', h.failing]
  · rw [refusing, refusing', h.refusing]
  · rw [tickOn_depth, tickOn_depth, mailbox?_tickOn, mailbox?_tickOn]
    exact rel_map paired _ _ fun m m' related => related.drain s.bus.depth_pos s'.bus.depth_pos

/-- Others use both buses alike, and each subscription like the other. -/
theorem bus (h : Level c n s s') {op : Op}
    (alike : op.usesTicket = true → s.overlay.gate.subscription = s'.overlay.gate.subscription) :
    Level c (n + if Bus.publishes c op then 1 else 0) (s.perform (.bus op))
      (s'.perform (.bus op)) := by
  refine { h with issued := h.issued.bus op, issued' := h.issued'.bus op, mailbox := fun few => ?_ }
  have room := s.bus.depth_pos
  have room' := s'.bus.depth_pos
  have paired := h.mailbox fun active => (Nat.le_add_right _ _).trans (few active)
  have depth : (s.perform (.bus op)).bus.depth = s.bus.depth := s.bus.perform_depth op
  have depth' : (s'.perform (.bus op)).bus.depth = s'.bus.depth := s'.bus.perform_depth op
  have subscription := h.subscription
  rw [depth, depth']
  cases held : s.overlay.gate.subscription with
  | none =>
    rw [held] at subscription
    have held' := Option.map_eq_none_iff.1 subscription.symm
    rw [mailbox?, mailbox?, perform, perform, held, held']
    exact .none
  | some t =>
    rw [held] at subscription
    obtain ⟨t', held', -⟩ := Option.map_eq_some_iff.1 subscription.symm
    have one (uses : op.usesTicket = true) : t = t' := by
      have same := alike uses
      rw [held, held'] at same
      exact Option.some.inj same
    rw [h.issued.mailbox?_bus held, h.issued'.mailbox?_bus held']
    -- given up by someone else, both mailboxes are gone, and every later drain finds nothing
    by_cases dropped : op = .drop t
    · obtain rfl := one (by rw [dropped]; rfl)
      rw [if_pos dropped, if_pos dropped]
      exact .none
    · have stays : op ≠ .drop t' := by
        rintro rfl
        exact dropped (by rw [one rfl])
      rw [if_neg dropped, if_neg stays]
      exact rel_map paired _ _ fun m m' related =>
        related.meet room room' one (few (Gate.isActive_of_some held))

theorem other (h : Level c n s s') {a : Action} (quiet : a.isTick = false)
    (alike : a.usesTicket = true → s.overlay.gate.subscription = s'.overlay.gate.subscription) :
    Level c (n + if a.brings c then 1 else 0) (s.perform a) (s'.perform a) := by
  cases a with
  | tick now => cases quiet
  | tickOn now flag => cases quiet
  | set key value => exact { h with flags := congrArg (·.set key value) h.flags }
  | unset key => exact { h with flags := congrArg (·.unset key) h.flags }
  | fail on => exact { h with failing := rfl }
  | refuse on => exact { h with refusing := rfl }
  | bus op => exact h.bus alike

theorem turn?_eq (h : Level c n s s') (a : Action) : s.turn? a = s'.turn? a := by
  cases a with
  | tick now => rw [turn?, turn?, h.flag_eq]
  | tickOn now flag => rfl
  | set key value => rfl
  | unset key => rfl
  | fail on => rfl
  | refuse on => rfl
  | bus op => rfl

end Level

/-! ## Buses of their own -/

/-- The sessions hold the same subscription, and the next one that they get is the same too. -/
structure Twins (s s' : Session) : Prop where
  subscription : s.overlay.gate.subscription = s'.overlay.gate.subscription
  next : s.bus.next = s'.bus.next

theorem Twins.tickOn (twins : Twins s s') (h : Level c n s s') (now : Instant)
    (flag : Flag.Reading) : Twins (s.tickOn now flag).2 (s'.tickOn now flag).2 := by
  have transition := h.transition now flag
  constructor
  · rw [tickOn_gate, tickOn_gate, pollOn_subscription, pollOn_subscription, transition,
      twins.subscription, twins.next]
  · rw [tickOn_next, tickOn_next, transition, twins.next]

theorem Twins.other (twins : Twins s s') {a : Action} (quiet : a.isTick = false) :
    Twins (s.perform a) (s'.perform a) := by
  constructor
  · rw [overlay_of_quiet s quiet, overlay_of_quiet s' quiet, twins.subscription]
  · rw [next_of_quiet s quiet, next_of_quiet s' quiet, twins.next]

theorem ticks_apart (h : Level c n s s') (twins : Twins s s') {actions : List Action}
    (ahead : Ahead c s.overlay.isActive n actions) :
    (s.ticks actions).map Tick.outline = (s'.ticks actions).map Tick.outline := by
  induction actions generalizing s s' n with
  | nil => rfl
  | cons a rest ih =>
    rw [ticks, ticks]
    cases ticks : a.isTick with
    | true =>
      obtain ⟨now, flag, turn⟩ := s.exists_turn ticks
      obtain ⟨few, later⟩ := ahead.tick ticks
      obtain ⟨tick, performed⟩ := tickOn_of_turn turn
      obtain ⟨tick', performed'⟩ := tickOn_of_turn ((h.turn?_eq a).symm.trans turn)
      obtain ⟨same, level⟩ := h.tickOn few now flag
      rw [tick, tick', performed, performed', List.map_append, List.map_append,
        ih level (twins.tickOn h now flag) (later _)]
      exact congrArg (· :: _) same
    | false =>
      have later := ahead.other ticks
      rw [← overlay_of_quiet s ticks] at later
      rw [tick?_of_quiet s ticks, tick?_of_quiet s' ticks]
      exact ih (h.other ticks fun _ => twins.subscription) (twins.other ticks) later

/-! ## One bus -/

/-- The same session with another overlay. -/
def hosting (s : Session) (o : Overlay Ticket) : Session := { s with overlay := o }

/-- The ticks of a run in which a second overlay over the same bus ticks after each tick of the
first, with the ticks of both. -/
def ticksBeside (s : Session) (o : Overlay Ticket) : List Action → List (Tick Ticket × Tick Ticket)
  | [] => []
  | a :: rest =>
    let first := s.perform a
    let second := (first.hosting o).perform a
    match s.tick? a, (first.hosting o).tick? a with
    | some t, some t' => (t, t') :: (second.hosting first.overlay).ticksBeside second.overlay rest
    | _, _ => first.ticksBeside o rest

/-- The overlay `o` has a subscription on the bus of the session, but not that of its own overlay. -/
def Guest (s : Session) (o : Overlay Ticket) : Prop :=
  ∀ t, o.gate.subscription = some t → s.Foreign t

variable {o : Overlay Ticket}

theorem Guest.symm (h : s.Guest o) (issued : s.Issued) : (s.hosting o).Guest s.overlay := by
  intro t held
  exact ⟨issued t held, fun held' => (h t held').other held⟩

theorem Guest.tickOn (h : s.Guest o) (now : Instant) (flag : Flag.Reading) :
    (s.tickOn now flag).2.Guest o := fun t held => ((h t held).tickOn now flag).2

theorem Guest.other (h : s.Guest o) {a : Action} (quiet : a.isTick = false) :
    (s.perform a).Guest o := by
  intro t held
  obtain ⟨old, other⟩ := h t held
  refine ⟨?_, by rwa [overlay_of_quiet s quiet]⟩
  rw [next_of_quiet s quiet]
  exact Nat.lt_add_right _ old

/-- The second overlay is where it was after the first one ticked. -/
theorem Level.beside {alone : Session} (h : Level c n alone (s.hosting o)) (guest : s.Guest o)
    (now : Instant) (flag : Flag.Reading) :
    Level c n alone ((s.tickOn now flag).2.hosting o) := by
  obtain ⟨flags, failing, refusing⟩ := s.tickOn_surroundings now flag
  refine ⟨h.overlay, h.channel, h.flags.trans flags.symm, h.failing.trans failing.symm,
    h.refusing.trans refusing.symm, h.issued, ?_, fun few => ?_⟩
  · exact fun t held => (guest.tickOn now flag t held).old
  · have depth : ((s.tickOn now flag).2.hosting o).bus.depth = (s.hosting o).bus.depth :=
      s.tickOn_depth now flag
    have mailbox : ((s.tickOn now flag).2.hosting o).mailbox? = (s.hosting o).mailbox? := by
      rw [mailbox?, mailbox?, hosting, hosting]
      cases held : o.gate.subscription with
      | none => rfl
      | some t => exact ((guest t held).tickOn now flag).1
    rw [depth, mailbox]
    exact h.mailbox few

/-- The overlay of `s` and the guest `o` on its bus are both on a level with one whose bus is its own. -/
structure Company (c : String) (n : Nat) (alone s : Session) (o : Overlay Ticket) : Prop where
  first : Level c n alone s
  second : Level c n alone (s.hosting o)
  guest : s.Guest o

namespace Company

variable {alone : Session}

theorem tickOn (h : Company c n alone s o) (few : alone.overlay.isActive = true → n ≤ 1)
    (now : Instant) (flag : Flag.Reading) :
    let first := s.tickOn now flag
    let second := (first.2.hosting o).tickOn now flag
    (alone.tickOn now flag).1.outline = first.1.outline ∧
      (alone.tickOn now flag).1.outline = second.1.outline ∧
      Company c 0 (alone.tickOn now flag).2 (second.2.hosting first.2.overlay) second.2.overlay := by
  intro first second
  obtain ⟨same, level⟩ := h.first.tickOn few now flag
  obtain ⟨same', level'⟩ := (h.second.beside h.guest now flag).tickOn few now flag
  -- the first overlay is the guest while the second one ticks
  have guest : (first.2.hosting o).Guest first.2.overlay :=
    (h.guest.tickOn now flag).symm level.issued'
  have level : Level c 0 (alone.tickOn now flag).2 ((first.2.hosting o).hosting first.2.overlay) :=
    level
  exact ⟨same, same', level.beside guest now flag, level',
    (guest.tickOn now flag).symm level'.issued'⟩

theorem other (h : Company c n alone s o) {a : Action} (quiet : a.isTick = false)
    (discreet : a.usesTicket = false) :
    Company c (n + if a.brings c then 1 else 0) (alone.perform a) (s.perform a) o := by
  have moved : (s.hosting o).perform a = (s.perform a).hosting o := by
    cases a <;> first | rfl | cases quiet
  have second := h.second.other quiet fun uses => by rw [discreet] at uses; cases uses
  rw [moved] at second
  refine ⟨?_, second, h.guest.other quiet⟩
  exact h.first.other quiet fun uses => by rw [discreet] at uses; cases uses

end Company

/-- Two overlays over one bus both tick as one that has a bus to itself. -/
theorem ticks_beside {alone : Session} (h : Company c n alone s o) {actions : List Action}
    (ahead : Ahead c alone.overlay.isActive n actions)
    (discreet : ∀ a ∈ actions, a.usesTicket = false) :
    (s.ticksBeside o actions).map (Prod.map Tick.outline Tick.outline) =
      (alone.ticks actions).map fun t => (t.outline, t.outline) := by
  induction actions generalizing alone s o n with
  | nil => rfl
  | cons a rest ih =>
    rw [List.forall_mem_cons] at discreet
    rw [ticks, ticksBeside]
    cases ticks : a.isTick with
    | true =>
      obtain ⟨now, flag, turn⟩ := alone.exists_turn ticks
      obtain ⟨few, later⟩ := ahead.tick ticks
      have turn₁ := (h.first.turn?_eq a).symm.trans turn
      have turn₂ := ((h.second.beside h.guest now flag).turn?_eq a).symm.trans turn
      obtain ⟨tick, performed⟩ := tickOn_of_turn turn
      obtain ⟨tick₁, performed₁⟩ := tickOn_of_turn turn₁
      obtain ⟨tick₂, performed₂⟩ := tickOn_of_turn turn₂
      obtain ⟨same₁, same₂, company⟩ := h.tickOn few now flag
      have rest_eq := ih company (later _) discreet.2
      rw [tick, performed, tick₁, performed₁]
      simp only [tick₂, performed₂]
      rw [List.map_cons, rest_eq, Prod.map_apply, ← same₁, ← same₂]
      rfl
    | false =>
      have later := ahead.other ticks
      rw [← overlay_of_quiet alone ticks] at later
      rw [tick?_of_quiet alone ticks, tick?_of_quiet s ticks]
      exact ih (h.other ticks discreet.1) later discreet.2

/-- **Either kind will do for slow traffic.** Overlays that differ only in whether they conflate have
ticks of the same outline, at every tick of every run in which at most one event is published on their
channel between two ticks, whatever the depth of the queues: the same transitions, counts, errors and
snapshots, the same state of the gate and the same cache. So it is for two runs on buses of their own,
and so it is when both are on one bus, where no one else reads their mailboxes or gives them up. -/
theorem kinds_agree (settings : Overlay.Settings) (conflate conflate' : Bool)
    (capacity capacity' : Nat) (actions : List Action)
    (sparse : Sparse settings.gate.channel actions) :
    ((new (settings.conflating conflate) capacity).ticks actions).map Tick.outline =
        ((new (settings.conflating conflate') capacity').ticks actions).map Tick.outline ∧
      ((∀ a ∈ actions, a.usesTicket = false) →
        ((new (settings.conflating conflate) capacity').ticksBeside
            (.new (settings.conflating conflate')) actions).map (Prod.map Tick.outline Tick.outline) =
          ((new (settings.conflating conflate) capacity).ticks actions).map
            fun t => (t.outline, t.outline)) := by
  have ahead : Ahead settings.gate.channel
      (new (settings.conflating conflate) capacity).overlay.isActive 0 actions :=
    ⟨fun active => (by cases active), sparse⟩
  refine ⟨ticks_apart (.new settings conflate conflate' capacity capacity') ⟨rfl, rfl⟩ ahead,
    fun discreet => ticks_beside ⟨?_, ?_, ?_⟩ ahead discreet⟩
  · exact .new settings conflate conflate capacity capacity'
  · exact .new settings conflate conflate' capacity capacity'
  · intro t held
    cases held

/-! Two events come before the first tick, and one is unread when the channel is closed. The overlay
is switched off, and on again over a new channel of the same name. -/

def reopening : List Action :=
  [.set "ShowDebugInfo" true, .bus (.publish "can" (.ofFrames [⟨0, 1, []⟩])),
    .bus (.publish "can" (.ofFrames [⟨0, 2, []⟩])), .tick ⟨0⟩,
    .bus (.publish "can" (.ofFrames [⟨0, 3, []⟩])), .tick ⟨100000000⟩,
    .bus (.publish "can" (.ofFrames [⟨0, 4, []⟩])), .bus (.close "can"), .tick ⟨200000000⟩,
    .unset "ShowDebugInfo", .tick ⟨700000000⟩, .set "ShowDebugInfo" true, .tick ⟨1300000000⟩,
    .bus (.publish "can" (.ofFrames [⟨0, 5, []⟩])), .tick ⟨1400000000⟩]

theorem kinds_agree_reopening :
    Sparse "can" reopening ∧ (∀ a ∈ reopening, a.usesTicket = false) ∧
    ((new (.conflating .default true) 1).ticks reopening).map Tick.outline =
      ((new (.conflating .default false) 4).ticks reopening).map Tick.outline ∧
    ((new (.conflating .default true) 4).ticksBeside (.new (.conflating .default false))
        reopening).map (Prod.map Tick.outline Tick.outline) =
      ((new (.conflating .default true) 1).ticks reopening).map (fun t => (t.outline, t.outline)) ∧
    ((new (.conflating .default true) 1).ticks reopening).map
        (fun t => (t.report.transition, t.report.applied, t.report.drainError)) =
      [(.activated, 0, none), (.unchanged, 1, none), (.unchanged, 0, some (.closed "can")),
        (.deactivated, 0, none), (.activated, 0, none), (.unchanged, 1, none)] := by
  have sparse : Sparse "can" reopening := by decide
  have discreet : ∀ a ∈ reopening, a.usesTicket = false := by decide
  have agree := kinds_agree .default true false 1 4 reopening sparse
  exact ⟨sparse, discreet, agree.1, agree.2 discreet, by decide⟩

end Session

end CanScope
