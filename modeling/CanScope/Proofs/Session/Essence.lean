import CanScope.Proofs.Bus.Map
import CanScope.Proofs.Session.Idle

/-!
# Only received frames matter

An overlay shows frames that were received, and the word of their publisher on them. Nothing else in
an event has a part in what it does: not the publisher's clock, and not what an event of another kind
carries, be it frames that no controller can have produced.

**Essence (`Event.essence`).** An event of which only that is left. Events of other kinds stay in their
places, so that a queue which overflows loses as many of them as before.

**Two runs (`Action.Alike`).** The same actions in the same order, where one publishes an event and the
other one like it.

**Results.**
* `ticks_essence`: a session that is given the essence of all events ticks as if it were given them.
* `only_received_frames_matter`: two such runs have the same ticks.
-/
namespace CanScope

/-! ## Events -/

/-- What an overlay sees of an event. -/
def Event.essence (e : Event) : Event :=
  match e.content with
  | .can frames => ⟨.can frames, e.valid, 0⟩
  | _ => ⟨.other "", true, 0⟩

/-- Events that differ in the publisher's clock only, or of which neither carries received frames. -/
inductive Event.Alike : Event → Event → Prop where
  | received (frames : List CanFrame) (valid : Bool) (time time' : Nat) :
    Alike ⟨.can frames, valid, time⟩ ⟨.can frames, valid, time'⟩
  | ignored {e e' : Event} (blank : e.canFrames? = none) (blank' : e'.canFrames? = none) :
    Alike e e'

theorem Event.essence_of_none {e : Event} (blank : e.canFrames? = none) :
    e.essence = ⟨.other "", true, 0⟩ := by
  obtain ⟨content, valid, time⟩ := e
  cases content with
  | can frames => cases blank
  | sendcan frames => rfl
  | other name => rfl

theorem Event.Alike.essence_eq {e e' : Event} (h : e.Alike e') : e.essence = e'.essence := by
  cases h with
  | received frames valid time time' => rfl
  | ignored blank blank' => rw [essence_of_none blank, essence_of_none blank']

/-- The essence of an event carries the same received frames under the same word of the publisher. -/
theorem Event.received_essence (e : Event) : e.essence.canFrames.map (·, e.essence.valid) =
    e.canFrames.map (·, e.valid) := by
  obtain ⟨content, valid, time⟩ := e
  cases content <;> rfl

theorem Event.canFrames_essence (e : Event) : e.essence.canFrames = e.canFrames := by
  obtain ⟨content, valid, time⟩ := e
  cases content <;> rfl

theorem Event.fault?_essence (events : List Event) :
    fault? (events.map essence) = fault? events := by
  rw [fault?, fault?, List.flatMap_map]
  simp only [canFrames_essence]

/-! ## Overlays -/

/-- Taking in the essence of what was drained is taking it in. -/
theorem Cache.ingest_essence (c : Cache) (now : Instant) (drained : Except BusError (List Event)) :
    c.ingest now (drained.map (List.map Event.essence)) = c.ingest now drained := by
  cases drained with
  | error e => rfl
  | ok events =>
    have received : (events.map Event.essence).flatMap (fun e => e.canFrames.map (·, e.valid)) =
        events.flatMap fun e => e.canFrames.map (·, e.valid) := by
      rw [List.flatMap_map]
      simp only [Event.received_essence]
    simp only [Except.map, ingest, Event.fault?_essence, received]

theorem Overlay.finish_essence {σ : Type} (o : Overlay σ) (now : Instant) (p : Poll σ)
    (drain : σ → Except BusError (List Event)) :
    o.finish now p (fun s => (drain s).map (List.map Event.essence)) = o.finish now p drain := by
  simp only [finish, refresh, Cache.ingest_essence]

/-! ## Sessions -/

namespace Session

open Bus (Op)

/-- The session with the essence of all that is unread. -/
def essence (s : Session) : Session := { s with bus := s.bus.map Event.essence }

def Action.essence : Action → Action
  | .bus op => .bus (op.map Event.essence)
  | a => a

/-- The same action, or a publication of one event for that of another like it. -/
inductive Action.Alike : Action → Action → Prop where
  | publish (channel : String) {e e' : Event} (h : e.Alike e') :
    Alike (.bus (.publish channel e)) (.bus (.publish channel e'))
  | same (a : Action) : Alike a a

theorem Action.Alike.essence_eq {a a' : Action} (h : a.Alike a') : a.essence = a'.essence := by
  cases h with
  | publish channel alike => rw [essence, essence, Op.map, Op.map, alike.essence_eq]
  | same => rfl

variable (s : Session) (now : Instant) (flag : Flag.Reading)

theorem subscription_essence :
    s.essence.subscription = (s.subscription.1, s.subscription.2.map Event.essence) := by
  unfold subscription
  show (if s.refusing = true then _ else _) = _
  split
  · rfl
  · exact congrArg (Prod.mk _) (Bus.map_subscribe Event.essence s.bus _ _)

theorem pollOn_essence : s.essence.pollOn now flag = s.pollOn now flag := by
  rw [pollOn, pollOn, answersTo, answersTo, subscription_essence]
  rfl

theorem commit_essence (p : Poll Ticket) : s.essence.commit p = (s.commit p).essence := by
  have bus : (if p.asked then s.essence.subscription.2 else s.essence.bus) =
      (if p.asked then s.subscription.2 else s.bus).map Event.essence := by
    rw [subscription_essence, apply_ite (Bus.map Event.essence)]
    rfl
  unfold commit
  rw [bus]
  cases p.released with
  | none => rfl
  | some t => simp only [Bus.map_drop]; rfl

theorem drain_essence : s.essence.drain.2 = s.drain.2.essence := by
  have held : s.essence.overlay.gate.subscription = s.overlay.gate.subscription := rfl
  have bus : s.essence.bus = s.bus.map Event.essence := rfl
  unfold drain
  rw [held]
  cases s.overlay.gate.subscription with
  | none => rfl
  | some t => simp only [bus, Bus.map_drain]; rfl

/-- The session between the poll of a tick and its drain. -/
def polledOn : Session :=
  { s.commit (s.pollOn now flag) with
    overlay := { s.overlay with gate := (s.pollOn now flag).gate } }

theorem tickOn_snd : (s.tickOn now flag).2 =
    { (s.polledOn now flag).drain.2 with overlay := (s.tickOn now flag).1.overlay } := rfl

theorem polledOn_essence : s.essence.polledOn now flag = (s.polledOn now flag).essence := by
  rw [polledOn, polledOn, pollOn_essence, commit_essence]
  rfl

theorem tick_essence : (s.essence.tickOn now flag).1 = (s.tickOn now flag).1 := by
  show s.overlay.finish now (s.essence.pollOn now flag)
      (fun t => ((s.essence.commit (s.essence.pollOn now flag)).bus.drain t).1) =
    s.overlay.finish now (s.pollOn now flag)
      (fun t => ((s.commit (s.pollOn now flag)).bus.drain t).1)
  rw [pollOn_essence, commit_essence, ← s.overlay.finish_essence now _ fun t =>
    ((s.commit (s.pollOn now flag)).bus.drain t).1]
  simp only [essence, Bus.map_drain]

theorem tickOn_essence :
    s.essence.tickOn now flag = ((s.tickOn now flag).1, (s.tickOn now flag).2.essence) := by
  refine Prod.ext (s.tick_essence now flag) ?_
  rw [tickOn_snd, tick_essence, polledOn_essence, drain_essence, tickOn_snd]
  rfl

theorem perform_essence (a : Action) : s.essence.perform a.essence = (s.perform a).essence := by
  cases a with
  | tick now => exact congrArg Prod.snd (s.tickOn_essence now _)
  | tickOn now flag => exact congrArg Prod.snd (s.tickOn_essence now flag)
  | set key value => rfl
  | unset key => rfl
  | fail on => rfl
  | refuse on => rfl
  | bus op =>
    show { s with bus := (s.bus.map Event.essence).perform (op.map Event.essence) } = _
    rw [Bus.map_perform]
    rfl

theorem tick?_essence (a : Action) : s.essence.tick? a.essence = s.tick? a := by
  cases a with
  | tick now => exact congrArg (some ·.1) (s.tickOn_essence now _)
  | tickOn now flag => exact congrArg (some ·.1) (s.tickOn_essence now flag)
  | set key value => rfl
  | unset key => rfl
  | fail on => rfl
  | refuse on => rfl
  | bus op => rfl

/-- The essence of what is published is enough for the overlay. -/
theorem ticks_essence (actions : List Action) :
    s.essence.ticks (actions.map Action.essence) = s.ticks actions := by
  induction actions generalizing s with
  | nil => rfl
  | cons a rest ih => rw [List.map_cons, ticks, ticks, tick?_essence, perform_essence, ih]

theorem map_essence_of_alike {actions actions' : List Action}
    (alike : List.Forall₂ Action.Alike actions actions') :
    actions.map Action.essence = actions'.map Action.essence := by
  induction alike with
  | nil => rfl
  | cons h _ ih => rw [List.map_cons, List.map_cons, h.essence_eq, ih]

/-- **Only received frames matter.** Two runs of a session, of any settings and any capacity of its
queues, with the same actions but for what their events carry beside received frames and the word on
them, have the same ticks: the same overlays, with gate and cache, the same reports and the same
notices. -/
theorem only_received_frames_matter (settings : Overlay.Settings) (queueCapacity : Nat)
    (actions actions' : List Action) (alike : List.Forall₂ Action.Alike actions actions') :
    (new settings queueCapacity).ticks actions = (new settings queueCapacity).ticks actions' := by
  rw [← ticks_essence _ actions, ← ticks_essence _ actions', map_essence_of_alike alike]

/-! A queue of two is drained once with room to spare and once after it overflowed. The second run has
other clocks, names and frames to be sent, among them one that no controller can have produced. -/

/-- A run whose events are sent, named and dated as the arguments say. -/
def mixed (time : Nat) (sent : List CanFrame) (name : String) : List Action :=
  [.set "ShowDebugInfo" true, .tick ⟨0⟩,
    .bus (.publish "can" ⟨.can [⟨0, 1, [0xAB]⟩], false, time⟩),
    .bus (.publish "can" ⟨.sendcan sent, true, time⟩), .tick ⟨100000000⟩,
    .bus (.publish "can" ⟨.other name, sent.isEmpty, 0⟩),
    .bus (.publish "can" ⟨.sendcan sent, sent.isEmpty, time⟩),
    .bus (.publish "can" ⟨.can [⟨0, 2, []⟩], true, time⟩), .tick ⟨200000000⟩, .tick ⟨300000000⟩]

theorem only_received_frames_matter_overrun :
    List.Forall₂ Action.Alike (mixed 0 [] "") (mixed 7 [⟨0, 0x20000000, []⟩] "gps") ∧
    (new queueing 2).ticks (mixed 0 [] "") =
      (new queueing 2).ticks (mixed 7 [⟨0, 0x20000000, []⟩] "gps") ∧
    ((new queueing 2).ticks (mixed 0 [] "")).map
        (fun t => (t.report.applied, t.report.drainError, t.overlay.cache.size)) =
      [(0, none, 0), (1, none, 1), (0, some (.lagged "can" 1), 1), (1, none, 2)] := by
  have alike : List.Forall₂ Action.Alike (mixed 0 [] "") (mixed 7 [⟨0, 0x20000000, []⟩] "gps") :=
    .cons (.same _) <| .cons (.same _) <| .cons (.publish _ (.received _ _ _ _)) <|
      .cons (.publish _ (.ignored rfl rfl)) <| .cons (.same _) <|
      .cons (.publish _ (.ignored rfl rfl)) <| .cons (.publish _ (.ignored rfl rfl)) <|
      .cons (.publish _ (.received _ _ _ _)) <| .cons (.same _) <| .cons (.same _) .nil
  exact ⟨alike, only_received_frames_matter queueing 2 _ _ alike, by decide⟩

end Session

end CanScope
