import CanScope.Proofs.Bus.Unread
import CanScope.Proofs.Capture.LineExact
import CanScope.Proofs.Capture.Player
import CanScope.Proofs.Overlay.Fresh
import CanScope.Proofs.Session.Run

/-!
# A played capture is taken in whole

What may be written in a capture is checked when it is parsed, and what may have been received is checked
again in every drain. A frame that passed the first check and not the second would cost an overlay all that
it drained along with it. There is none: whatever the text, its frames are well-formed.

**Invariant (`Supplied`).** The mailbox of the subscription held is on the channel of the overlay, and all
that is unread in it was published there. This is for any property that all those events have, and for
either kind of mailbox.

**What may go on.** Anything (`Session.Action`) but publications on the channel of the overlay that no
playback makes. Captures may be played at once, from any moment on, repeatedly, and be cut off.

**Results.**
* `fault?_of_parse`: the frames of a capture are well-formed.
* `exists_record_of_laps`: what is published in a playback are those frames.
* `trace_supplied`: what holds of all events published on a channel holds of all that is unread there.
* `playback_taken_whole`: an overlay on a channel where captures are played takes in all that it drains.
-/
namespace CanScope

/-! ## Captures -/

namespace Capture

theorem fault?_of_parse {text : List Char} {records : List Record} (h : parse text = .ok records) :
    ∀ r ∈ records, r.frame.fault? = none := by
  intro r hr
  obtain ⟨number, line, w, hline, hsame⟩ := exists_line_of_parse h r hr
  obtain ⟨head, a, rest, -, htaken⟩ := parseLine_eq_some_iff.mp hline
  rw [← hsame, CanFrame.fault?_eq_none_iff]
  exact htaken.wellFormed

theorem exists_record_of_pass {horizon start : Nat} {records : List Record} :
    ∀ p ∈ (pass horizon start records).published, ∃ r ∈ records, r.frame = p.frame := by
  intro p hp
  obtain ⟨k, hreaches⟩ := exists_reaches horizon start records
  rw [pass_eq hreaches] at hp
  obtain ⟨i, hi, hrecord⟩ := List.mem_mapIdx.mp (List.mem_of_mem_take hp)
  exact ⟨records[i], List.getElem_mem hi, by rw [← hrecord]⟩

/-- All that is published in a playback is a record of the capture. -/
theorem exists_record_of_laps {horizon : Nat} {records : List Record} {again : Bool} {start n : Nat} :
    ∀ p ∈ published (laps horizon records again start n), ∃ r ∈ records, r.frame = p.frame := by
  induction n generalizing start with
  | zero => simp [laps, published]
  | succ n ih =>
    intro p hp
    rw [laps, published_cons, List.mem_append] at hp
    rcases hp with hp | hp
    · exact exists_record_of_pass p hp
    · split at hp
      · simp [published] at hp
      · exact ih p hp

/-- The event is one that the playback of some capture publishes. -/
def Played (e : Event) : Prop :=
  ∃ text records horizon again start n p, parse text = .ok records ∧
    p ∈ published (laps horizon records again start n) ∧ e = .ofFrames [p.frame]

/-- So is what a player hands out, whenever it is asked. -/
theorem played_of_asked {text : List Char} {records : List Record} (h : parse text = .ok records)
    {horizon : Nat} {again : Bool} {clocks : List Nat} :
    ∀ f ∈ ((Player.new horizon records again).asked clocks).1, Played (.ofFrames [f]) := by
  intro f hf
  obtain ⟨n, hbegins⟩ := (Player.asked_laps horizon records again clocks).1
  obtain ⟨p, hp, rfl⟩ := List.mem_map.mp (hbegins.subset hf)
  exact ⟨text, records, horizon, again, 0, n, p, h, hp, rfl⟩

/-- A valid event with one frame, and that a well-formed one. -/
def Single (e : Event) : Prop := ∃ f : CanFrame, f.WellFormed ∧ e = .ofFrames [f]

theorem Played.single {e : Event} (h : Played e) : Single e := by
  obtain ⟨text, records, horizon, again, start, n, p, hparse, hp, rfl⟩ := h
  obtain ⟨r, hr, hsame⟩ := exists_record_of_laps p hp
  have hwell : r.frame.WellFormed := (CanFrame.fault?_eq_none_iff _).mp (fault?_of_parse hparse r hr)
  exact ⟨p.frame, hsame ▸ hwell, rfl⟩

theorem length_of_single {events : List Event} (h : ∀ e ∈ events, Single e) :
    (∀ e ∈ events, ∀ f ∈ e.canFrames, f.WellFormed) ∧
      (events.flatMap Event.canFrames).length = events.length := by
  induction events with
  | nil => simp
  | cons e rest ih =>
    obtain ⟨f, hf, rfl⟩ := h e List.mem_cons_self
    have hrest := ih fun e' he' => h e' (List.mem_cons_of_mem _ he')
    have hframes : (Event.ofFrames [f]).canFrames = [f] := rfl
    constructor
    · intro e' he'
      rcases List.mem_cons.mp he' with rfl | he'
      · simpa [hframes] using hf
      · exact hrest.1 e' he'
    · simp only [List.flatMap_cons, List.length_append, List.length_cons, List.length_nil, hframes,
        hrest.2]
      omega

end Capture

/-! ## One tick -/

namespace Overlay

variable {σ : Type} (o : Overlay σ) (now : Instant) (transition : Transition)

theorem refresh_error (e : BusError) :
    (o.refresh now transition (.error e)).report.drainError = some e := rfl

theorem refresh_of_single {events : List Event} (h : ∀ e ∈ events, Capture.Single e) :
    (o.refresh now transition (.ok events)).report.applied = events.length ∧
      (o.refresh now transition (.ok events)).report.drainError = none := by
  obtain ⟨hwell, hlength⟩ := Capture.length_of_single h
  have hresult := Cache.result_of_wellFormed hwell o.cache now
  simp [refresh, hresult, hlength]

end Overlay

namespace Session

open Bus (Op)
open Capture (Played Single)

/-- What is drained in a tick that holds a subscription. -/
def drained? (s : Session) (a : Action) : Option (Except BusError (List Event)) :=
  (s.turn? a).bind fun (now, flag) => (s.pollOn now flag).gate.subscription.map fun ticket =>
    ((s.commit (s.pollOn now flag)).bus.drain ticket).1

theorem drained?_of_turn {s : Session} {a : Action} {now : Instant} {flag : Flag.Reading}
    (turn : s.turn? a = some (now, flag)) :
    s.drained? a = (s.pollOn now flag).gate.subscription.map fun ticket =>
      ((s.commit (s.pollOn now flag)).bus.drain ticket).1 := by
  rw [drained?, turn]
  rfl

/-- The tick takes offence at no event, and applies as many frames as it drained events. -/
structure TakesWhole (s : Session) (a : Action) (tick : Tick Ticket) : Prop where
  sound : ∀ reason, tick.report.drainError ≠ some (.malformed reason)
  whole : ∀ events, s.drained? a = some (.ok events) →
    tick.report.applied = events.length ∧ tick.report.drainError = none

/-- A tick has an error only from what it drained. -/
theorem report_cases {s : Session} {a : Action} {now : Instant} {flag : Flag.Reading}
    (turn : s.turn? a = some (now, flag)) :
    s.drained? a = none ∧ (s.tickOn now flag).1.report.drainError = none ∨
      ∃ drained, s.drained? a = some drained ∧ (s.tickOn now flag).1.report =
        ((s.overlay.afterPoll (s.pollOn now flag)).refresh now (s.pollOn now flag).transition
          drained).report := by
  rw [drained?_of_turn turn]
  cases held : (s.pollOn now flag).gate.subscription with
  | none =>
    left
    have idle : (s.turnOn now flag).left.isActive = false := by
      rw [Overlay.Turn.isActive_left]
      exact Gate.isActive_of_none held
    have report : (s.tickOn now flag).1.report = _ := Overlay.Turn.report_of_idle idle
    rw [report]
    exact ⟨rfl, rfl⟩
  | some ticket =>
    right
    exact ⟨_, rfl, Overlay.Turn.report_of_held (t := s.turnOn now flag) held⟩

/-! ## What is unread -/

/-- On the channel `c` of the overlay, the events that are unread in its mailbox satisfy `P`. -/
structure Supplied (P : Event → Prop) (c : String) (s : Session) : Prop where
  channel : s.gateSettings.channel = c
  issued : s.Issued
  unread : ∀ m, s.mailbox? = some m → m.channel = c ∧ ∀ e ∈ m.unreadEvents, P e

variable {P : Event → Prop} {c : String} {s : Session}

theorem supplied_new (P : Event → Prop) (settings : Overlay.Settings) (queueCapacity : Nat) :
    Supplied P settings.gate.channel (new settings queueCapacity) where
  channel := rfl
  issued t h := by cases h
  unread m h := by cases h

namespace Supplied

/-- So do those that a tick drains: the mailbox may be a new one. -/
theorem drainable (h : Supplied P c s) (now : Instant) (flag : Flag.Reading) :
    ∀ m, s.drainable? now flag = some m → m.channel = c ∧ ∀ e ∈ m.unreadEvents, P e := by
  intro m hm
  unfold drainable? at hm
  split at hm
  · cases hm
    refine ⟨?_, by simp [Mailbox.unreadEvents_opened]⟩
    rw [← h.channel]
    unfold Bus.opened
    split <;> rfl
  · cases hm
  · exact h.unread m hm

theorem tickOn (h : Supplied P c s) (now : Instant) (flag : Flag.Reading) :
    Supplied P c (s.tickOn now flag).2 where
  channel := by
    rw [gateSettings, tickOn_gate, pollOn, Gate.poll_settings]
    exact h.channel
  issued := h.issued.tickOn now flag
  unread m hm := by
    rw [mailbox?_tickOn] at hm
    obtain ⟨found, hfound, rfl⟩ := Option.map_eq_some_iff.mp hm
    obtain ⟨hchannel, hevents⟩ := h.drainable now flag found hfound
    exact ⟨by simpa using hchannel, fun e he => hevents e (Mailbox.mem_drain he)⟩

theorem bus (h : Supplied P c s) {op : Op} (hop : ∀ e, op = .publish c e → P e) :
    Supplied P c (s.perform (.bus op)) := by
  refine { h with issued := h.issued.bus op, unread := ?_ }
  intro m hm
  cases held : s.overlay.gate.subscription with
  | none =>
    rw [mailbox?, perform, held] at hm
    cases hm
  | some t =>
    rw [h.issued.mailbox?_bus held] at hm
    split at hm
    · cases hm
    · obtain ⟨found, hfound, rfl⟩ := Option.map_eq_some_iff.mp hm
      obtain ⟨hchannel, hevents⟩ := h.unread found hfound
      refine ⟨by rw [(Mailbox.meet_kind _ _ _ _).1, hchannel], fun e he => ?_⟩
      rcases Mailbox.mem_meet he with hold | hnew
      · exact hevents e hold
      · exact hop e (by rw [hnew, hchannel])

/-- One action keeps what is unread supplied with such events. -/
theorem step (h : Supplied P c s) {a : Action} (ha : ∀ e, a = .bus (.publish c e) → P e) :
    Supplied P c (s.perform a) := by
  cases a with
  | tick now => exact h.tickOn now _
  | tickOn now flag => exact h.tickOn now flag
  | set key value => exact { h with }
  | unset key => exact { h with }
  | fail on => exact { h with }
  | refuse on => exact { h with }
  | bus op => exact h.bus fun e hop => ha e (by rw [hop])

/-- What a tick drains is events that were unread, or an error of the mailbox. -/
theorem drained (h : Supplied P c s) {a : Action} {drained : Except BusError (List Event)}
    (hdrained : s.drained? a = some drained) :
    (∀ events, drained = .ok events → ∀ e ∈ events, P e) ∧
      ∀ reason, drained ≠ .error (.malformed reason) := by
  obtain ⟨⟨now, flag⟩, -, hticket⟩ := Option.bind_eq_some_iff.mp hdrained
  obtain ⟨ticket, held, rfl⟩ := Option.map_eq_some_iff.mp hticket
  have hfound := s.drainable?_eq now flag
  rw [held, Option.bind_some] at hfound
  rw [Bus.drain_answer, hfound]
  cases hm : s.drainable? now flag with
  | none => simp
  | some m =>
    have hevents := (h.drainable now flag m hm).2
    refine ⟨fun events hok => ?_, fun reason => m.drain_ne_malformed reason⟩
    rwa [Mailbox.eq_of_drain hok]

theorem takesWhole (h : Supplied Single c s) {a : Action} {tick : Tick Ticket}
    (hticks : s.tick? a = some tick) : s.TakesWhole a tick := by
  obtain ⟨now, flag, hturn⟩ := turn_of_tick? hticks
  cases hticks.symm.trans (tickOn_of_turn hturn).1
  rcases report_cases hturn with ⟨hnone, herror⟩ | ⟨drained, hdrained, hreport⟩
  · rw [← Option.not_isSome_iff_eq_none] at hnone
    refine ⟨fun reason => by simp [herror], fun events hevents => ?_⟩
    simp [hevents] at hnone
  · obtain ⟨hsingle, hsound⟩ := h.drained hdrained
    cases drained with
    | error e =>
      refine ⟨fun reason hreason => ?_, fun events hevents => ?_⟩
      · rw [hreport, Overlay.refresh_error] at hreason
        cases hreason
        exact hsound reason rfl
      · rw [hdrained] at hevents
        cases hevents
    | ok events =>
      have hwhole := Overlay.refresh_of_single (s.overlay.afterPoll (s.pollOn now flag)) now
        (s.pollOn now flag).transition (hsingle events rfl)
      rw [← hreport] at hwhole
      refine ⟨fun reason => by simp [hwhole.2], fun events' hevents => ?_⟩
      rw [hdrained] at hevents
      cases hevents
      exact hwhole

end Supplied

/-! ## Runs -/

/-- Nothing but playbacks publish on `c`. -/
def PlaysOnly (c : String) (actions : List Action) : Prop :=
  ∀ e, .bus (.publish c e) ∈ actions → Played e

/-- Whatever is published on its channel, that is what an overlay finds unread. -/
theorem trace_supplied (settings : Overlay.Settings) (queueCapacity : Nat) {actions : List Action}
    (hP : ∀ e, .bus (.publish settings.gate.channel e) ∈ actions → P e) :
    ∀ t ∈ trace perform (new settings queueCapacity) actions,
      Supplied P settings.gate.channel t.found := by
  intro t ht
  obtain ⟨before, after, cut⟩ := List.append_of_mem ht
  have hinputs := map_input_trace perform (new settings queueCapacity) actions
  refine trace_invariant (fun past s => (∀ t' ∈ past, t'.input ∈ actions) →
    Supplied P settings.gate.channel s) ?_ ?_ cut ?_
  · intro past t' hkept hpast
    have hbefore := hkept fun t'' h => hpast t'' (List.mem_append_left _ h)
    refine hbefore.step fun e he => hP e ?_
    rw [← he]
    exact hpast t' (by simp)
  · intro _
    exact supplied_new P settings queueCapacity
  · intro t' h
    rw [← hinputs, cut]
    exact List.mem_map_of_mem (List.mem_append_left _ h)

/-- **A played capture is taken in whole.** Every frame of a capture is well-formed, whatever the text. So
along every run in which nothing but playbacks of captures publish on its channel, no tick of an overlay
finds fault with an event, and each tick applies as many frames as it drained events. -/
theorem playback_taken_whole (settings : Overlay.Settings) (queueCapacity : Nat) :
    (∀ text records, Capture.parse text = .ok records → ∀ r ∈ records, r.frame.fault? = none) ∧
    ∀ actions, PlaysOnly settings.gate.channel actions →
      ∀ t ∈ trace perform (new settings queueCapacity) actions,
        ∀ tick, t.found.tick? t.input = some tick → t.found.TakesWhole t.input tick := by
  refine ⟨fun text records hparse => Capture.fault?_of_parse hparse, ?_⟩
  intro actions hplays t ht tick hticks
  have hsupplied := trace_supplied (P := Single) settings queueCapacity
    (fun e he => (hplays e he).single) t ht
  exact hsupplied.takesWhole hticks

/-! A capture of one untimed record is repeated, while someone else publishes on another channel what no
controller can have produced. -/

def replayed : List Action :=
  [.set "ShowDebugInfo" true, .tick ⟨0⟩, .bus (.publish "can" (.ofFrames [⟨0, 1, [0xAA]⟩])),
    .bus (.publish "log" (.ofFrames [⟨0, 0x20000000, []⟩])),
    .bus (.publish "can" (.ofFrames [⟨0, 1, [0xAA]⟩])), .tick ⟨300000000⟩]

theorem playback_taken_whole_repeated :
    (Capture.parse "1#AA".toList = .ok [⟨none, ⟨0, 1, [0xAA]⟩⟩] ∧
      ∀ r ∈ [(⟨none, ⟨0, 1, [0xAA]⟩⟩ : Capture.Record)], r.frame.fault? = none) ∧
    PlaysOnly "can" replayed ∧
    (∀ t ∈ trace perform (new queueing 4) replayed,
      ∀ tick, t.found.tick? t.input = some tick → t.found.TakesWhole t.input tick) ∧
    ((new queueing 4).ticks replayed).map
      (fun t => (t.report.applied, t.report.drainError)) = [(0, none), (2, none)] := by
  have parsed : Capture.parse "1#AA".toList = .ok [⟨none, ⟨0, 1, [0xAA]⟩⟩] := by rfl
  have plays : PlaysOnly "can" replayed := by
    intro e he
    have same : e = .ofFrames [⟨0, 1, [0xAA]⟩] := by simpa [replayed] using he
    exact ⟨_, _, Capture.dayHorizon, true, 0, 2, ⟨100, _⟩, parsed, by decide +kernel, same⟩
  have whole := playback_taken_whole queueing 4
  exact ⟨⟨parsed, whole.1 _ _ parsed⟩, plays, whole.2 _ plays, by decide⟩

end Session

end CanScope
