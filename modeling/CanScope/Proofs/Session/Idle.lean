import CanScope.Proofs.Session.Run

/-!
# Traffic while idle is never seen

What is published while the gate is idle reaches nobody the overlay will ever drain: the subscription
that an activation takes starts behind all that was published before, and an idle overlay holds no
frames. So nothing that the overlay does tells whether there was such traffic.

**Two runs.** `audible` leaves out the publications that find the gate idle. Two runs with the same
audible actions differ in these only.

**Invariant (`Alike`).** The overlays and the flags are the same, and the buses agree on the
subscription held, if there is one. Their channels and their other mailboxes may differ. A
publication to an idle gate on one side alone keeps this (`Alike.hush`), as does any action on both
(`Alike.perform`).

**Results.**
* `idle_traffic_unseen`: two such runs have the same ticks, and an activation finds nothing.
-/
namespace CanScope

namespace Overlay

variable {σ : Type}

/-! ## An idle overlay -/

/-- Only the drain of the subscription held has a part in a tick. -/
theorem finish_congr (o : Overlay σ) (now : Instant) (p : Poll σ)
    {drain drain' : σ → Except BusError (List Event)}
    (same : ∀ s, p.gate.subscription = some s → drain s = drain' s) :
    o.finish now p drain = o.finish now p drain' := by
  simp only [finish, afterPoll]
  cases held : p.gate.subscription with
  | none => rfl
  | some s => simp only [same s held]

/-- While idle, there is nothing to clear. -/
def Rested (o : Overlay σ) : Prop := o.isActive = false → o.cache.clear = o.cache

theorem rested_new (settings : Settings) : (new settings : Overlay σ).Rested := fun _ => rfl

theorem Turn.rested_left {t : Turn σ} (h : t.found.Rested) : t.left.Rested := by
  intro idle
  rw [cache_of_idle idle, transition_eq, idle]
  cases was : t.found.isActive with
  | true => rfl
  | false => exact h was

/-- A cache with nothing in it has nothing to take in, to sweep or to show. -/
theorem refresh_of_bare {o : Overlay σ} (bare : o.cache.clear = o.cache) (now : Instant)
    (transition : Transition) :
    (o.refresh now transition (.ok [])).report = ⟨transition, 0, 0, none, .empty⟩ := by
  have ingested : (o.cache.ingest now (.ok [])).cache = o.cache := rfl
  have swept : o.cache.sweep now = o.cache := by rw [← bare]; rfl
  have stale : o.cache.staleCount now = 0 := by rw [← bare]; rfl
  have shown : o.cache.snapshot now o.cache.displayLimit = .empty := by
    rw [← bare, Cache.snapshot]
    exact congrArg₂ Snapshot.mk (congrArg _ (List.take_nil)) rfl
  simp only [refresh, snapshot, ingested, swept, stale, shown]
  rfl

/-- A rested overlay that activates on a subscription with nothing to drain has nothing to show. -/
theorem Turn.report_of_activated {t : Turn σ} (rested : t.found.Rested)
    (activated : t.report.transition = .activated) {s : σ}
    (held : t.left.gate.subscription = some s) (fresh : t.input.drain s = .ok []) :
    t.report = ⟨.activated, 0, 0, none, .empty⟩ := by
  have was : t.found.isActive = false := by
    have change := t.transition_eq
    rw [activated] at change
    cases was : t.found.isActive with
    | false => rfl
    | true =>
      rw [was] at change
      cases is : t.left.isActive <;> rw [is] at change <;> cases change
  rw [left_gate] at held
  rw [report_transition] at activated
  show (t.found.finish t.input.now t.poll t.input.drain).report = _
  simp only [finish, afterPoll, activated, held, fresh]
  exact refresh_of_bare (rested was) t.input.now .activated

end Overlay

namespace Session

open Bus (Op)

/-! ## What is heard -/

def Action.publishes : Action → Bool
  | .bus (.publish _ _) => true
  | _ => false

/-- The actions without the publications that find the gate idle. -/
def audible (s : Session) : List Action → List Action
  | [] => []
  | a :: rest =>
    if a.publishes && !s.overlay.isActive then (s.perform a).audible rest
    else a :: (s.perform a).audible rest

/-- The overlay cannot tell the sessions apart, now or later. -/
structure Alike (s s' : Session) : Prop where
  overlay : s.overlay = s'.overlay
  flags : s.flags = s'.flags
  failing : s.failing = s'.failing
  refusing : s.refusing = s'.refusing
  bus : Bus.AgreeOn (fun t => s.overlay.gate.subscription = some t) s.bus s'.bus

namespace Alike

theorem refl (s : Session) : Alike s s := ⟨rfl, rfl, rfl, rfl, rfl, rfl, fun _ _ => rfl⟩

variable {s s' : Session}

theorem gateSettings_eq (h : Alike s s') : s.gateSettings = s'.gateSettings := by
  rw [gateSettings, h.overlay, gateSettings]

theorem flag_eq (h : Alike s s') (key : String) : s.flag key = s'.flag key := by
  rw [flag, flag, h.failing, h.flags]

/-- New subscriptions get the same ticket. -/
theorem pollOn_eq (h : Alike s s') (now : Instant) (flag : Flag.Reading) :
    s.pollOn now flag = s'.pollOn now flag := by
  have ticket : s.subscription.1 = s'.subscription.1 := by
    rw [subscription, subscription, h.gateSettings_eq, h.refusing]
    split
    · rfl
    · show Except.ok (⟨s.bus.next⟩ : Ticket) = .ok ⟨s'.bus.next⟩
      rw [h.bus.next]
  rw [pollOn, pollOn, answersTo, answersTo, h.overlay, ticket]

/-- After a poll the buses agree on the subscription that is held then. -/
theorem commit (h : Alike s s') (now : Instant) (flag : Flag.Reading) :
    Bus.AgreeOn (fun t => (s.pollOn now flag).gate.subscription = some t)
      (s.commit (s.pollOn now flag)).bus (s'.commit (s.pollOn now flag)).bus := by
  have poll := h.pollOn_eq now flag
  by_cases activated : (s.pollOn now flag).transition = .activated
  · obtain ⟨held, opened⟩ := opened_of_activated activated
    have opened' := (opened_of_activated (poll ▸ activated)).2
    rw [← poll, ← h.gateSettings_eq] at opened'
    rw [opened, opened', held]
    refine (h.bus.subscribe _ _).mono fun t new => ?_
    cases new
    exact .inl rfl
  · have uses : s.uses (s.pollOn now flag) = s'.uses (s.pollOn now flag) := by
      rw [Session.uses, Session.uses, h.gateSettings_eq, h.refusing]
    rw [commit_bus, commit_bus, ← uses]
    refine (h.bus.run _).mono fun t held => ?_
    exact (Gate.held_or_activated held).resolve_right activated

theorem tickOn (h : Alike s s') (now : Instant) (flag : Flag.Reading) :
    (s.tickOn now flag).1 = (s'.tickOn now flag).1 ∧
      Alike (s.tickOn now flag).2 (s'.tickOn now flag).2 := by
  have poll := h.pollOn_eq now flag
  have agree := h.commit now flag
  have tick : (s.tickOn now flag).1 = (s'.tickOn now flag).1 := by
    show s.overlay.finish now (s.pollOn now flag)
        (fun t => ((s.commit (s.pollOn now flag)).bus.drain t).1) =
      s'.overlay.finish now (s'.pollOn now flag)
        (fun t => ((s'.commit (s'.pollOn now flag)).bus.drain t).1)
    rw [← poll, ← h.overlay]
    exact s.overlay.finish_congr now _ fun t held => agree.drain_eq held
  obtain ⟨flags, failing, refusing⟩ := s.tickOn_surroundings now flag
  obtain ⟨flags', failing', refusing'⟩ := s'.tickOn_surroundings now flag
  refine ⟨tick, ?_, ?_, ?_, ?_, ?_⟩
  · rw [tickOn_overlay, tickOn_overlay, tick]
  · rw [flags, flags', h.flags]
  · rw [failing, failing', h.failing]
  · rw [refusing, refusing', h.refusing]
  · have gate : (s.tickOn now flag).2.overlay.gate = (s.pollOn now flag).gate :=
      (s.turnOn now flag).left_gate
    rw [tickOn_bus, tickOn_bus, ← poll, gate]
    exact agree.run _

theorem perform (h : Alike s s') (a : Action) : Alike (s.perform a) (s'.perform a) := by
  cases a with
  | tick now =>
    have own : s'.tick now = s'.tickOn now (s.flag s.gateSettings.flagKey) := by
      rw [Session.tick, ← h.gateSettings_eq, ← h.flag_eq]
    show Alike (s.tick now).2 (s'.tick now).2
    rw [own]
    exact (h.tickOn now _).2
  | tickOn now flag => exact (h.tickOn now flag).2
  | set key value => exact { h with flags := congrArg (·.set key value) h.flags }
  | unset key => exact { h with flags := congrArg (·.unset key) h.flags }
  | fail on => exact { h with failing := rfl }
  | refuse on => exact { h with refusing := rfl }
  | bus op => exact { h with bus := h.bus.perform op }

theorem tick?_eq (h : Alike s s') (a : Action) : s.tick? a = s'.tick? a := by
  cases a with
  | tick now =>
    rw [tick?, tick?, Session.tick, Session.tick, ← h.gateSettings_eq, ← h.flag_eq,
      (h.tickOn now _).1]
  | tickOn now flag => rw [tick?, tick?, (h.tickOn now flag).1]
  | set key value => rfl
  | unset key => rfl
  | fail on => rfl
  | refuse on => rfl
  | bus op => rfl

/-- An idle gate has no mailbox for an event to reach. -/
theorem hush (h : Alike s s') (idle : s.overlay.isActive = false) {a : Action}
    (publishes : a.publishes = true) : Alike (s.perform a) s' ∧ s.tick? a = none := by
  obtain ⟨channel, e, rfl⟩ : ∃ channel e, a = .bus (.publish channel e) := by
    unfold Action.publishes at publishes
    split at publishes
    · exact ⟨_, _, rfl⟩
    · cases publishes
  refine ⟨{ h with bus := ⟨?_, ?_, fun t held => ?_⟩ }, rfl⟩
  · exact (Bus.perform_queueCapacity _ _).trans h.bus.queueCapacity
  · exact (Bus.perform_next _ _).trans h.bus.next
  · have active : s.overlay.isActive = true := Gate.isActive_of_some held
    rw [idle] at active
    cases active

end Alike

/-- The overlay ticks as if only the audible actions took place. -/
theorem ticks_audible {s s' : Session} (h : Alike s s') (actions : List Action) :
    s.ticks actions = s'.ticks (s.audible actions) := by
  induction actions generalizing s s' with
  | nil => rfl
  | cons a rest ih =>
    rw [audible]
    split
    · rename_i unheard
      rw [Bool.and_eq_true, Bool.not_eq_true'] at unheard
      obtain ⟨alike, silent⟩ := h.hush unheard.2 unheard.1
      rw [ticks, silent, ih alike]
      rfl
    · rw [ticks, ticks, h.tick?_eq, ih (h.perform a)]

/-! ## What an activation finds -/

theorem tickOn_activated {s : Session} (rested : s.overlay.Rested) (now : Instant)
    (flag : Flag.Reading) (activated : (s.tickOn now flag).1.report.transition = .activated) :
    (s.tickOn now flag).1.report = ⟨.activated, 0, 0, none, .empty⟩ := by
  rw [tickOn_eq] at activated ⊢
  have taken : (s.pollOn now flag).transition = .activated :=
    (s.turnOn now flag).report_transition.symm.trans activated
  obtain ⟨held, opened⟩ := opened_of_activated taken
  have left : (s.turnOn now flag).left.gate.subscription = some ⟨s.bus.next⟩ := by
    rw [(s.turnOn now flag).left_gate]
    exact held
  have fresh : (s.turnOn now flag).input.drain ⟨s.bus.next⟩ = .ok [] := by
    show ((s.commit (s.pollOn now flag)).bus.drain _).1 = _
    rw [opened, (s.bus.holds_subscribe _ _).drain_eq]
    cases s.gateSettings.conflate <;> rfl
  exact (s.turnOn now flag).report_of_activated rested activated left fresh

theorem rested_perform {s : Session} (rested : s.overlay.Rested) (a : Action) :
    (s.perform a).overlay.Rested := by
  cases a with
  | tick now => exact (s.turnOn now (s.flag s.gateSettings.flagKey)).rested_left rested
  | tickOn now flag => exact (s.turnOn now flag).rested_left rested
  | set key value => exact rested
  | unset key => exact rested
  | fail on => exact rested
  | refuse on => exact rested
  | bus op => exact rested

theorem ticks_activated {s : Session} (rested : s.overlay.Rested) (actions : List Action) :
    ∀ t ∈ s.ticks actions, t.report.transition = .activated →
      t.report = ⟨.activated, 0, 0, none, .empty⟩ := by
  induction actions generalizing s with
  | nil =>
    intro t ht
    cases ht
  | cons a rest ih =>
    intro t ht activated
    rw [ticks, List.mem_append, Option.mem_toList] at ht
    rcases ht with now | later
    · cases a with
      | tick now' =>
        cases now
        exact tickOn_activated rested _ _ activated
      | tickOn now' flag =>
        cases now
        exact tickOn_activated rested _ _ activated
      | set key value => cases now
      | unset key => cases now
      | fail on => cases now
      | refuse on => cases now
      | bus op => cases now
    · exact ih (rested_perform rested a) t later activated

/-- **Traffic while idle is never seen.** Two runs of a session that differ only in what is published
while the gate is idle have the same ticks: the same overlays, with gate and cache, the same reports
and the same notices. A tick that activates the gate has nothing to apply, to reap or to show. -/
theorem idle_traffic_unseen (settings : Overlay.Settings) (queueCapacity : Nat)
    (actions actions' : List Action)
    (same : (new settings queueCapacity).audible actions =
      (new settings queueCapacity).audible actions') :
    (new settings queueCapacity).ticks actions = (new settings queueCapacity).ticks actions' ∧
      ∀ t ∈ (new settings queueCapacity).ticks actions, t.report.transition = .activated →
        t.report = ⟨.activated, 0, 0, none, .empty⟩ := by
  constructor
  · rw [ticks_audible (Alike.refl _) actions, ticks_audible (Alike.refl _) actions', same]
  · exact ticks_activated (Overlay.rested_new settings) actions

/-! One event reaches an overlay that is switched on, off and on again. Others come before the first
tick and before the last. -/

def heardOnce : List Action :=
  [.set "ShowDebugInfo" true, .tick ⟨0⟩, .bus (.publish "can" (.ofFrames [⟨0, 2, []⟩])),
    .tick ⟨100000000⟩, .unset "ShowDebugInfo", .tick ⟨600000000⟩, .set "ShowDebugInfo" true]

def withTraffic : List Action :=
  .bus (.publish "can" (.ofFrames [⟨0, 1, []⟩])) :: heardOnce ++
    [.bus (.publish "can" (.ofFrames [⟨0, 3, []⟩])), .bus (.publish "sendcan" ⟨.sendcan [], true, 0⟩),
      .tick ⟨1200000000⟩]

def withoutTraffic : List Action := heardOnce ++ [.tick ⟨1200000000⟩]

theorem idle_traffic_unseen_reactivated :
    (new .default 4).audible withTraffic = (new .default 4).audible withoutTraffic ∧
    (new .default 4).ticks withTraffic = (new .default 4).ticks withoutTraffic ∧
    ((new .default 4).ticks withTraffic).map (fun t => (t.report.transition, t.report.applied)) =
      [(.activated, 0), (.unchanged, 1), (.deactivated, 0), (.activated, 0)] := by
  have same : (new .default 4).audible withTraffic = (new .default 4).audible withoutTraffic := by
    decide
  exact ⟨same, (idle_traffic_unseen .default 4 _ _ same).1, by decide⟩

end Session

end CanScope
