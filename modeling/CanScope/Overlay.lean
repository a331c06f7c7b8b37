import CanScope.Gate
import CanScope.Ingest
import CanScope.Screen.Snapshot

/-!
# The overlay

A gate and the cache that its subscription feeds. A tick runs in strict order: poll the gate (a gate
that goes idle empties the cache), drain the subscription into the cache, sweep stale frames, and
take a snapshot. While idle nothing but the poll happens. A drain that fails is reported and counts
as an empty one.
-/
namespace CanScope

structure Overlay.Settings where
  displayLimit : Nat
  /-- The age beyond which frames are reaped. -/
  staleTimeout : Span
  gate : Gate.Settings
  deriving DecidableEq, Repr

def Overlay.Settings.default : Overlay.Settings :=
  ⟨Cache.defaultDisplayLimit, Cache.defaultStaleTimeout, .default⟩

structure Overlay (σ : Type) where
  gate : Gate σ
  cache : Cache
  deriving DecidableEq, Repr

structure TickReport where
  transition : Transition
  /-- Frames applied by the drain. -/
  applied : Nat
  /-- Frames removed by the sweep. -/
  reaped : Nat
  drainError : Option BusError
  snapshot : Snapshot
  deriving DecidableEq, Repr

/-- An overlay after a tick, or after a part of one. -/
structure Tick (σ : Type) where
  overlay : Overlay σ
  report : TickReport
  notices : List Notice

namespace Overlay

variable {σ : Type}

def new (settings : Settings) : Overlay σ :=
  ⟨.new settings.gate, .new settings.displayLimit settings.staleTimeout⟩

def isActive (o : Overlay σ) : Bool := o.gate.isActive

def snapshot (o : Overlay σ) (now : Instant) : Snapshot := o.cache.snapshot now o.cache.displayLimit

def afterPoll (o : Overlay σ) (p : Poll σ) : Overlay σ :=
  ⟨p.gate, if p.transition = .deactivated then o.cache.clear else o.cache⟩

/-- The part of a tick that follows the poll: takes in what the drain gave, sweeps, and looks. -/
def refresh (o : Overlay σ) (now : Instant) (transition : Transition)
    (drained : Except BusError (List Event)) : Tick σ :=
  let ingested := o.cache.ingest now drained
  let swept := ingested.cache.sweep now
  let shown : Overlay σ := { o with cache := swept }
  let snapshot := shown.snapshot now
  let (applied, error, failure) : Nat × Option BusError × List Notice :=
    match ingested.result with
    | .ok n => (n, none, [])
    | .error e => (0, some e, [.drainFailed e])
  { overlay := shown
    report := ⟨transition, applied, ingested.cache.staleCount now, error, snapshot⟩
    notices := ingested.notices ++ failure ++ ingested.cache.sweepNotices now ++
      (if 0 < snapshot.total then [.rendering snapshot.total] else []) }

/-- The part of a tick that follows a poll which leaves the gate idle. -/
def rest (o : Overlay σ) (transition : Transition) : Tick σ := ⟨o, ⟨transition, 0, 0, none, .empty⟩, []⟩

/-- The part of a tick that follows the poll; `drain` is what draining a subscription would give. -/
def finish (o : Overlay σ) (now : Instant) (p : Poll σ)
    (drain : σ → Except BusError (List Event)) : Tick σ :=
  let polled := o.afterPoll p
  let t :=
    match polled.gate.subscription with
    | none => polled.rest p.transition
    | some s => polled.refresh now p.transition (drain s)
  { t with notices := p.notices ++ t.notices }

def tick (o : Overlay σ) (now : Instant) (answers : Answers σ)
    (drain : σ → Except BusError (List Event)) : Tick σ :=
  o.finish now (o.gate.poll now answers) drain

end Overlay

end CanScope
