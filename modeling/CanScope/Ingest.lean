import CanScope.Cache.Basic
import CanScope.Log.Notice

/-!
# Taking events into the cache

`Cache.ingest` applies the received frames of the events of one drain, all stamped with the same
moment. It is all or nothing: every frame is checked before the first is applied. Events of other
kinds are passed over, whatever they carry.
-/
namespace CanScope

/-- A received frame as the cache holds it. -/
def CanFrame.toFrame (f : CanFrame) (now : Instant) (valid : Bool) : Frame :=
  ⟨f.key, f.data, now, valid⟩

/-- The received frames of `events`, in order, stamped with `now` and the validity of their event. -/
def Event.stamped (events : List Event) (now : Instant) : List Frame :=
  events.flatMap fun e => e.canFrames.map (·.toFrame now e.valid)

def Event.fault? (events : List Event) : Option CanFrame.Fault :=
  (events.flatMap Event.canFrames).findSome? CanFrame.fault?

namespace Cache

def applyNotices (c : Cache) (received : CanFrame) (f : Frame) : List Notice :=
  .received received :: (c.evicts f).toList.map .evicted

/-- Applies received frames in order and collects what is reported. -/
def applyReceived (c : Cache) (now : Instant) : List (CanFrame × Bool) → Cache × List Notice
  | [] => (c, [])
  | (received, valid) :: rest =>
    let f := received.toFrame now valid
    let (c', notices) := (c.apply f).applyReceived now rest
    (c', c.applyNotices received f ++ notices)

structure Ingested where
  cache : Cache
  /-- The number of frames applied, or why none were. -/
  result : Except BusError Nat
  notices : List Notice

def ingest (c : Cache) (now : Instant) (drained : Except BusError (List Event)) : Ingested :=
  match drained with
  | .error e => ⟨c, .error e, []⟩
  | .ok events =>
    match Event.fault? events with
    | some fault => ⟨c, .error (.malformed fault.message), []⟩
    | none =>
      let received := events.flatMap fun e => e.canFrames.map (·, e.valid)
      let (c', notices) := c.applyReceived now received
      ⟨c', .ok received.length, notices⟩

def sweepNotices (c : Cache) (now : Instant) : List Notice :=
  if c.staleCount now = 0 then [] else [.reaped (c.staleCount now)]

theorem applyReceived_fst (c : Cache) (now : Instant) (received : List (CanFrame × Bool)) :
    (c.applyReceived now received).1 =
      c.applyAll (received.map fun r => r.1.toFrame now r.2) := by
  induction received generalizing c with
  | nil => rfl
  | cons r rest ih =>
    obtain ⟨f, valid⟩ := r
    simpa [applyReceived] using ih _

end Cache

end CanScope
