import CanScope.Bus.Basic
import CanScope.Overlay

/-!
# An overlay on a bus

A session is an overlay together with the bus that it subscribes to and the flags that it reads.
Reads can be made to fail, and subscriptions to be refused, as a broken source or a lost connection
would. The session counts what it asked of its surroundings.
-/
namespace CanScope

/-- What was asked of the surroundings, oldest first. -/
structure Requests where
  reads : List String
  /-- The subscriptions asked for: channel, and whether to conflate. -/
  subscribes : List (String × Bool)
  /-- The number of drains. -/
  drains : Nat
  deriving DecidableEq, Repr

structure Session where
  overlay : Overlay Ticket
  bus : Bus
  flags : FlagTable
  failing : Bool
  refusing : Bool
  requests : Requests
  deriving DecidableEq, Repr

namespace Session

def new (settings : Overlay.Settings) (queueCapacity : Nat) : Session :=
  ⟨.new settings, .withQueueCapacity queueCapacity, .empty, false, false, ⟨[], [], 0⟩⟩

def gateSettings (s : Session) : Gate.Settings := s.overlay.gate.settings

def flag (s : Session) (key : String) : Flag.Reading :=
  if s.failing then .error (.unrecognized key "??") else .ok (s.flags.get? key)

/-- Reads the flag of the gate, outside a poll. -/
def readFlag (s : Session) : Flag.Reading × Session :=
  let key := s.gateSettings.flagKey
  (s.flag key, { s with requests := { s.requests with reads := s.requests.reads ++ [key] } })

def subscription (s : Session) : Except BusError Ticket × Bus :=
  let g := s.gateSettings
  if s.refusing then (.error (.closed g.channel), s.bus)
  else
    let (ticket, bus) := s.bus.subscribe g.channel g.conflate
    (.ok ticket, bus)

def answersTo (s : Session) (flag : Flag.Reading) : Answers Ticket := ⟨flag, s.subscription.1⟩

def answers (s : Session) : Answers Ticket := s.answersTo (s.flag s.gateSettings.flagKey)

/-- The requests of a poll are counted, and the bus learns of a subscription taken or given up. -/
def commit (s : Session) (p : Poll Ticket) : Session :=
  let g := s.gateSettings
  let bus := if p.asked then s.subscription.2 else s.bus
  { s with
    bus := match p.released with
      | some t => bus.drop t
      | none => bus
    requests :=
      { s.requests with
        reads := if p.read then s.requests.reads ++ [g.flagKey] else s.requests.reads
        subscribes :=
          if p.asked then s.requests.subscribes ++ [(g.channel, g.conflate)]
          else s.requests.subscribes } }

def poll (s : Session) (now : Instant) : Poll Ticket × Session :=
  let p := s.overlay.gate.poll now s.answers
  (p, { s.commit p with overlay := { s.overlay with gate := p.gate } })

/-- Drains the subscription, if there is one. -/
def drain (s : Session) : Option (Except BusError (List Event)) × Session :=
  match s.overlay.gate.subscription with
  | none => (none, s)
  | some t =>
    let (drained, bus) := s.bus.drain t
    (some drained,
      { s with bus, requests := { s.requests with drains := s.requests.drains + 1 } })

/-- One tick of the overlay, where reading the flag gives `flag`. -/
def tickOn (s : Session) (now : Instant) (flag : Flag.Reading) : Tick Ticket × Session :=
  let answers := s.answersTo flag
  let p := s.overlay.gate.poll now answers
  let committed := s.commit p
  let t := s.overlay.tick now answers fun ticket => (committed.bus.drain ticket).1
  let drained := { committed with overlay := { s.overlay with gate := p.gate } }.drain.2
  (t, { drained with overlay := t.overlay })

def tick (s : Session) (now : Instant) : Tick Ticket × Session :=
  s.tickOn now (s.flag s.gateSettings.flagKey)

def publish (s : Session) (channel : String) (e : Event) : Session :=
  { s with bus := s.bus.publish channel e }

def close (s : Session) (channel : String) : Session := { s with bus := s.bus.close channel }

end Session

end CanScope
