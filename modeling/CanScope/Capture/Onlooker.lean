import CanScope.Capture.Playback
import CanScope.Time.Alarm

/-!
# Looking on while a capture is played

A publisher pauses where it has to wait, and after `burst` records without a pause. `observe` is what
an onlooker sees who leaves at a time limit, or after a number of events. They act in pauses alone, and
are told of the limit by an alarm: it counts as reached when that alarm rings before the publisher's.
-/
namespace CanScope.Capture

/-- The most records that a publisher gets through without a pause. -/
def burst : Nat := 128

structure Progress where
  /-- The present millisecond. -/
  clock : Nat
  sincePause : Nat
  out : Nat
  deriving DecidableEq, Repr

namespace Progress

def start : Progress := ⟨0, 0, 0⟩

def waits (p : Progress) (millis : Nat) : Bool := p.clock < millis

def pauses (p : Progress) (millis : Nat) : Bool := p.waits millis || burst ≤ p.sincePause

def publish (p : Progress) (millis : Nat) : Progress :=
  ⟨max p.clock millis, if p.pauses millis then 1 else p.sincePause + 1, p.out + 1⟩

end Progress

/-- Somebody who watches until millisecond `limit`, or until they have seen `room` events. -/
structure Onlooker where
  limit : Nat
  room : Nat
  listens : Bool
  deriving DecidableEq, Repr

namespace Onlooker

def isFull (o : Onlooker) (p : Progress) : Bool := o.room ≤ if o.listens then p.out else 0

/-- Whether the time limit is reached while the publisher waits for millisecond `millis`. -/
def isLate (o : Onlooker) (p : Progress) (millis : Nat) : Bool :=
  p.waits millis && !Alarm.ringsFirst p.clock millis o.limit

def leaves (o : Onlooker) (p : Progress) (millis : Nat) : Bool :=
  p.pauses millis && (o.isFull p || o.isLate p millis)

/-- What comes out of some publications while the onlooker stays, and the progress after the last of
them if they stay that long. -/
def attend (o : Onlooker) (p : Progress) : List Publication → List Publication × Option Progress
  | [] => ([], some p)
  | x :: rest =>
    if o.leaves p x.millis then ([], none)
    else
      let (seen, after) := o.attend (p.publish x.millis) rest
      (x :: seen, after)

end Onlooker

/-- What came out while an onlooker stayed, and how the playback ended if it did so by then. -/
structure Observation where
  seen : List Publication
  ending : Option Ending
  deriving DecidableEq, Repr

/-- What comes out from the pass on that begins now. One who listens leaves before `room + burst` events
are out. For one who does not, passes are alike: if so many have not ended the playback none will. -/
def watchFrom (horizon : Nat) (records : List Record) (again : Bool) (o : Onlooker) (p : Progress) :
    Observation :=
  let run := pass horizon p.clock records
  match o.attend p run.published with
  | (seen, none) => ⟨seen, none⟩
  | (seen, some after) =>
    match run.ending? again with
    | some ending => ⟨seen, some ending⟩
    | none =>
      if _ : p.out < after.out ∧ p.out < o.room + burst then
        let later := watchFrom horizon records again o after
        { later with seen := seen ++ later.seen }
      else ⟨seen, none⟩
termination_by o.room + burst - p.out
decreasing_by rename_i h; exact Nat.sub_lt_sub_left h.2 h.1

/-- What an onlooker sees of a playback that begins at millisecond zero. They take note of as many
events as they have room for. -/
def observeWithin (horizon : Nat) (records : List Record) (again : Bool) (o : Onlooker) :
    Observation :=
  if records.isEmpty then ⟨[], some .emptyCapture⟩
  else
    let all := watchFrom horizon records again o .start
    { all with seen := if o.listens then all.seen.take o.room else [] }

def observe (records : List Record) (again : Bool) (o : Onlooker) : Observation :=
  observeWithin dayHorizon records again o

end CanScope.Capture
