import CanScope.Capture.Basic
import CanScope.Log.Notice

/-!
# Playing a capture

Records are published in their order, each at its offset from the start of the pass, on a clock that
ticks in milliseconds. A timed record's offset is its time; untimed records follow each other every
100 ms from the start. A publisher that waits for a moment wakes at the first millisecond that is
not before it, and does not wait for a moment that has passed.

The clock counts seconds in 63 bits, and it was running before the playback began. So there is a
`horizon`, in nanoseconds from the start of the playback, that no moment may reach: a record whose
moment does stops the playback. A capture that is repeated starts its next pass when it published its
last record.
-/
namespace CanScope.Capture

def untimedPeriod : Span := .ofMillis 100

/-- The offset of each record from the start of its pass, when `waited` has gone by in untimed
records. -/
def offsets (waited : Span) : List Record → List (Span × CanFrame)
  | [] => []
  | r :: rest =>
    match r.at? with
    | some offset => (offset, r.frame) :: offsets waited rest
    | none => (waited + untimedPeriod, r.frame) :: offsets (waited + untimedPeriod) rest

/-- The horizon of a clock that has counted `counted` seconds when the playback begins. -/
def horizonAfter (counted : Nat) : Nat := (Nat.pow 2 63 - counted) * Span.perSecond

def dayHorizon : Nat := horizonAfter (24 * 60 * 60)

/-- The first millisecond that is not before `nanos`. -/
def wakeUp (nanos : Nat) : Nat := (nanos + Span.perMilli - 1) / Span.perMilli

structure Publication where
  millis : Nat
  frame : CanFrame
  deriving DecidableEq, Repr

structure Pass where
  published : List Publication
  /-- The offset that stopped the pass. -/
  blocked : Option Span
  deriving DecidableEq, Repr

/-- The publications of a pass that began at millisecond `start`, from millisecond `clock` on. -/
def passFrom (horizon start clock : Nat) : List (Span × CanFrame) → Pass
  | [] => ⟨[], none⟩
  | (offset, frame) :: rest =>
    let deadline := start * Span.perMilli + offset.nanos
    if horizon ≤ deadline then ⟨[], some offset⟩
    else
      let clock := max clock (wakeUp deadline)
      let later := passFrom horizon start clock rest
      { later with published := ⟨clock, frame⟩ :: later.published }

def pass (horizon start : Nat) (records : List Record) : Pass :=
  passFrom horizon start start (offsets .zero records)

/-- When a pass is over. -/
def Pass.finish (p : Pass) (start : Nat) : Nat :=
  match p.published.getLast? with
  | some publication => publication.millis
  | none => start

inductive Ending where
  | emptyCapture
  /-- An offset could not be scheduled. -/
  | blocked (offset : Span)
  | finished
  deriving DecidableEq, Repr

def Ending.notice : Ending → Notice
  | .emptyCapture => .emptyCapture
  | .blocked offset => .offsetOutOfRange offset
  | .finished => .captureFinished

def Pass.ending? (p : Pass) (again : Bool) : Option Ending :=
  match p.blocked with
  | some offset => some (.blocked offset)
  | none => if again then none else some .finished

end CanScope.Capture
