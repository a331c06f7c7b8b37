import CanScope.Capture.Playback

/-!
# A capture that is being played

A player is asked from time to time what is due, and hands out the frames whose millisecond has come.
A capture that is repeated starts anew when its last record was handed out, unless a record stopped it.
-/
namespace CanScope.Capture

structure Player where
  horizon : Nat
  records : List Record
  again : Bool
  start : Nat
  /-- What is left of the present pass. -/
  left : Pass
  deriving Repr

namespace Player

def new (horizon : Nat) (records : List Record) (again : Bool) : Player :=
  ⟨horizon, records, again, 0, pass horizon 0 records⟩

def now (p : Player) (clock : Nat) : List Publication :=
  p.left.published.takeWhile (·.millis ≤ clock)

/-- The player when that was handed out. -/
def rest (p : Player) (clock : Nat) : Player :=
  { p with left.published := p.left.published.dropWhile (·.millis ≤ clock) }

def isOver (p : Player) : Bool := p.again && p.left.published.isEmpty && p.left.blocked.isNone

/-- The player in a pass that begins at millisecond `start`. -/
def next (p : Player) (start : Nat) : Player :=
  { p with start, left := pass p.horizon start p.records }

theorem millis_le_of_now {p : Player} {clock : Nat} {x : Publication} (h : x ∈ p.now clock) :
    x.millis ≤ clock := by
  have all := List.all_eq_true.1 List.all_takeWhile x h
  exact of_decide_eq_true all

/-- What is due at millisecond `clock`, and the player after that. A pass that takes no time is played
once each time somebody asks. -/
def due (p : Player) (clock : Nat) : List CanFrame × Player :=
  let frames := (p.now clock).map (·.frame)
  match _ : (p.now clock).getLast? with
  | none => (frames, p)
  | some last =>
    if (p.rest clock).isOver then
      if _ : p.start < last.millis then
        let (more, player) := (p.next last.millis).due clock
        (frames ++ more, player)
      else (frames, p.next last.millis)
    else (frames, p.rest clock)
termination_by clock - p.start
decreasing_by
  rename_i isLast _ later
  have come := millis_le_of_now (List.mem_of_getLast? isLast)
  exact Nat.sub_lt_sub_left (Nat.lt_of_lt_of_le later come) later

end Player

end CanScope.Capture
