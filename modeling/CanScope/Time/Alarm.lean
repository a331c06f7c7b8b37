/-!
# Which of two alarms rings first

A clock that ticks in milliseconds keeps its alarms by blocks of `blockSize` milliseconds. An alarm in
the present block rings in its millisecond, and the others wait. They lie in `drawers` drawers: a
drawer holds the alarms of every block whose number leaves the same remainder, so drawers are used in
rounds. When the present block has no alarm left, the clock moves on to the next opening of a drawer,
where what is due rings, the alarms of the block that begins become present, and the others stay.

The drawer that is opened next is the first that is not empty, from the present one on. The present
drawer comes first although it is opened a round later: an alarm there that is a round or more ahead
hides those in other drawers, and they ring late. `ringsFirst_iff`: less than a round ahead, alarms
ring in their order. No alarm is set for a millisecond beyond `latest`.
-/
namespace CanScope.Alarm

def blockSize : Nat := Nat.pow 2 30

/-- The number of drawers, and the blocks of a round. -/
def drawers : Nat := 64

def block (millis : Nat) : Nat := millis / blockSize

/-- How far ahead of the present drawer the drawer of a millisecond is. -/
def ahead (now millis : Nat) : Nat := (block millis + (drawers - block now % drawers)) % drawers

/-- When the drawer of a millisecond is opened next. -/
def opening (now millis : Nat) : Nat :=
  let blocks := ahead now millis
  (block now + if blocks = 0 then drawers else blocks) * blockSize

def latest : Nat := Nat.pow 2 64 - 3

/-- Whether an alarm for the later millisecond `a` rings no later than one that was set for `b`. -/
def ringsFirst (now a b : Nat) : Bool :=
  let a := min a latest
  let b := min b latest
  if block b = block now then a ≤ b
  else if block a = block now then true
  else if ahead now a = ahead now b then a ≤ max b (opening now b)
  else ahead now a < ahead now b

theorem ahead_of_lt {now millis : Nat} (h : block now ≤ block millis)
    (near : block millis < block now + drawers) : ahead now millis = block millis - block now := by
  unfold ahead drawers at *
  omega

/-- Less than a round ahead, alarms ring in their order. -/
theorem ringsFirst_iff {now a b : Nat} (ha : now ≤ a) (hb : now ≤ b)
    (na : block a < block now + drawers) (nb : block b < block now + drawers) (ma : a ≤ latest)
    (mb : b ≤ latest) : ringsFirst now a b = true ↔ a ≤ b := by
  have la : block now ≤ block a := Nat.div_le_div_right ha
  have lb : block now ≤ block b := Nat.div_le_div_right hb
  unfold ringsFirst opening
  simp only [Nat.min_eq_left ma, Nat.min_eq_left mb, ahead_of_lt la na, ahead_of_lt lb nb]
  unfold block blockSize drawers at *
  simp only [Nat.pow_eq, Nat.reducePow] at *
  split
  · simp
  · split
    · simp; omega
    · split
      · simp only [decide_eq_true_eq]
        split <;> omega
      · simp only [decide_eq_true_eq]
        omega

end CanScope.Alarm
