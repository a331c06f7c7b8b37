import CanScope.Cache.Basic

/-!
# Snapshots

What any surface draws: styled rows, most recently used key first, and the number of frames held. A
key that the order tracks and the store does not hold makes no row.
-/
namespace CanScope

structure Row where
  frame : Frame
  style : Style
  deriving DecidableEq, Repr

structure Snapshot where
  rows : List Row
  /-- The frames held, also those without a row. -/
  total : Nat
  deriving DecidableEq, Repr

namespace Row

/-- The bus right-justified in two columns, the address, and the payload. -/
def line (r : Row) : String :=
  String.ofList (Text.padStart 2 ' ' (Nat.toDigits 10 r.frame.key.bus.toNat)) ++ "   " ++
    Key.addressText r.frame.key.address ++ "  " ++ r.frame.dataText

end Row

namespace Snapshot

def empty : Snapshot := ⟨[], 0⟩

def isEmpty (s : Snapshot) : Bool := s.rows.isEmpty

def countLabel (s : Snapshot) : String := "Messages: " ++ toString s.total

end Snapshot

/-- The first `limit` rows of the cache at `now`. -/
def Cache.snapshot (c : Cache) (now : Instant) (limit : Nat) : Snapshot where
  rows := ((c.recency.order.filterMap c.get?).take limit).map fun f =>
    ⟨f, f.style now c.staleTimeout⟩
  total := c.size

end CanScope
