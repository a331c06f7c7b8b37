import CanScope.Frame.Key
import CanScope.Time.Span

/-!
# Frames, their age and their style

A frame is the latest payload of a key with the moment it came in. It is stale once it is older than
the timeout; a frame exactly as old as the timeout is not. Staleness decides its style before
validity does, and validity is what the publisher said of it.
-/
namespace CanScope

structure Frame where
  key : Key
  payload : List UInt8
  stamp : Instant
  valid : Bool
  deriving DecidableEq, Repr

/-- How a row is drawn. -/
inductive Style where
  | fresh | stale | invalid
  deriving DecidableEq, Repr

namespace Frame

/-- The time since the frame came in, zero if `now` is earlier. -/
def age (f : Frame) (now : Instant) : Span := now.since f.stamp

def isStale (f : Frame) (now : Instant) (timeout : Span) : Bool := decide (timeout < f.age now)

theorem isStale_iff (f : Frame) (now : Instant) (timeout : Span) :
    f.isStale now timeout = true ↔ timeout.nanos < now.nanos - f.stamp.nanos := by
  simp [isStale, age]

def style (f : Frame) (now : Instant) (timeout : Span) : Style :=
  if f.isStale now timeout then .stale else if f.valid then .fresh else .invalid

theorem style_of_not_stale {f : Frame} {now : Instant} {timeout : Span}
    (h : f.isStale now timeout = false) :
    f.style now timeout = if f.valid then .fresh else .invalid := by
  rw [style, h]
  rfl

theorem style_eq_stale_iff (f : Frame) (now : Instant) (timeout : Span) :
    f.style now timeout = .stale ↔ f.isStale now timeout = true := by
  cases hstale : f.isStale now timeout with
  | true => simp [style, hstale]
  | false =>
    rw [style_of_not_stale hstale]
    cases f.valid <;> simp

/-- The payload as spaced hexadecimal. -/
def dataText (f : Frame) : String := Text.spacedHex f.payload

end Frame

end CanScope
