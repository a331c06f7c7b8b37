/-!
# Moments and lengths of time

Both are counted in whole nanoseconds: an `Instant` from a fixed start, a `Span` from zero. The
difference of two instants never runs below zero. `Span.limit` is the first length that does not
fit 64 bits of seconds; readers of text refuse it.
-/
namespace CanScope

/-- A length of time. -/
structure Span where
  nanos : Nat
  deriving DecidableEq, Repr, Inhabited

/-- A moment, as the time since a fixed start. -/
structure Instant where
  nanos : Nat
  deriving DecidableEq, Repr, Inhabited

namespace Span

def perSecond : Nat := 1000000000

def perMilli : Nat := 1000000

def perMicro : Nat := 1000

def zero : Span := ⟨0⟩

def ofSeconds (n : Nat) : Span := ⟨n * perSecond⟩

def ofMillis (n : Nat) : Span := ⟨n * perMilli⟩

/-- Whole seconds. -/
def seconds (s : Span) : Nat := s.nanos / perSecond

/-- The nanoseconds beyond the whole seconds. -/
def subsecond (s : Span) : Nat := s.nanos % perSecond

/-- No length of time that fits 64 bits of seconds reaches this. -/
def limit : Span := ⟨Nat.pow 2 64 * perSecond⟩

/-- The longest length that fits 64 bits of seconds. -/
def longest : Span := ⟨Nat.pow 2 64 * perSecond - 1⟩

instance : LT Span := ⟨fun a b => a.nanos < b.nanos⟩

instance : LE Span := ⟨fun a b => a.nanos ≤ b.nanos⟩

instance (a b : Span) : Decidable (a < b) := inferInstanceAs (Decidable (a.nanos < b.nanos))

instance (a b : Span) : Decidable (a ≤ b) := inferInstanceAs (Decidable (a.nanos ≤ b.nanos))

instance : Add Span := ⟨fun a b => ⟨a.nanos + b.nanos⟩⟩

/-- Subtraction stops at zero. -/
instance : Sub Span := ⟨fun a b => ⟨a.nanos - b.nanos⟩⟩

@[simp] theorem lt_def (a b : Span) : a < b ↔ a.nanos < b.nanos := Iff.rfl

@[simp] theorem le_def (a b : Span) : a ≤ b ↔ a.nanos ≤ b.nanos := Iff.rfl

@[simp] theorem add_nanos (a b : Span) : (a + b).nanos = a.nanos + b.nanos := rfl

@[simp] theorem sub_nanos (a b : Span) : (a - b).nanos = a.nanos - b.nanos := rfl

end Span

namespace Instant

/-- The time from `earlier` to `now`, zero if `earlier` is the later of the two. -/
def since (now earlier : Instant) : Span := ⟨now.nanos - earlier.nanos⟩

@[simp] theorem since_nanos (now earlier : Instant) :
    (now.since earlier).nanos = now.nanos - earlier.nanos := rfl

end Instant

end CanScope
