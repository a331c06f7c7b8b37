import CanScope.Frame.Key

/-!
# The order of use

A bounded list of distinct keys, most recently used first. Touching a key moves it to the front; if
the key is new and the list is full, the key at the back is evicted.
-/
namespace CanScope

structure Recency where
  /-- Most recently used first. -/
  order : List Key
  /-- The most keys that are tracked, at least one. -/
  capacity : Nat
  deriving DecidableEq, Repr

namespace Recency

/-- Nothing tracked; a capacity of zero counts as one. -/
def withCapacity (capacity : Nat) : Recency := ⟨[], max capacity 1⟩

def contains (r : Recency) (k : Key) : Bool := r.order.contains k

def size (r : Recency) : Nat := r.order.length

def isEmpty (r : Recency) : Bool := r.order.isEmpty

/-- The key that touching `k` evicts. -/
def evicts (r : Recency) (k : Key) : Option Key :=
  if r.contains k then none else if r.capacity ≤ r.size then r.order.getLast? else none

/-- Makes `k` the most recently used key. -/
def touch (r : Recency) (k : Key) : Recency :=
  { r with order := (k :: r.order.filter (· ≠ k)).take r.capacity }

def erase (r : Recency) (k : Key) : Recency := { r with order := r.order.filter (· ≠ k) }

/-- Keeps the keys that satisfy `p`, in their order. -/
def retain (r : Recency) (p : Key → Bool) : Recency := { r with order := r.order.filter p }

def clear (r : Recency) : Recency := { r with order := [] }

@[simp] theorem touch_capacity (r : Recency) (k : Key) : (r.touch k).capacity = r.capacity := rfl

@[simp] theorem retain_capacity (r : Recency) (p : Key → Bool) :
    (r.retain p).capacity = r.capacity := rfl

theorem size_touch_le (r : Recency) (k : Key) : (r.touch k).size ≤ r.capacity := by
  simp only [size, touch, List.length_take]
  exact Nat.min_le_left _ _

end Recency

end CanScope
