import CanScope.Cache.Recency
import CanScope.Cache.Store

/-!
# The cache

A store and an order of use that are kept in step: a key that the order evicts leaves the store, and
a sweep drops stale frames from both. The order tracks twice as many keys as are displayed, so the
cache stays bounded however many keys are on the bus.
-/
namespace CanScope

structure Cache where
  store : Store
  recency : Recency
  /-- The rows that a snapshot shows, at least one. -/
  displayLimit : Nat
  /-- The age beyond which a frame is stale. -/
  staleTimeout : Span
  deriving DecidableEq, Repr

namespace Cache

def defaultDisplayLimit : Nat := 20

def defaultStaleTimeout : Span := .ofSeconds 2

def maxCount : Nat := Nat.pow 2 64 - 1

/-- The keys tracked for a number of rows. -/
def capacityFor (displayLimit : Nat) : Nat := min (2 * displayLimit) maxCount

/-- An empty cache; a display limit of zero counts as one. -/
def new (displayLimit : Nat) (staleTimeout : Span) : Cache :=
  let limit := max displayLimit 1
  ⟨.empty, .withCapacity (capacityFor limit), limit, staleTimeout⟩

def default : Cache := new defaultDisplayLimit defaultStaleTimeout

def get? (c : Cache) (k : Key) : Option Frame := c.store.get? k

def size (c : Cache) : Nat := c.store.size

/-- Whether neither the store nor the order holds anything. -/
def isEmpty (c : Cache) : Bool := c.store.isEmpty && c.recency.isEmpty

/-- The key that applying `f` evicts. -/
def evicts (c : Cache) (f : Frame) : Option Key := c.recency.evicts f.key

/-- Stores `f` as the latest frame of its key and makes that key the most recently used. -/
def apply (c : Cache) (f : Frame) : Cache :=
  let stored := c.store.insert f
  { c with
    recency := c.recency.touch f.key
    store := match c.evicts f with
      | some k => stored.erase k
      | none => stored }

def applyAll (c : Cache) (frames : List Frame) : Cache := frames.foldl apply c

/-- The number of frames that a sweep at `now` removes. -/
def staleCount (c : Cache) (now : Instant) : Nat :=
  (c.store.keysWhere (·.isStale now c.staleTimeout)).length

/-- Removes every frame that is stale at `now`. -/
def sweep (c : Cache) (now : Instant) : Cache :=
  let store := c.store.eraseWhere (·.isStale now c.staleTimeout)
  { c with store, recency := c.recency.retain store.contains }

def clear (c : Cache) : Cache := { c with store := .empty, recency := c.recency.clear }

@[simp] theorem applyAll_nil (c : Cache) : c.applyAll [] = c := rfl

@[simp] theorem applyAll_cons (c : Cache) (f : Frame) (fs : List Frame) :
    c.applyAll (f :: fs) = (c.apply f).applyAll fs := rfl

theorem applyAll_append (c : Cache) (fs gs : List Frame) :
    c.applyAll (fs ++ gs) = (c.applyAll fs).applyAll gs := List.foldl_append

end Cache

end CanScope
