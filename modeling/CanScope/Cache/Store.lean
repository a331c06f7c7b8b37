import CanScope.Frame.Basic

/-!
# The latest frame of each key

A store holds at most one frame for a key. Its view is `get?`; `entries` has an entry for each key
in no order that means anything.
-/
namespace CanScope

structure Store where
  entries : List (Key × Frame)
  deriving DecidableEq, Repr

namespace Store

def empty : Store := ⟨[]⟩

def get? (s : Store) (k : Key) : Option Frame := s.entries.lookup k

def contains (s : Store) (k : Key) : Bool := (s.get? k).isSome

def keys (s : Store) : List Key := s.entries.map (·.1)

def frames (s : Store) : List Frame := s.entries.map (·.2)

def size (s : Store) : Nat := s.entries.length

def isEmpty (s : Store) : Bool := s.entries.isEmpty

/-- Drops the frame of `k`. -/
def erase (s : Store) (k : Key) : Store := ⟨s.entries.filter (·.1 ≠ k)⟩

/-- Holds `f` as the latest frame of its key. -/
def insert (s : Store) (f : Frame) : Store := ⟨(f.key, f) :: (s.erase f.key).entries⟩

/-- The keys whose frame satisfies `p`. -/
def keysWhere (s : Store) (p : Frame → Bool) : List Key :=
  (s.entries.filter fun entry => p entry.2).map (·.1)

/-- Drops the frames that satisfy `p`. -/
def eraseWhere (s : Store) (p : Frame → Bool) : Store :=
  ⟨s.entries.filter fun entry => !p entry.2⟩

end Store

end CanScope
