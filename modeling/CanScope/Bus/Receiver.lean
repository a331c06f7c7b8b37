import CanScope.Bus.Error
import CanScope.Bus.Event

/-!
# Reading what a channel holds for a subscriber

A subscriber reads its channel through a receiver, and of that only what it promises is used here. What
it still has to tell is its view, and the laws say how each call reads the view and changes it.

* A `QueueReceiver` gives one event per call, oldest first. If events were lost to it the next call says
  how many, and goes on behind them. With nothing left it tells an empty channel from a closed one.
* A `NewestReceiver` tells whether there is an event that it has not given yet, unless the channel is
  closed. It gives the newest one whenever it is asked.

A drain asks a receiver until it has nothing more to give.
-/
namespace CanScope

inductive Refusal where
  | empty
  | closed
  /-- So many events were lost. -/
  | lagged (skipped : Nat)
  deriving DecidableEq, Repr

structure Backlog where
  isOpen : Bool
  /-- The events lost and not yet reported. -/
  lost : Nat
  events : List Event
  deriving DecidableEq, Repr

structure QueueReceiver (ρ : Type) where
  view : ρ → Backlog
  tryReceive : ρ → Except Refusal Event × ρ
  reportsLoss : ∀ r, (view r).lost ≠ 0 →
    (tryReceive r).1 = .error (.lagged (view r).lost) ∧
      view (tryReceive r).2 = { view r with lost := 0 }
  givesOldest : ∀ r e rest, (view r).lost = 0 → (view r).events = e :: rest →
    (tryReceive r).1 = .ok e ∧ view (tryReceive r).2 = { view r with events := rest }
  tellsEmpty : ∀ r, (view r).lost = 0 → (view r).events = [] →
    (tryReceive r).1 = .error (if (view r).isOpen then .empty else .closed) ∧
      view (tryReceive r).2 = view r

namespace QueueReceiver

variable {ρ : Type} (R : QueueReceiver ρ) (channel : String)

/-- Asks for events, in at most `rounds` calls; `taken` are those it has, newest first. An error takes
the place of all that was taken. -/
def receive : Nat → List Event → ρ → Except BusError (List Event) × ρ
  | 0, taken, r => (.ok taken.reverse, r)
  | rounds + 1, taken, r =>
    match R.tryReceive r with
    | (.ok e, r) => receive rounds (e :: taken) r
    | (.error .empty, r) => (.ok taken.reverse, r)
    | (.error .closed, r) => (.error (.closed channel), r)
    | (.error (.lagged skipped), r) => (.error (.lagged channel skipped), r)

/-- Asks until no event comes: there are not more calls than events left, and one. -/
def receiveAll (taken : List Event) (r : ρ) : Except BusError (List Event) × ρ :=
  R.receive channel ((R.view r).events.length + 1) taken r

def drain (r : ρ) : Except BusError (List Event) × ρ := R.receiveAll channel [] r

end QueueReceiver

structure Newest where
  isOpen : Bool
  /-- The newest event, unless it was given. -/
  unseen : Option Event
  deriving DecidableEq, Repr

structure NewestReceiver (ρ : Type) where
  view : ρ → Newest
  /-- Nothing if the channel is closed. -/
  hasChanged : ρ → Option Bool
  takeNewest : ρ → Option Event × ρ
  tellsClosed : ∀ r, hasChanged r = if (view r).isOpen then some (view r).unseen.isSome else none
  givesNewest : ∀ r e, (view r).unseen = some e →
    (takeNewest r).1 = some e ∧ view (takeNewest r).2 = { view r with unseen := none }

def NewestReceiver.drain {ρ : Type} (R : NewestReceiver ρ) (channel : String) (r : ρ) :
    Except BusError (List Event) × ρ :=
  match R.hasChanged r with
  | some true =>
    let (newest, r) := R.takeNewest r
    (.ok newest.toList, r)
  | some false => (.ok [], r)
  | none => (.error (.closed channel), r)

/-! ## Receivers that are what they have to tell -/

def Backlog.tryReceive (b : Backlog) : Except Refusal Event × Backlog :=
  if b.lost ≠ 0 then (.error (.lagged b.lost), { b with lost := 0 })
  else
    match b.events with
    | e :: rest => (.ok e, { b with events := rest })
    | [] => (.error (if b.isOpen then .empty else .closed), b)

def Backlog.receiver : QueueReceiver Backlog where
  view b := b
  tryReceive := tryReceive
  reportsLoss b lost := by simp only [tryReceive, if_pos lost, and_self]
  givesOldest b e rest told events := by
    simp only [tryReceive, told, ne_eq, not_true_eq_false, if_false, events, and_self]
  tellsEmpty b told events := by
    simp only [tryReceive, told, ne_eq, not_true_eq_false, if_false, events, and_self]

def Newest.receiver : NewestReceiver Newest where
  view n := n
  hasChanged n := if n.isOpen then some n.unseen.isSome else none
  takeNewest n := (n.unseen, { n with unseen := none })
  tellsClosed _ := rfl
  givesNewest _ _ unseen := ⟨unseen, rfl⟩

end CanScope
