import CanScope.Bus.Receiver

/-!
# Mailboxes

A mailbox holds what was published on a channel and not yet read by one subscriber.

* A conflating mailbox keeps only the latest unread event.
* A queueing mailbox keeps unread events in order, up to a depth. An event that finds it full pushes
  the oldest one out. The next read reports how many were pushed out and returns no event; the read
  after it goes on with the oldest event kept.

Closing the channel is final for a mailbox. A closed conflating mailbox answers every read with that
error, even with an event unread; a closed queueing mailbox first reports a loss, if there is one,
and then answers likewise, and what it held is gone.
-/
namespace CanScope

inductive Unread where
  /-- The latest unread event. -/
  | latest (event : Option Event)
  /-- The unread events, oldest first, and the number of those pushed out since the last report. -/
  | queue (lost : Nat) (events : List Event)
  deriving DecidableEq, Repr

structure Mailbox where
  channel : String
  isOpen : Bool
  unread : Unread
  deriving DecidableEq, Repr

namespace Mailbox

def conflating (channel : String) : Mailbox := ⟨channel, true, .latest none⟩

def queueing (channel : String) : Mailbox := ⟨channel, true, .queue 0 []⟩

def isConflating (m : Mailbox) : Bool :=
  match m.unread with
  | .latest _ => true
  | .queue _ _ => false

/-- Whether the mailbox takes what is published on `channel`. -/
def listens (m : Mailbox) (channel : String) : Bool := m.isOpen && m.channel == channel

/-- Puts one more event at the end of a queue of at most `depth` events. -/
def enqueue (depth : Nat) (lost : Nat) (events : List Event) (e : Event) : Unread :=
  if events.length < depth then .queue lost (events ++ [e])
  else .queue (lost + 1) (events.drop 1 ++ [e])

def deliver (depth : Nat) (m : Mailbox) (e : Event) : Mailbox :=
  match m.unread with
  | .latest _ => { m with unread := .latest (some e) }
  | .queue lost events => { m with unread := enqueue depth lost events e }

def close (m : Mailbox) : Mailbox := { m with isOpen := false }

/-- Reads everything unread, from a receiver that has the mailbox before it. -/
def drain (m : Mailbox) : Except BusError (List Event) × Mailbox :=
  match m.unread with
  | .latest event =>
    let (result, n) := Newest.receiver.drain m.channel ⟨m.isOpen, event⟩
    (result, { m with unread := .latest n.unseen })
  | .queue lost events =>
    let (result, b) := Backlog.receiver.drain m.channel ⟨m.isOpen, lost, events⟩
    (result, { m with unread := .queue b.lost b.events })

end Mailbox

end CanScope
