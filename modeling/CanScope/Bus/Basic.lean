import CanScope.Bus.Mailbox

/-!
# The bus

A bus is a set of named channels and the mailboxes of their subscribers. A channel comes into being
when someone first publishes on it or subscribes to it, and goes with `close`; the same name may
then come into being again, with no subscribers. A subscriber holds a `Ticket` for its mailbox.

The depth of a queueing mailbox is the least power of two that is not below the capacity asked for.
-/
namespace CanScope

structure Ticket where
  number : Nat
  deriving DecidableEq, Repr

structure Bus where
  /-- The capacity asked for, at least one. -/
  queueCapacity : Nat
  channels : List String
  mailboxes : List (Ticket × Mailbox)
  next : Nat
  deriving DecidableEq, Repr

namespace Bus

def defaultQueueCapacity : Nat := 256

def withQueueCapacity (capacity : Nat) : Bus := ⟨max capacity 1, [], [], 0⟩

/-- The least power of two that is not below `n`. -/
def powerCeiling (n : Nat) : Nat := if n ≤ 1 then 1 else Nat.pow 2 ((n - 1).log2 + 1)

/-- How many unread events a queueing mailbox holds. -/
def depth (b : Bus) : Nat := powerCeiling b.queueCapacity

/-- Brings a channel into being unless it exists. -/
def touch (b : Bus) (channel : String) : Bus :=
  if channel ∈ b.channels then b else { b with channels := channel :: b.channels }

/-- The number of queueing mailboxes that an event on `channel` reaches. -/
def audience (b : Bus) (channel : String) : Nat :=
  b.mailboxes.countP fun entry => entry.2.listens channel && !entry.2.isConflating

def publish (b : Bus) (channel : String) (e : Event) : Bus :=
  { b.touch channel with
    mailboxes := b.mailboxes.map fun entry =>
      (entry.1, if entry.2.listens channel then entry.2.deliver b.depth e else entry.2) }

def publishAll (b : Bus) (channel : String) (events : List Event) : Bus :=
  events.foldl (fun b e => b.publish channel e) b

def subscribe (b : Bus) (channel : String) (conflate : Bool) : Ticket × Bus :=
  let mailbox := if conflate then Mailbox.conflating channel else Mailbox.queueing channel
  let ticket : Ticket := ⟨b.next⟩
  (ticket, { b.touch channel with mailboxes := (ticket, mailbox) :: b.mailboxes, next := b.next + 1 })

def drop (b : Bus) (t : Ticket) : Bus :=
  { b with mailboxes := b.mailboxes.filter (·.1 ≠ t) }

def has (b : Bus) (channel : String) : Bool := b.channels.contains channel

/-- Ends a channel; its subscribers keep their mailboxes, closed. -/
def close (b : Bus) (channel : String) : Bus :=
  { b with
    channels := b.channels.filter (· ≠ channel)
    mailboxes := b.mailboxes.map fun entry =>
      (entry.1, if entry.2.channel = channel then entry.2.close else entry.2) }

def mailbox? (b : Bus) (t : Ticket) : Option Mailbox := b.mailboxes.lookup t

/-- Reads everything unread in the mailbox of `t`. A ticket without a mailbox has nothing to read. -/
def drain (b : Bus) (t : Ticket) : Except BusError (List Event) × Bus :=
  match b.mailbox? t with
  | none => (.ok [], b)
  | some m =>
    let (result, m') := m.drain
    (result, { b with
      mailboxes := b.mailboxes.map fun entry => (entry.1, if entry.1 = t then m' else entry.2) })

end Bus

end CanScope
