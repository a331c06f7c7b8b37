import CanScope.Proofs.Bus.Run

/-!
# A bus does not look at what it carries

Where an event goes, which one is pushed out and what a drain answers is decided without a look into
the events. So a function on events may be applied to all that is published, or to all that is read.

* `map_drain`, `map_perform`: applying it before a use of the bus is applying it after.
-/
namespace CanScope

/-- The same with `f` applied to the unread events. -/
def Unread.map (f : Event → Event) : Unread → Unread
  | .latest event => .latest (event.map f)
  | .queue lost events => .queue lost (events.map f)

namespace Mailbox

def map (f : Event → Event) (m : Mailbox) : Mailbox := { m with unread := m.unread.map f }

variable (f : Event → Event) (m : Mailbox)

theorem map_enqueue (depth lost : Nat) (events : List Event) (e : Event) :
    (enqueue depth lost events e).map f = enqueue depth lost (events.map f) (f e) := by
  unfold enqueue
  rw [List.length_map]
  split <;> simp [Unread.map]

theorem map_deliver (depth : Nat) (e : Event) :
    (m.deliver depth e).map f = (m.map f).deliver depth (f e) := by
  obtain ⟨channel, isOpen, unread⟩ := m
  cases unread with
  | latest event => rfl
  | queue lost events => exact congrArg (Mailbox.mk channel isOpen) (map_enqueue f depth lost events e)

theorem map_drain : (m.map f).drain = (m.drain.1.map (List.map f), m.drain.2.map f) := by
  obtain ⟨channel, isOpen, unread⟩ := m
  rw [drain_eq, drain_eq]
  cases unread with
  | latest event => cases isOpen <;> cases event <;> rfl
  | queue lost events => cases lost <;> cases isOpen <;> rfl

end Mailbox

namespace Bus

def map (f : Event → Event) (b : Bus) : Bus :=
  { b with mailboxes := b.mailboxes.map fun entry => (entry.1, entry.2.map f) }

/-- The same use with `f` applied to what is published. -/
def Op.map (f : Event → Event) : Op → Op
  | .publish channel e => .publish channel (f e)
  | op => op

theorem touch_eq (b : Bus) (channel : String) : b.touch channel =
    { b with channels := if channel ∈ b.channels then b.channels else channel :: b.channels } := by
  unfold touch
  split <;> rfl

variable (f : Event → Event) (b : Bus)

theorem mailbox?_map (t : Ticket) : (b.map f).mailbox? t = (b.mailbox? t).map (Mailbox.map f) :=
  lookup_map_snd b.mailboxes (fun _ m => m.map f) t

theorem map_subscribe (channel : String) (conflate : Bool) :
    ((b.map f).subscribe channel conflate).2 = (b.subscribe channel conflate).2.map f := by
  cases conflate <;> simp only [subscribe, touch_eq] <;> rfl

theorem map_publish (channel : String) (e : Event) :
    (b.map f).publish channel (f e) = (b.publish channel e).map f := by
  have delivered (m : Mailbox) :
      (if (m.map f).listens channel then (m.map f).deliver b.depth (f e) else m.map f) =
        (if m.listens channel then m.deliver b.depth e else m).map f := by
    rw [apply_ite (Mailbox.map f), Mailbox.map_deliver]
    rfl
  simp only [publish, touch_eq, map, List.map_map]
  congr 1
  exact List.map_congr_left fun entry _ => congrArg (Prod.mk entry.1) (delivered entry.2)

theorem map_close (channel : String) : (b.map f).close channel = (b.close channel).map f := by
  have closed (m : Mailbox) : (if (m.map f).channel = channel then (m.map f).close else m.map f) =
      (if m.channel = channel then m.close else m).map f := by
    rw [apply_ite (Mailbox.map f)]
    rfl
  simp only [close, map, List.map_map]
  congr 1
  exact List.map_congr_left fun entry _ => congrArg (Prod.mk entry.1) (closed entry.2)

theorem map_drop (t : Ticket) : (b.map f).drop t = (b.drop t).map f := by
  simp only [drop, map, List.filter_map]
  rfl

theorem map_drain (t : Ticket) : (b.map f).drain t =
    ((b.drain t).1.map (List.map f), (b.drain t).2.map f) := by
  unfold drain
  rw [mailbox?_map]
  cases b.mailbox? t with
  | none => rfl
  | some m =>
    have read (entry : Ticket × Mailbox) :
        (if entry.1 = t then m.drain.2.map f else entry.2.map f) =
          (if entry.1 = t then m.drain.2 else entry.2).map f := (apply_ite (Mailbox.map f) ..).symm
    simp only [Option.map_some, Mailbox.map_drain, map, List.map_map]
    congr 2
    exact List.map_congr_left fun entry _ => congrArg (Prod.mk entry.1) (read entry)

theorem map_perform (op : Op) : (b.map f).perform (op.map f) = (b.perform op).map f := by
  cases op with
  | subscribe channel conflate => exact map_subscribe f b channel conflate
  | publish channel e => exact map_publish f b channel e
  | drain t => exact congrArg Prod.snd (map_drain f b t)
  | drop t => exact map_drop f b t
  | close channel => exact map_close f b channel

end Bus

end CanScope
