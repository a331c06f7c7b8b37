import CanScope.Proofs.Bus.Run

/-!
# What is unread in a mailbox

Events get into a mailbox by being published on its channel, and in no other way. One that is full pushes
the oldest out, and one that conflates keeps the latest only, so what is unread may be fewer events than
were published, but never others. A drain that gives any gives all that is unread.

**Results.**
* `mem_meet`: where an unread event comes from.
* `eq_of_drain`, `drain_ne_malformed`: what a drain gives, and that it takes offence at no event.
-/
namespace CanScope

namespace Mailbox

/-- The events unread in a mailbox, oldest first. -/
def unreadEvents (m : Mailbox) : List Event :=
  match m.unread with
  | .latest event => event.toList
  | .queue _ events => events

theorem unreadEvents_opened (channel : String) (conflate : Bool) :
    (Bus.opened channel conflate).unreadEvents = [] := by
  cases conflate <;> rfl

theorem mem_deliver {depth : Nat} {m : Mailbox} {e e' : Event}
    (h : e' ∈ (m.deliver depth e).unreadEvents) : e' = e ∨ e' ∈ m.unreadEvents := by
  obtain ⟨channel, isOpen, unread⟩ := m
  cases unread with
  | latest event => simp_all [deliver, unreadEvents]
  | queue lost events =>
    unfold deliver enqueue unreadEvents at h
    by_cases room : events.length < depth
    · simp only [if_pos room, List.mem_append, List.mem_singleton] at h
      exact h.symm
    · simp only [if_neg room, List.mem_append, List.mem_singleton] at h
      exact h.symm.imp_right List.mem_of_mem_drop

/-- A drain that gives events gives all of them. -/
theorem eq_of_drain {m : Mailbox} {events : List Event} (h : m.drain.1 = .ok events) :
    events = m.unreadEvents := by
  rw [drain_eq] at h
  unfold unreadEvents
  grind

theorem mem_drain {m : Mailbox} {e : Event} (h : e ∈ m.drain.2.unreadEvents) :
    e ∈ m.unreadEvents := by
  rw [drain_eq] at h
  unfold unreadEvents at h
  unfold unreadEvents
  grind

/-- A drain does not look at the events. -/
theorem drain_ne_malformed (m : Mailbox) (reason : String) :
    m.drain.1 ≠ .error (.malformed reason) := by
  rw [drain_eq]
  grind

/-- Only a publication on its channel puts an event in a mailbox. -/
theorem mem_meet {depth : Nat} {t : Ticket} {m : Mailbox} {op : Bus.Op} {e : Event}
    (h : e ∈ (m.meet depth t op).unreadEvents) :
    e ∈ m.unreadEvents ∨ op = .publish m.channel e := by
  cases op with
  | subscribe channel conflate => exact .inl h
  | drop t' => exact .inl h
  | publish channel e' =>
    simp only [meet] at h
    split at h
    · next listens =>
      have same : m.channel = channel := by
        rw [Mailbox.listens, Bool.and_eq_true, beq_iff_eq] at listens
        exact listens.2
      rcases mem_deliver h with rfl | old
      · exact .inr (by rw [same])
      · exact .inl old
    · exact .inl h
  | drain t' =>
    simp only [meet] at h
    split at h
    · exact .inl (mem_drain h)
    · exact .inl h
  | close channel =>
    simp only [meet] at h
    split at h <;> exact .inl h

end Mailbox

end CanScope
