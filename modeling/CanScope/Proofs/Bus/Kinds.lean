import CanScope.Proofs.Bus.Closing
import CanScope.Proofs.Bus.Latest

/-!
# Mailboxes of either kind

A conflating mailbox keeps the latest event only, a queueing one keeps them all, and they end in
different ways when their channel is closed. While at most one event comes in between two drains,
neither answers in a way that tells of its kind.

**Few events (`Mailbox.Carries`).** With at most one unread event, what a conflating mailbox shows and
what a queueing one keeps is the same: a drain gives that event, if there is one. Closing the channel
takes it away, and leaves a queueing mailbox with no lag to report.

**Two mailboxes (`Mailbox.Paired`).** They hold the same events, or both are silent. This outlasts the
same use of both, as long as an event comes in only where there is none (`Paired.meet`).
-/
namespace CanScope

open Bus

namespace Mailbox

/-- An open mailbox on `c` with the unread events `events`, too few to tell of which kind it is. -/
structure Carries (depth : Nat) (c : String) (events : List Event) (m : Mailbox) : Prop where
  isOpen : m.isOpen = true
  few : events.length ≤ 1
  kind : m.Shows c events ∨ m.Keeps depth c events

namespace Carries

variable {depth : Nat} {c : String} {events : List Event} {m : Mailbox}

theorem opened (depth : Nat) (c : String) (conflate : Bool) :
    (Bus.opened c conflate).Carries depth c [] := by
  cases conflate with
  | true => exact ⟨rfl, Nat.zero_le 1, .inl (.conflating c)⟩
  | false => exact ⟨rfl, Nat.zero_le 1, .inr (.queueing depth c)⟩

theorem channel (h : m.Carries depth c events) : m.channel = c := by
  rcases h.kind with shows | keeps
  · exact shows.channel
  · exact keeps.channel

theorem listens (h : m.Carries depth c events) : m.listens c = true := by
  rw [Mailbox.listens, h.isOpen, h.channel, beq_self_eq_true, Bool.and_self]

theorem drain_answer (h : m.Carries depth c events) (room : 0 < depth) : m.drain.1 = .ok events := by
  have few := h.few
  rcases h.kind with shows | keeps
  · have whole : events.getLast?.toList = events := by
      match events, few with
      | [], _ => rfl
      | [e], _ => rfl
    rw [shows.drain_answer, if_pos h.isOpen, whole]
  · rw [keeps.drain_answer, if_neg (by omega), if_pos h.isOpen]

theorem drain (h : m.Carries depth c events) (room : 0 < depth) :
    m.drain.2.Carries depth c [] := by
  refine ⟨(drain_isOpen m).trans h.isOpen, Nat.zero_le 1, ?_⟩
  rcases h.kind with shows | keeps
  · exact .inl (shows.drain h.isOpen)
  · have drained := keeps.drain
    rw [h.drain_answer room, Bus.spent, List.drop_length] at drained
    exact .inr drained

theorem deliver (h : m.Carries depth c []) (room : 0 < depth) (e : Event) :
    (m.deliver depth e).Carries depth c [e] := by
  refine ⟨(deliver_isOpen depth m e).trans h.isOpen, Nat.le_refl 1, ?_⟩
  rcases h.kind with shows | keeps
  · exact .inl (shows.deliver depth e)
  · exact .inr (keeps.deliver h.isOpen room e)

theorem meet_other (h : m.Carries depth c events) {t : Ticket} {op : Op} (silent : op ≠ .drain t)
    (quiet : ∀ e, op ≠ .publish c e) (stays : op ≠ .close c) : m.meet depth t op = m := by
  rcases m.meet_other depth silent (by rwa [h.channel]) with same | closed
  · exact same
  · have isOpen := (m.meet_isOpen_iff depth t op).2 ⟨h.isOpen, by rwa [h.channel]⟩
    rw [closed] at isOpen
    cases isOpen

/-- The end of the channel takes an unread event with it. -/
theorem close (h : m.Carries depth c events) (room : 0 < depth) : m.close.Silent c := by
  have few := h.few
  refine ⟨h.channel, rfl, fun lost kept unread => ?_⟩
  rcases h.kind with shows | keeps
  · exact absurd (shows.unread.symm.trans unread) (by simp)
  · obtain ⟨kept', held, -⟩ := keeps.queue
    cases held.symm.trans unread
    omega

end Carries

/-- Mailboxes of two subscriptions on `c`, of whichever kinds, that the same happened to. At most `n`
events are unread. -/
inductive Paired (c : String) (n depth depth' : Nat) (m m' : Mailbox) : Prop where
  | live (events : List Event) (few : events.length ≤ n) (carries : m.Carries depth c events)
      (carries' : m'.Carries depth' c events)
  | ended (silent : m.Silent c) (silent' : m'.Silent c)

namespace Paired

variable {c : String} {n n' depth depth' : Nat} {m m' : Mailbox}

theorem opened (depth depth' : Nat) (c : String) (conflate conflate' : Bool) :
    Paired c 0 depth depth' (Bus.opened c conflate) (Bus.opened c conflate') :=
  .live [] (Nat.le_refl 0) (.opened depth c conflate) (.opened depth' c conflate')

theorem mono (h : Paired c n depth depth' m m') (le : n ≤ n') : Paired c n' depth depth' m m' := by
  cases h with
  | live events few carries carries' => exact .live events (few.trans le) carries carries'
  | ended silent silent' => exact .ended silent silent'

theorem drain_eq (h : Paired c n depth depth' m m') (room : 0 < depth) (room' : 0 < depth') :
    m.drain.1 = m'.drain.1 := by
  cases h with
  | live events few carries carries' =>
    rw [carries.drain_answer room, carries'.drain_answer room']
  | ended silent silent' => rw [silent.drain_answer, silent'.drain_answer]

theorem drain (h : Paired c n depth depth' m m') (room : 0 < depth) (room' : 0 < depth') :
    Paired c 0 depth depth' m.drain.2 m'.drain.2 := by
  cases h with
  | live events few carries carries' =>
    exact .live [] (Nat.le_refl 0) (carries.drain room) (carries'.drain room')
  | ended silent silent' => exact .ended silent.drain silent'.drain

/-- One event fits into either mailbox. -/
theorem publish (h : Paired c 0 depth depth' m m') (room : 0 < depth) (room' : 0 < depth')
    (t t' : Ticket) (e : Event) :
    Paired c 1 depth depth' (m.meet depth t (.publish c e)) (m'.meet depth' t' (.publish c e)) := by
  cases h with
  | live events few carries carries' =>
    obtain rfl := List.eq_nil_of_length_eq_zero (Nat.le_zero.1 few)
    rw [meet, meet, if_pos carries.listens, if_pos carries'.listens]
    exact .live [e] (Nat.le_refl 1) (carries.deliver room e) (carries'.deliver room' e)
  | ended silent silent' => exact .ended (silent.meet _) (silent'.meet _)

/-- Other uses of the bus bring no event. -/
theorem meet_other (h : Paired c n depth depth' m m') (room : 0 < depth) (room' : 0 < depth')
    {t t' : Ticket} {op : Op} (silent : op ≠ .drain t) (silent' : op ≠ .drain t')
    (quiet : ∀ e, op ≠ .publish c e) :
    Paired c n depth depth' (m.meet depth t op) (m'.meet depth' t' op) := by
  cases h with
  | live events few carries carries' =>
    by_cases ends : op = .close c
    · subst ends
      rw [meet, meet, if_pos carries.channel, if_pos carries'.channel]
      exact .ended (carries.close room) (carries'.close room')
    · rw [carries.meet_other silent quiet ends, carries'.meet_other silent' quiet ends]
      exact .live events few carries carries'
  | ended silence silence' => exact .ended (silence.meet op) (silence'.meet op)

/-- An event may come in where there is none, and a subscription is read only where both are. -/
theorem meet (h : Paired c n depth depth' m m') (room : 0 < depth) (room' : 0 < depth')
    {t t' : Ticket} {op : Op} (alike : op.usesTicket = true → t = t')
    (few : n + (if publishes c op then 1 else 0) ≤ 1) :
    Paired c (n + if publishes c op then 1 else 0) depth depth' (m.meet depth t op)
      (m'.meet depth' t' op) := by
  rcases op_cases_on c t op with rfl | ⟨e, rfl⟩ | ⟨silent, quiet⟩
  · obtain rfl := alike rfl
    rw [meet_drain, meet_drain]
    exact (h.drain room room').mono (Nat.zero_le _)
  · have brings : publishes c (.publish c e) = true := decide_eq_true rfl
    rw [brings, if_pos rfl] at few ⊢
    obtain rfl : n = 0 := by omega
    exact h.publish room room' t t' e
  · have silent' : op ≠ .drain t' := by
      rintro rfl
      exact silent (by rw [alike rfl])
    exact (h.meet_other room room' silent silent' quiet).mono (Nat.le_add_right _ _)

end Paired

end Mailbox

end CanScope
