import CanScope.Bus.Mailbox

/-!
# What a drain gives and leaves

Whatever a receiver is made of, its laws settle what a drain gives: a loss that was not reported, or else
all that it holds, unless the channel is closed. A drain asks again as long as an event comes
(`receiveAll_step`); that its calls are counted does not show.

**Results.**
* `QueueReceiver.drain_eq`, `NewestReceiver.drain_eq`: a drain in closed form, for every receiver that
  keeps the laws.
* `QueueReceiver.drain_mailbox`, `NewestReceiver.drain_mailbox`: what a receiver has before it is a
  mailbox to all who drain it.
* `Mailbox.drain_eq`: the same in closed form for a mailbox.
-/
namespace CanScope

/-! ## Queues -/

/-- What a drain gives. -/
def Backlog.answer (b : Backlog) (channel : String) : Except BusError (List Event) :=
  if b.lost ≠ 0 then .error (.lagged channel b.lost)
  else if b.isOpen then .ok b.events
  else .error (.closed channel)

/-- What a drain leaves. -/
def Backlog.drained (b : Backlog) : Backlog :=
  if b.lost ≠ 0 then { b with lost := 0 } else { b with events := [] }

namespace QueueReceiver

variable {ρ : Type} (R : QueueReceiver ρ) (channel : String)

/-- What a call gives and leaves of `b`. -/
inductive Received (b : Backlog) : Except Refusal Event → Backlog → Prop where
  | loss (lost : b.lost ≠ 0) : Received b (.error (.lagged b.lost)) { b with lost := 0 }
  | event {e : Event} {rest : List Event} (told : b.lost = 0) (events : b.events = e :: rest) :
    Received b (.ok e) { b with events := rest }
  | none (told : b.lost = 0) (events : b.events = []) :
    Received b (.error (if b.isOpen then .empty else .closed)) b

theorem received (r : ρ) : Received (R.view r) (R.tryReceive r).1 (R.view (R.tryReceive r).2) := by
  by_cases lost : (R.view r).lost = 0
  · cases events : (R.view r).events with
    | nil =>
      obtain ⟨gives, leaves⟩ := R.tellsEmpty r lost events
      rw [gives, leaves]
      exact .none lost events
    | cons e rest =>
      obtain ⟨gives, leaves⟩ := R.givesOldest r e rest lost events
      rw [gives, leaves]
      exact .event lost events
  · obtain ⟨gives, leaves⟩ := R.reportsLoss r lost
    rw [gives, leaves]
    exact .loss lost

/-- Only as many calls give an event as there are events. -/
theorem length_of_received {r : ρ} {e : Event} (gave : (R.tryReceive r).1 = .ok e) :
    (R.view r).events.length = (R.view (R.tryReceive r).2).events.length + 1 := by
  have received := R.received r
  rw [gave] at received
  generalize R.view (R.tryReceive r).2 = left at received
  cases received with
  | event told events => rw [events, List.length_cons]

/-- The loop that is counted is the one that goes on while events come. -/
theorem receiveAll_step (taken : List Event) (r : ρ) :
    R.receiveAll channel taken r =
      match R.tryReceive r with
      | (.ok e, r) => R.receiveAll channel (e :: taken) r
      | (.error .empty, r) => (.ok taken.reverse, r)
      | (.error .closed, r) => (.error (.closed channel), r)
      | (.error (.lagged skipped), r) => (.error (.lagged channel skipped), r) := by
  have length (e : Event) (gave : (R.tryReceive r).1 = .ok e) := R.length_of_received gave
  rw [receiveAll, receive]
  generalize R.tryReceive r = call at length ⊢
  obtain ⟨gave | e, r'⟩ := call
  · cases gave <;> rfl
  · rw [length e rfl]
    rfl

/-- The rest of a drain that has `taken` already. -/
theorem receive_eq {rounds : Nat} {r : ρ} (enough : (R.view r).events.length < rounds)
    (taken : List Event) :
    (R.receive channel rounds taken r).1 = ((R.view r).answer channel).map (taken.reverse ++ ·) ∧
      R.view (R.receive channel rounds taken r).2 = (R.view r).drained := by
  induction rounds generalizing r taken with
  | zero => exact absurd enough (Nat.not_lt_zero _)
  | succ rounds ih =>
    have received := R.received r
    rw [receive]
    generalize R.tryReceive r = call at received ⊢
    obtain ⟨gave, r'⟩ := call
    generalize R.view r = b at received enough
    obtain ⟨isOpen, lost, events⟩ := b
    generalize left : R.view r' = b' at received
    cases received with
    | loss lost =>
      simp only [Backlog.answer, Backlog.drained, if_pos lost, left, and_true]
      rfl
    | @event e rest told events =>
      dsimp only at told events
      subst told events
      have fewer : (R.view r').events.length < rounds := by
        rw [left]
        exact Nat.lt_of_succ_lt_succ enough
      obtain ⟨gives, leaves⟩ := ih fewer (e :: taken)
      rw [left] at gives leaves
      refine ⟨gives.trans ?_, leaves⟩
      cases isOpen <;> simp [Backlog.answer, Except.map]
    | none told events =>
      dsimp only at told events
      subst told events
      cases isOpen <;> simp [Backlog.answer, Backlog.drained, Except.map, left]

/-- A drain gives all that is left, or one error; the laws decide which. -/
theorem drain_eq (r : ρ) :
    (R.drain channel r).1 = (R.view r).answer channel ∧
      R.view (R.drain channel r).2 = (R.view r).drained := by
  obtain ⟨gives, leaves⟩ := R.receive_eq channel (Nat.lt_succ_self (R.view r).events.length) []
  refine ⟨gives.trans ?_, leaves⟩
  cases (R.view r).answer channel <;> rfl

/-- What no call changes a drain does not change either. -/
theorem drain_keeps {β : Type} {f : ρ → β} (keeps : ∀ r, f (R.tryReceive r).2 = f r) (r : ρ) :
    f (R.drain channel r).2 = f r := by
  rw [drain, receiveAll]
  generalize (R.view r).events.length + 1 = rounds
  generalize ([] : List Event) = taken
  induction rounds generalizing r taken with
  | zero => rfl
  | succ rounds ih =>
    have stays := keeps r
    rw [receive]
    generalize R.tryReceive r = call at stays ⊢
    obtain ⟨gave | e, r'⟩ := call
    · cases gave <;> exact stays
    · exact (ih r' _).trans stays

end QueueReceiver

/-! ## The newest event -/

def Newest.answer (n : Newest) (channel : String) : Except BusError (List Event) :=
  if n.isOpen then .ok n.unseen.toList else .error (.closed channel)

def Newest.drained (n : Newest) : Newest := if n.isOpen then { n with unseen := none } else n

theorem NewestReceiver.drain_eq {ρ : Type} (R : NewestReceiver ρ) (channel : String) (r : ρ) :
    (R.drain channel r).1 = (R.view r).answer channel ∧
      R.view (R.drain channel r).2 = (R.view r).drained := by
  have told := R.tellsClosed r
  have gives := R.givesNewest r
  rw [drain, Newest.answer, Newest.drained]
  generalize left : R.view r = n at told gives
  obtain ⟨isOpen, unseen⟩ := n
  cases isOpen with
  | false =>
    rw [told]
    exact ⟨rfl, left⟩
  | true =>
    cases unseen with
    | none =>
      rw [told]
      exact ⟨rfl, left⟩
    | some e =>
      obtain ⟨newest, leaves⟩ := gives e rfl
      rw [told]
      refine ⟨?_, leaves⟩
      show Except.ok (R.takeNewest r).1.toList = _
      rw [newest]
      rfl

/-! ## Mailboxes -/

/-- The mailbox of a queueing subscriber that has `b` before it. -/
def Backlog.mailbox (b : Backlog) (channel : String) : Mailbox :=
  ⟨channel, b.isOpen, .queue b.lost b.events⟩

/-- That of a conflating one. -/
def Newest.mailbox (n : Newest) (channel : String) : Mailbox :=
  ⟨channel, n.isOpen, .latest n.unseen⟩

theorem Backlog.drain_mailbox (b : Backlog) (channel : String) :
    (b.mailbox channel).drain = (b.answer channel, b.drained.mailbox channel) := by
  have whole : receiver.drain channel b = (b.answer channel, b.drained) :=
    Prod.ext (receiver.drain_eq channel b).1 (receiver.drain_eq channel b).2
  have isOpen : b.drained.isOpen = b.isOpen := by
    rw [drained]
    split <;> rfl
  simp only [mailbox, Mailbox.drain, whole, isOpen]

theorem Newest.drain_mailbox (n : Newest) (channel : String) :
    (n.mailbox channel).drain = (n.answer channel, n.drained.mailbox channel) := by
  have whole : receiver.drain channel n = (n.answer channel, n.drained) :=
    Prod.ext (receiver.drain_eq channel n).1 (receiver.drain_eq channel n).2
  have isOpen : n.drained.isOpen = n.isOpen := by
    rw [drained]
    split <;> rfl
  simp only [mailbox, Mailbox.drain, whole, isOpen]

/-- A drain of any receiver is one of the mailbox with the same before it. -/
theorem QueueReceiver.drain_mailbox {ρ : Type} (R : QueueReceiver ρ) (channel : String) (r : ρ) :
    ((R.view r).mailbox channel).drain =
      ((R.drain channel r).1, (R.view (R.drain channel r).2).mailbox channel) := by
  obtain ⟨gives, leaves⟩ := R.drain_eq channel r
  rw [Backlog.drain_mailbox, gives, leaves]

theorem NewestReceiver.drain_mailbox {ρ : Type} (R : NewestReceiver ρ) (channel : String) (r : ρ) :
    ((R.view r).mailbox channel).drain =
      ((R.drain channel r).1, (R.view (R.drain channel r).2).mailbox channel) := by
  obtain ⟨gives, leaves⟩ := R.drain_eq channel r
  rw [Newest.drain_mailbox, gives, leaves]

namespace Mailbox

/-- What is unread comes out whole. A closed mailbox answers with that error instead, and a queue first
with a loss that it did not report; the queue is then left as it is. -/
theorem drain_eq (m : Mailbox) :
    m.drain =
      match m.unread with
      | .latest event =>
        if m.isOpen then (.ok event.toList, { m with unread := .latest none })
        else (.error (.closed m.channel), m)
      | .queue lost events =>
        if lost ≠ 0 then (.error (.lagged m.channel lost), { m with unread := .queue 0 events })
        else if m.isOpen then (.ok events, { m with unread := .queue 0 [] })
        else (.error (.closed m.channel), { m with unread := .queue 0 [] }) := by
  obtain ⟨channel, isOpen, unread⟩ := m
  cases unread with
  | latest event =>
    refine (Newest.drain_mailbox ⟨isOpen, event⟩ channel).trans ?_
    cases isOpen <;> rfl
  | queue lost events =>
    refine (Backlog.drain_mailbox ⟨isOpen, lost, events⟩ channel).trans ?_
    cases lost <;> cases isOpen <;> rfl

@[simp] theorem drain_channel (m : Mailbox) : m.drain.2.channel = m.channel := by
  cases unread : m.unread <;> simp only [drain, unread]

@[simp] theorem drain_isOpen (m : Mailbox) : m.drain.2.isOpen = m.isOpen := by
  cases unread : m.unread <;> simp only [drain, unread]

end Mailbox

end CanScope
