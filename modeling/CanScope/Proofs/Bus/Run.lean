import CanScope.Bus.Basic
import CanScope.Proofs.Bus.Receiver
import CanScope.Proofs.Lookup

/-!
# Runs of a bus

A bus is used by whoever holds a handle on it or a ticket of it, in any order. A cloned handle is a
handle on the same channels, so an `Op` does not say which handle it went through.

**Views.** A bus is seen through `mailbox?`, its queue depth and the number of the next ticket; the
first section has one equation for each operation.

**Locality.** While a ticket is not given up, its mailbox goes its own way: one use of the bus
changes it as `Mailbox.meet` says, and nothing else in the bus has a part in that (`Holds.run`). The
answers to its drains are read off that mailbox alone (`Holds.answers_eq`).

**Agreement.** Two buses that agree on some tickets go on to do so while the same is done on both
(`AgreeOn.perform`), whatever else their channels and mailboxes hold.
-/
namespace CanScope

namespace Bus

/-! ## Views -/

@[simp] theorem touch_next (b : Bus) (channel : String) : (b.touch channel).next = b.next := by
  unfold touch; split <;> rfl

@[simp] theorem touch_queueCapacity (b : Bus) (channel : String) :
    (b.touch channel).queueCapacity = b.queueCapacity := by
  unfold touch; split <;> rfl

/-- The mailbox of a new subscription. -/
def opened (channel : String) (conflate : Bool) : Mailbox :=
  if conflate then .conflating channel else .queueing channel

theorem mailbox?_subscribe (b : Bus) (channel : String) (conflate : Bool) (t : Ticket) :
    (b.subscribe channel conflate).2.mailbox? t =
      if t = ⟨b.next⟩ then some (opened channel conflate) else b.mailbox? t := by
  show List.lookup t (((⟨b.next⟩ : Ticket), opened channel conflate) :: b.mailboxes) = _
  rw [List.lookup_cons]
  by_cases new : t = ⟨b.next⟩
  · rw [if_pos new, beq_iff_eq.2 new]
  · rw [if_neg new, beq_eq_false_iff_ne.2 new]
    rfl

theorem mailbox?_publish (b : Bus) (channel : String) (e : Event) (t : Ticket) :
    (b.publish channel e).mailbox? t =
      (b.mailbox? t).map fun m => if m.listens channel then m.deliver b.depth e else m :=
  lookup_map_snd b.mailboxes
    (fun _ m => if m.listens channel then m.deliver b.depth e else m) t

theorem mailbox?_close (b : Bus) (channel : String) (t : Ticket) :
    (b.close channel).mailbox? t =
      (b.mailbox? t).map fun m => if m.channel = channel then m.close else m :=
  lookup_map_snd b.mailboxes (fun _ m => if m.channel = channel then m.close else m) t

theorem mailbox?_drop (b : Bus) (t t' : Ticket) :
    (b.drop t').mailbox? t = if t = t' then none else b.mailbox? t :=
  lookup_filter_ne b.mailboxes t t'

theorem drain_of_none {b : Bus} {t : Ticket} (h : b.mailbox? t = none) :
    b.drain t = (.ok [], b) := by
  simp only [drain, h]

theorem drain_of_some {b : Bus} {t : Ticket} {m : Mailbox} (h : b.mailbox? t = some m) :
    (b.drain t).2.mailboxes = b.mailboxes.map fun entry =>
      (entry.1, if entry.1 = t then m.drain.2 else entry.2) := by
  simp only [drain, h]

theorem mailbox?_drain (b : Bus) (t t' : Ticket) :
    (b.drain t').2.mailbox? t =
      if t = t' then (b.mailbox? t).map (·.drain.2) else b.mailbox? t := by
  cases held : b.mailbox? t' with
  | none =>
    rw [drain_of_none held]
    split
    · rename_i same
      rw [same, held]
      rfl
    · rfl
  | some m =>
    rw [mailbox?, drain_of_some held, lookup_map_snd b.mailboxes
      (fun u m' => if u = t' then m.drain.2 else m') t, ← mailbox?]
    by_cases same : t = t'
    · subst same
      rw [held, if_pos rfl, Option.map_some, Option.map_some, if_pos rfl]
    · simp only [if_neg same, Option.map_id']

theorem drain_answer (b : Bus) (t : Ticket) :
    (b.drain t).1 = ((b.mailbox? t).map (·.drain.1)).getD (.ok []) := by
  unfold drain
  cases b.mailbox? t <;> rfl

@[simp] theorem drain_next (b : Bus) (t : Ticket) : (b.drain t).2.next = b.next := by
  unfold drain; split <;> rfl

@[simp] theorem drain_queueCapacity (b : Bus) (t : Ticket) :
    (b.drain t).2.queueCapacity = b.queueCapacity := by
  unfold drain; split <;> rfl

/-! ## Uses of a bus -/

/-- One use of a bus, through any handle or ticket. -/
inductive Op where
  | subscribe (channel : String) (conflate : Bool)
  | publish (channel : String) (e : Event)
  | drain (t : Ticket)
  | drop (t : Ticket)
  | close (channel : String)
  deriving DecidableEq, Repr

/-- Reads a mailbox or gives it up. -/
def Op.usesTicket : Op → Bool
  | .drain _ => true
  | .drop _ => true
  | _ => false

def perform (b : Bus) : Op → Bus
  | .subscribe channel conflate => (b.subscribe channel conflate).2
  | .publish channel e => b.publish channel e
  | .drain t => (b.drain t).2
  | .drop t => b.drop t
  | .close channel => b.close channel

def run (b : Bus) (ops : List Op) : Bus := ops.foldl perform b

/-- What the drains of `t` give along a run, in order. -/
def answers (b : Bus) (t : Ticket) : List Op → List (Except BusError (List Event))
  | [] => []
  | op :: rest =>
    (if op = .drain t then [(b.drain t).1] else []) ++ (b.perform op).answers t rest

theorem run_append (b : Bus) (ops more : List Op) : b.run (ops ++ more) = (b.run ops).run more :=
  List.foldl_append

theorem answers_append (b : Bus) (t : Ticket) (ops more : List Op) :
    b.answers t (ops ++ more) = b.answers t ops ++ (b.run ops).answers t more := by
  induction ops generalizing b with
  | nil => rfl
  | cons op rest ih =>
    have later : (b.perform op).run rest = b.run (op :: rest) := rfl
    rw [List.cons_append, answers, ih, answers, List.append_assoc, later]

theorem answers_drain (b : Bus) (t : Ticket) (ops : List Op) :
    b.answers t (ops ++ [.drain t]) = b.answers t ops ++ [((b.run ops).drain t).1] := by
  rw [answers_append, answers, answers, if_pos rfl]
  rfl

@[simp] theorem perform_queueCapacity (b : Bus) (op : Op) :
    (b.perform op).queueCapacity = b.queueCapacity := by
  cases op with
  | subscribe channel conflate => exact touch_queueCapacity b channel
  | publish channel e => exact touch_queueCapacity b channel
  | drain t => exact drain_queueCapacity b t
  | drop t => rfl
  | close channel => rfl

@[simp] theorem perform_depth (b : Bus) (op : Op) : (b.perform op).depth = b.depth := by
  rw [depth, perform_queueCapacity, depth]

@[simp] theorem run_depth (b : Bus) (ops : List Op) : (b.run ops).depth = b.depth := by
  induction ops generalizing b with
  | nil => rfl
  | cons op rest ih => exact (ih _).trans (b.perform_depth op)

/-- Only a subscription takes a number. -/
theorem perform_next (b : Bus) (op : Op) :
    (b.perform op).next = b.next + (if op matches .subscribe _ _ then 1 else 0) := by
  cases op with
  | subscribe channel conflate => rfl
  | publish channel e => exact touch_next b channel
  | drain t => exact drain_next b t
  | drop t => rfl
  | close channel => rfl

/-- For a mailbox of `t`, a use of the bus reads it, may bring it an event, or does neither. -/
theorem op_cases (t : Ticket) (op : Op) : op = .drain t ∨ (∃ channel e, op = .publish channel e) ∨
    (op ≠ .drain t ∧ ∀ channel e, op ≠ .publish channel e) := by
  by_cases own : op = .drain t
  · exact .inl own
  · by_cases brings : ∃ channel e, op = .publish channel e
    · exact .inr (.inl brings)
    · exact .inr (.inr ⟨own, fun channel e same => brings ⟨channel, e, same⟩⟩)

/-- The same for a mailbox of `t` on `c`, which other channels bring nothing. -/
theorem op_cases_on (c : String) (t : Ticket) (op : Op) :
    op = .drain t ∨ (∃ e, op = .publish c e) ∨ (op ≠ .drain t ∧ ∀ e, op ≠ .publish c e) := by
  by_cases own : op = .drain t
  · exact .inl own
  · by_cases brings : ∃ e, op = .publish c e
    · exact .inr (.inl brings)
    · exact .inr (.inr ⟨own, fun e same => brings ⟨e, same⟩⟩)

end Bus

/-! ## One mailbox -/

namespace Mailbox

/-- What one use of the bus does to the mailbox of `t`, where queues are `depth` deep. -/
def meet (depth : Nat) (t : Ticket) (m : Mailbox) : Bus.Op → Mailbox
  | .publish channel e => if m.listens channel then m.deliver depth e else m
  | .drain t' => if t = t' then m.drain.2 else m
  | .close channel => if m.channel = channel then m.close else m
  | _ => m

/-- The mailbox after a run. -/
def after (depth : Nat) (t : Ticket) (m : Mailbox) (ops : List Bus.Op) : Mailbox :=
  ops.foldl (meet depth t) m

/-- What the drains of `t` find in its mailbox along a run. -/
def replies (depth : Nat) (t : Ticket) (m : Mailbox) :
    List Bus.Op → List (Except BusError (List Event))
  | [] => []
  | op :: rest => (if op = .drain t then [m.drain.1] else []) ++ (m.meet depth t op).replies depth t rest

@[simp] theorem meet_drain (depth : Nat) (t : Ticket) (m : Mailbox) :
    m.meet depth t (.drain t) = m.drain.2 := if_pos rfl

theorem replies_drain (depth : Nat) (t : Ticket) (m : Mailbox) (rest : List Bus.Op) :
    m.replies depth t (.drain t :: rest) = m.drain.1 :: m.drain.2.replies depth t rest := by
  rw [replies, if_pos rfl, meet_drain]
  rfl

theorem replies_other (depth : Nat) {t : Ticket} (m : Mailbox) {op : Bus.Op} (silent : op ≠ .drain t)
    (rest : List Bus.Op) :
    m.replies depth t (op :: rest) = (m.meet depth t op).replies depth t rest := by
  rw [replies, if_neg silent]
  rfl

@[simp] theorem deliver_channel (depth : Nat) (m : Mailbox) (e : Event) :
    (m.deliver depth e).channel = m.channel := by
  unfold deliver; split <;> rfl

@[simp] theorem deliver_isOpen (depth : Nat) (m : Mailbox) (e : Event) :
    (m.deliver depth e).isOpen = m.isOpen := by
  unfold deliver; split <;> rfl

@[simp] theorem deliver_isConflating (depth : Nat) (m : Mailbox) (e : Event) :
    (m.deliver depth e).isConflating = m.isConflating := by
  unfold isConflating deliver
  cases m.unread with
  | latest event => rfl
  | queue lost events =>
    unfold enqueue
    by_cases room : events.length < depth
    · simp only [if_pos room]
    · simp only [if_neg room]

@[simp] theorem drain_isConflating (m : Mailbox) : m.drain.2.isConflating = m.isConflating := by
  obtain ⟨channel, isOpen, unread⟩ := m
  cases unread with
  | latest event => cases isOpen <;> rfl
  | queue lost events =>
    by_cases lag : lost = 0 <;> cases isOpen <;> simp [drain_eq, isConflating, lag]

/-- A mailbox stays with its channel, and stays of its kind. -/
theorem meet_kind (depth : Nat) (t : Ticket) (m : Mailbox) (op : Bus.Op) :
    (m.meet depth t op).channel = m.channel ∧
      (m.meet depth t op).isConflating = m.isConflating := by
  cases op with
  | subscribe channel conflate => exact ⟨rfl, rfl⟩
  | publish channel e => simp only [meet]; split <;> simp
  | drain t' => simp only [meet]; split <;> simp
  | drop t' => exact ⟨rfl, rfl⟩
  | close channel => simp only [meet]; split <;> exact ⟨rfl, rfl⟩

/-- Only the end of its channel closes a mailbox. -/
theorem meet_isOpen_iff (depth : Nat) (t : Ticket) (m : Mailbox) (op : Bus.Op) :
    (m.meet depth t op).isOpen = true ↔ m.isOpen = true ∧ op ≠ .close m.channel := by
  cases op with
  | subscribe channel conflate => simp [meet]
  | publish channel e => simp only [meet]; split <;> simp
  | drain t' => simp only [meet]; split <;> simp
  | drop t' => simp [meet]
  | close channel =>
    by_cases same : m.channel = channel
    · simp [meet, same, close]
    · have other : channel ≠ m.channel := Ne.symm same
      simp [meet, same, other]

/-- A use of the bus that neither reads the mailbox nor brings it an event can only close it. -/
theorem meet_other (depth : Nat) {t : Ticket} (m : Mailbox) {op : Bus.Op} (silent : op ≠ .drain t)
    (quiet : ∀ e, op ≠ .publish m.channel e) :
    m.meet depth t op = m ∨ m.meet depth t op = m.close := by
  cases op with
  | subscribe channel conflate => exact .inl rfl
  | publish channel e =>
    have other : ¬m.channel = channel := by
      rintro rfl
      exact quiet e rfl
    rw [meet, listens, beq_eq_false_iff_ne.2 other, Bool.and_false]
    exact .inl rfl
  | drain t' =>
    have other : ¬t = t' := by
      rintro rfl
      exact silent rfl
    rw [meet, if_neg other]
    exact .inl rfl
  | drop t' => exact .inl rfl
  | close channel =>
    rw [meet]
    split
    · exact .inr rfl
    · exact .inl rfl

theorem after_kind (depth : Nat) (t : Ticket) (m : Mailbox) (ops : List Bus.Op) :
    (m.after depth t ops).channel = m.channel ∧
      (m.after depth t ops).isConflating = m.isConflating := by
  induction ops generalizing m with
  | nil => exact ⟨rfl, rfl⟩
  | cons op rest ih =>
    have step := m.meet_kind depth t op
    have later := ih (m.meet depth t op)
    exact ⟨later.1.trans step.1, later.2.trans step.2⟩

theorem after_isOpen_iff (depth : Nat) (t : Ticket) (m : Mailbox) (ops : List Bus.Op) :
    (m.after depth t ops).isOpen = true ↔ m.isOpen = true ∧ .close m.channel ∉ ops := by
  induction ops generalizing m with
  | nil => simp [after]
  | cons op rest ih =>
    have later := ih (m.meet depth t op)
    rw [meet_isOpen_iff, (m.meet_kind depth t op).1, and_assoc] at later
    rw [List.mem_cons, not_or]
    exact later.trans (by rw [ne_comm])

theorem after_append (depth : Nat) (t : Ticket) (m : Mailbox) (ops more : List Bus.Op) :
    m.after depth t (ops ++ more) = (m.after depth t ops).after depth t more := List.foldl_append

theorem replies_append (depth : Nat) (t : Ticket) (m : Mailbox) (ops more : List Bus.Op) :
    m.replies depth t (ops ++ more) =
      m.replies depth t ops ++ (m.after depth t ops).replies depth t more := by
  induction ops generalizing m with
  | nil => rfl
  | cons op rest ih =>
    have later : (m.meet depth t op).after depth t rest = m.after depth t (op :: rest) := rfl
    rw [List.cons_append, replies, ih, replies, List.append_assoc, later]

end Mailbox

namespace Bus

/-- What one use of the bus does to the mailbox of a ticket that was given out before. -/
theorem mailbox?_perform (b : Bus) {t : Ticket} (old : t.number < b.next) (op : Op) :
    (b.perform op).mailbox? t =
      if op = .drop t then none else (b.mailbox? t).map (·.meet b.depth t op) := by
  cases op with
  | subscribe channel conflate =>
    have other : t ≠ ⟨b.next⟩ := by
      rintro rfl
      exact Nat.lt_irrefl _ old
    rw [perform, mailbox?_subscribe, if_neg other, if_neg (by simp)]
    exact Option.map_id'.symm
  | publish channel e =>
    rw [perform, mailbox?_publish, if_neg (by simp)]
    rfl
  | drain t' =>
    have stays : ¬Op.drain t' = .drop t := by simp
    rw [perform, mailbox?_drain, if_neg stays]
    by_cases own : t = t'
    · simp only [Mailbox.meet, if_pos own]
    · simp only [Mailbox.meet, if_neg own, Option.map_id']
  | drop t' =>
    rw [perform, mailbox?_drop]
    by_cases own : t = t'
    · rw [if_pos own, if_pos (by rw [own])]
    · rw [if_neg own, if_neg (by simpa using Ne.symm own)]
      exact Option.map_id'.symm
  | close channel =>
    rw [perform, mailbox?_close, if_neg (by simp)]
    rfl

/-- The ticket `t` was given out and not given up, and its mailbox is `m`. -/
structure Holds (b : Bus) (t : Ticket) (m : Mailbox) : Prop where
  held : b.mailbox? t = some m
  old : t.number < b.next

theorem holds_subscribe (b : Bus) (channel : String) (conflate : Bool) :
    (b.subscribe channel conflate).2.Holds ⟨b.next⟩ (opened channel conflate) where
  held := by rw [mailbox?_subscribe]; exact if_pos rfl
  old := Nat.lt_succ_self b.next

theorem Holds.drain_eq {b : Bus} {t : Ticket} {m : Mailbox} (h : b.Holds t m) :
    (b.drain t).1 = m.drain.1 := by
  rw [drain_answer, h.held]
  rfl

theorem Holds.perform {b : Bus} {t : Ticket} {m : Mailbox} (h : b.Holds t m) {op : Op}
    (kept : op ≠ .drop t) : (b.perform op).Holds t (m.meet b.depth t op) where
  held := by
    rw [mailbox?_perform b h.old op, if_neg kept, h.held]
    rfl
  old := by
    have := h.old
    rw [perform_next]
    omega

theorem Holds.run {b : Bus} {t : Ticket} {m : Mailbox} (h : b.Holds t m) {ops : List Op}
    (kept : .drop t ∉ ops) : (b.run ops).Holds t (m.after b.depth t ops) := by
  induction ops generalizing b m with
  | nil => exact h
  | cons op rest ih =>
    rw [List.mem_cons, not_or] at kept
    have later := ih (h.perform (Ne.symm kept.1)) kept.2
    rw [b.perform_depth op] at later
    exact later

theorem Holds.answers_eq {b : Bus} {t : Ticket} {m : Mailbox} (h : b.Holds t m) {ops : List Op}
    (kept : .drop t ∉ ops) : b.answers t ops = m.replies b.depth t ops := by
  induction ops generalizing b m with
  | nil => rfl
  | cons op rest ih =>
    rw [List.mem_cons, not_or] at kept
    rw [answers, Mailbox.replies, h.drain_eq, ih (h.perform (Ne.symm kept.1)) kept.2,
      b.perform_depth op]

/-! ## Two buses -/

/-- The buses deal alike with the tickets in `own`, and with those they give out from now on. -/
structure AgreeOn (own : Ticket → Prop) (b b' : Bus) : Prop where
  queueCapacity : b.queueCapacity = b'.queueCapacity
  next : b.next = b'.next
  mailbox : ∀ t, own t → b.mailbox? t = b'.mailbox? t

namespace AgreeOn

variable {own : Ticket → Prop} {b b' : Bus}

theorem depth_eq (h : AgreeOn own b b') : b.depth = b'.depth := by
  rw [depth, h.queueCapacity, depth]

theorem perform (h : AgreeOn own b b') (op : Op) : AgreeOn own (b.perform op) (b'.perform op) where
  queueCapacity := by rw [perform_queueCapacity, perform_queueCapacity, h.queueCapacity]
  next := by rw [perform_next, perform_next, h.next]
  mailbox t ht := by
    have same := h.mailbox t ht
    cases op with
    | subscribe channel conflate =>
      rw [Bus.perform, Bus.perform, mailbox?_subscribe, mailbox?_subscribe, h.next, same]
    | publish channel e =>
      rw [Bus.perform, Bus.perform, mailbox?_publish, mailbox?_publish, h.depth_eq, same]
    | drain t' => rw [Bus.perform, Bus.perform, mailbox?_drain, mailbox?_drain, same]
    | drop t' => rw [Bus.perform, Bus.perform, mailbox?_drop, mailbox?_drop, same]
    | close channel => rw [Bus.perform, Bus.perform, mailbox?_close, mailbox?_close, same]

theorem run (h : AgreeOn own b b') (ops : List Op) : AgreeOn own (b.run ops) (b'.run ops) := by
  induction ops generalizing b b' with
  | nil => exact h
  | cons op rest ih => exact ih (h.perform op)

/-- A ticket given out by both is one more that they agree on. -/
theorem subscribe (h : AgreeOn own b b') (channel : String) (conflate : Bool) :
    AgreeOn (fun t => t = ⟨b.next⟩ ∨ own t) (b.subscribe channel conflate).2
      (b'.subscribe channel conflate).2 where
  queueCapacity := (h.perform (.subscribe channel conflate)).queueCapacity
  next := (h.perform (.subscribe channel conflate)).next
  mailbox t ht := by
    rw [mailbox?_subscribe, mailbox?_subscribe, ← h.next]
    split
    · rfl
    · rename_i old
      exact h.mailbox t (ht.resolve_left old)

theorem mono {own' : Ticket → Prop} (h : AgreeOn own b b') (sub : ∀ t, own' t → own t) :
    AgreeOn own' b b' :=
  ⟨h.queueCapacity, h.next, fun t ht => h.mailbox t (sub t ht)⟩

theorem drain_eq (h : AgreeOn own b b') {t : Ticket} (ht : own t) : (b.drain t).1 = (b'.drain t).1 := by
  rw [drain_answer, drain_answer, h.mailbox t ht]

theorem answers_eq (h : AgreeOn own b b') {t : Ticket} (ht : own t) (ops : List Op) :
    b.answers t ops = b'.answers t ops := by
  induction ops generalizing b b' with
  | nil => rfl
  | cons op rest ih => rw [answers, answers, h.drain_eq ht, ih (h.perform op)]

end AgreeOn

end Bus

end CanScope
