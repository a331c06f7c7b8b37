import CanScope.Proofs.Bus.Run
import Mathlib.Tactic.Common

/-!
# A channel that many read

A mailbox is one subscriber's. What is kept is kept once for all of them: the events sent on a channel,
of which the last `depth` are still there, and for each subscriber a `Cursor`, the number of events that
are behind it. A queueing subscriber reads on from its cursor; where that points to an event that is no
longer there it is set forward, and the events skipped are lost. A conflating one reads the last event,
if that is not behind its cursor.

Cursors keep the laws of both kinds of receivers. So a mailbox is what a cursor has before it, and it
changes as the channel and the cursor do.

**Results.**
* `Cursor.mailbox_meet`: one use of the bus.
* `channel_meet`: what a subscriber does shows in its cursor, never in the channel.
* `answers_eq_replies`: what a subscription answers over time is what a cursor reads, whatever was sent
  before it was opened.
-/
namespace CanScope

structure Channel where
  /-- The number of events kept. -/
  depth : Nat
  keepsOne : 0 < depth
  isOpen : Bool
  /-- All that was ever sent. -/
  sent : List Event

namespace Channel

/-- The number of events that are no longer there. -/
def gone (c : Channel) : Nat := c.sent.length - c.depth

def send (c : Channel) (e : Event) : Channel := { c with sent := c.sent ++ [e] }

def close (c : Channel) : Channel := { c with isOpen := false }

/-- What a use of the bus does to the channel of that name. -/
def meet (name : String) (c : Channel) : Bus.Op → Channel
  | .publish channel e => if c.isOpen && name == channel then c.send e else c
  | .close channel => if name = channel then c.close else c
  | _ => c

theorem length_sent_le (name : String) (c : Channel) (op : Bus.Op) :
    c.sent.length ≤ (c.meet name op).sent.length := by
  cases op with
  | publish channel e =>
    rw [meet]
    split
    · rw [send, List.length_append]
      exact Nat.le_add_right _ _
    · exact Nat.le_refl _
  | close channel =>
    rw [meet]
    split <;> exact Nat.le_refl _
  | subscribe channel conflate => exact Nat.le_refl _
  | drain t => exact Nat.le_refl _
  | drop t => exact Nat.le_refl _

theorem depth_meet (name : String) (c : Channel) (op : Bus.Op) :
    (c.meet name op).depth = c.depth := by
  cases op with
  | publish channel e => exact apply_ite depth .. |>.trans (ite_self _)
  | close channel => exact apply_ite depth .. |>.trans (ite_self _)
  | subscribe channel conflate => rfl
  | drain t => rfl
  | drop t => rfl

end Channel

structure Cursor where
  channel : Channel
  /-- The number of events behind it. -/
  next : Nat
  inside : next ≤ channel.sent.length

namespace Cursor

/-- That of a new subscriber: all that was sent is behind it. -/
def new (c : Channel) : Cursor := ⟨c, c.sent.length, Nat.le_refl _⟩

/-- The cursor when its channel went on to be `c`. -/
def on (r : Cursor) (c : Channel) (le : r.channel.sent.length ≤ c.sent.length) : Cursor :=
  ⟨c, r.next, Nat.le_trans r.inside le⟩

def backlog (r : Cursor) : Backlog :=
  ⟨r.channel.isOpen, r.channel.gone - r.next, r.channel.sent.drop (max r.next r.channel.gone)⟩

def newest (r : Cursor) : Newest :=
  ⟨r.channel.isOpen, if r.next < r.channel.sent.length then r.channel.sent.getLast? else none⟩

def tryReceive (r : Cursor) : Except Refusal Event × Cursor :=
  if r.next < r.channel.gone then
    (.error (.lagged (r.channel.gone - r.next)), ⟨r.channel, r.channel.gone, Nat.sub_le _ _⟩)
  else if more : r.next < r.channel.sent.length then
    (.ok r.channel.sent[r.next], ⟨r.channel, r.next + 1, more⟩)
  else (.error (if r.channel.isOpen then .empty else .closed), r)

def queueReceiver : QueueReceiver Cursor where
  view := backlog
  tryReceive := tryReceive
  reportsLoss r lost := by
    have behind : r.next < r.channel.gone := by
      simp only [backlog] at lost
      omega
    rw [tryReceive, if_pos behind]
    simp [backlog, Nat.max_eq_right (Nat.le_of_lt behind)]
  givesOldest r e rest told events := by
    have ahead : ¬r.next < r.channel.gone := by
      simp only [backlog] at told
      omega
    simp only [backlog, Nat.max_eq_left (Nat.not_lt.1 ahead)] at events
    have more : r.next < r.channel.sent.length := by
      by_contra nothing
      rw [List.drop_eq_nil_of_le (Nat.not_lt.1 nothing)] at events
      cases events
    rw [List.drop_eq_getElem_cons more, List.cons.injEq] at events
    rw [tryReceive, if_neg ahead, dif_pos more, events.1, ← events.2]
    refine ⟨rfl, ?_⟩
    have later : max (r.next + 1) r.channel.gone = r.next + 1 := by omega
    have zero : r.channel.gone - (r.next + 1) = r.channel.gone - r.next := by omega
    simp only [backlog, later, zero]
  tellsEmpty r told events := by
    have ahead : ¬r.next < r.channel.gone := by
      simp only [backlog] at told
      omega
    simp only [backlog, Nat.max_eq_left (Nat.not_lt.1 ahead), List.drop_eq_nil_iff] at events
    rw [tryReceive, if_neg ahead, dif_neg (Nat.not_lt.2 events)]
    exact ⟨rfl, rfl⟩

def newestReceiver : NewestReceiver Cursor where
  view := newest
  hasChanged r := if r.channel.isOpen then some (r.next < r.channel.sent.length) else none
  takeNewest r := (r.channel.sent.getLast?, new r.channel)
  tellsClosed r := by
    have unseen : r.newest.unseen.isSome = decide (r.next < r.channel.sent.length) := by
      rw [newest]
      by_cases more : r.next < r.channel.sent.length
      · rw [if_pos more, List.getLast?_eq_some_getLast (List.ne_nil_of_length_pos (by omega))]
        exact (decide_eq_true more).symm
      · rw [if_neg more]
        exact (decide_eq_false more).symm
    rw [unseen]
    rfl
  givesNewest r e unseen := by
    have more : r.next < r.channel.sent.length := by
      by_contra seen
      rw [newest, if_neg seen] at unseen
      cases unseen
    rw [newest, if_pos more] at unseen
    refine ⟨unseen, ?_⟩
    rw [newest, newest, new, if_neg (Nat.lt_irrefl _)]

/-- Reads what there is to read, as a subscriber of this kind does. -/
def drain (name : String) (conflate : Bool) (r : Cursor) : Except BusError (List Event) × Cursor :=
  if conflate then newestReceiver.drain name r else queueReceiver.drain name r

/-- What one use of the bus does for the subscriber `t` of the channel of that name. -/
def meet (name : String) (conflate : Bool) (t : Ticket) (r : Cursor) (op : Bus.Op) : Cursor :=
  if op = .drain t then (r.drain name conflate).2
  else r.on (r.channel.meet name op) (r.channel.length_sent_le name op)

def replies (name : String) (conflate : Bool) (t : Ticket) (r : Cursor) :
    List Bus.Op → List (Except BusError (List Event))
  | [] => []
  | op :: rest =>
    (if op = .drain t then [(r.drain name conflate).1] else []) ++
      (r.meet name conflate t op).replies name conflate t rest

/-- What is unread before the cursor. -/
def mailbox (name : String) (conflate : Bool) (r : Cursor) : Mailbox :=
  if conflate then r.newest.mailbox name else r.backlog.mailbox name

variable (name : String) (conflate : Bool) (r : Cursor)

/-! ## Drains -/

/-- A subscriber that reads leaves the channel to the others as it was. -/
theorem channel_drain : (r.drain name conflate).2.channel = r.channel := by
  cases conflate with
  | true =>
    show (newestReceiver.drain name r).2.channel = r.channel
    rw [NewestReceiver.drain]
    split <;> rfl
  | false =>
    refine queueReceiver.drain_keeps name (f := channel) (fun r => ?_) r
    show r.tryReceive.2.channel = r.channel
    rw [tryReceive]
    split
    · rfl
    · split <;> rfl

theorem drain_mailbox : (r.mailbox name conflate).drain =
    ((r.drain name conflate).1, (r.drain name conflate).2.mailbox name conflate) := by
  cases conflate with
  | true => exact newestReceiver.drain_mailbox name r
  | false => exact queueReceiver.drain_mailbox name r

/-! ## What others do -/

theorem mailbox_new (c : Channel) (live : c.isOpen = true) :
    (new c).mailbox name conflate = Bus.opened name conflate := by
  cases conflate with
  | true =>
    have newest : (new c).newest = ⟨true, none⟩ := by
      rw [newest, new, live, if_neg (Nat.lt_irrefl _)]
    exact congrArg (Newest.mailbox · name) newest
  | false =>
    have kept : c.gone ≤ c.sent.length := Nat.sub_le _ _
    have backlog : (new c).backlog = ⟨true, 0, []⟩ := by
      simp only [backlog, new, live, Nat.sub_eq_zero_of_le kept, Nat.max_eq_left kept,
        List.drop_length]
    exact congrArg (Backlog.mailbox · name) backlog

/-- An event that is sent is the newest of all. -/
theorem newest_send (e : Event) (le : r.channel.sent.length ≤ (r.channel.send e).sent.length) :
    (r.on (r.channel.send e) le).newest = ⟨r.channel.isOpen, some e⟩ := by
  have more : r.next < (r.channel.sent ++ [e]).length := by
    rw [List.length_append]
    exact Nat.lt_succ_of_le r.inside
  rw [newest]
  show Newest.mk _ (if r.next < (r.channel.sent ++ [e]).length then _ else _) = _
  rw [if_pos more]
  show Newest.mk _ (r.channel.sent ++ [e]).getLast? = _
  rw [List.getLast?_concat]
  rfl

/-- It is one more event to read, unless as many as are kept are before the cursor. -/
theorem backlog_send (e : Event) (le : r.channel.sent.length ≤ (r.channel.send e).sent.length) :
    (r.on (r.channel.send e) le).backlog =
      if r.backlog.events.length < r.channel.depth then
        { r.backlog with events := r.backlog.events ++ [e] }
      else
        { r.backlog with lost := r.backlog.lost + 1, events := r.backlog.events.drop 1 ++ [e] } := by
  obtain ⟨⟨depth, keepsOne, isOpen, sent⟩, next, inside⟩ := r
  simp only [backlog, on, Channel.gone, Channel.send, List.length_drop, List.length_append,
    List.length_singleton, List.drop_drop] at le inside ⊢
  split
  · rename_i room
    have told : sent.length - depth ≤ next := by omega
    have told' : sent.length + 1 - depth ≤ next := by omega
    rw [Nat.max_eq_left told, Nat.max_eq_left told', Nat.sub_eq_zero_of_le told,
      Nat.sub_eq_zero_of_le told', List.drop_append_of_le_length inside]
  · rename_i full
    have oldest : max next (sent.length - depth) = sent.length - depth := by omega
    have oldest' : max next (sent.length + 1 - depth) = sent.length - depth + 1 := by omega
    have lost : sent.length + 1 - depth - next = sent.length - depth - next + 1 := by omega
    rw [oldest, oldest', lost, List.drop_append_of_le_length (by omega)]

theorem mailbox_send (e : Event) (le : r.channel.sent.length ≤ (r.channel.send e).sent.length) :
    (r.on (r.channel.send e) le).mailbox name conflate =
      (r.mailbox name conflate).deliver r.channel.depth e := by
  cases conflate with
  | true => exact congrArg (Newest.mailbox · name) (r.newest_send e le)
  | false =>
    refine (congrArg (Backlog.mailbox · name) (r.backlog_send e le)).trans ?_
    show _ = Mailbox.mk name _ (Mailbox.enqueue _ _ _ _)
    rw [Mailbox.enqueue]
    split <;> rfl

@[simp] theorem mailbox_isOpen : (r.mailbox name conflate).isOpen = r.channel.isOpen := by
  cases conflate <;> rfl

@[simp] theorem mailbox_channel : (r.mailbox name conflate).channel = name := by
  cases conflate <;> rfl

/-- What is before a cursor changes as a mailbox does. -/
theorem mailbox_meet (t : Ticket) (op : Bus.Op) :
    (r.meet name conflate t op).mailbox name conflate =
      (r.mailbox name conflate).meet r.channel.depth t op := by
  rw [meet]
  by_cases own : op = .drain t
  · rw [if_pos own, own, Mailbox.meet_drain, drain_mailbox]
  · rw [if_neg own]
    cases op with
    | subscribe channel conflate' => rfl
    | drop t' => rfl
    | drain t' =>
      have other : ¬t = t' := fun same => own (by rw [same])
      rw [Mailbox.meet, if_neg other]
      rfl
    | publish channel e =>
      simp only [Mailbox.meet, Mailbox.listens, mailbox_isOpen, mailbox_channel]
      by_cases hears : (r.channel.isOpen && name == channel) = true
      · have sent : r.channel.meet name (.publish channel e) = r.channel.send e := if_pos hears
        simp only [sent, if_pos hears]
        exact r.mailbox_send name conflate e _
      · have same : r.channel.meet name (.publish channel e) = r.channel := if_neg hears
        simp only [same, if_neg hears]
        rfl
    | close channel =>
      simp only [Mailbox.meet, mailbox_channel]
      by_cases ends : name = channel
      · have closed : r.channel.meet name (.close channel) = r.channel.close := if_pos ends
        simp only [closed, if_pos ends]
        cases conflate <;> rfl
      · have same : r.channel.meet name (.close channel) = r.channel := if_neg ends
        simp only [same, if_neg ends]
        rfl

/-! ## Runs -/

/-- Neither the channel nor what it keeps depends on who reads it. -/
theorem channel_meet (t : Ticket) (op : Bus.Op) :
    (r.meet name conflate t op).channel = r.channel.meet name op := by
  rw [meet]
  by_cases own : op = .drain t
  · rw [if_pos own, own]
    exact r.channel_drain name conflate
  · rw [if_neg own]
    rfl

theorem replies_eq (t : Ticket) (ops : List Bus.Op) :
    r.replies name conflate t ops = (r.mailbox name conflate).replies r.channel.depth t ops := by
  induction ops generalizing r with
  | nil => rfl
  | cons op rest ih =>
    have deep : (r.meet name conflate t op).channel.depth = r.channel.depth := by
      rw [channel_meet, Channel.depth_meet]
    rw [replies, Mailbox.replies, ih, deep, mailbox_meet, drain_mailbox]

end Cursor

/-- **A subscription answers what it reads from the channel.** Along every run that does not give it up,
the drains of a new subscription answer what a cursor on its channel reads there, for every history of
the channel and however many others read it. -/
theorem Bus.answers_eq_replies (b : Bus) (name : String) (conflate : Bool) (c : Channel)
    (live : c.isOpen = true) (deep : c.depth = b.depth) {ops : List Bus.Op}
    (kept : .drop ⟨b.next⟩ ∉ ops) :
    (b.subscribe name conflate).2.answers ⟨b.next⟩ ops =
      (Cursor.new c).replies name conflate ⟨b.next⟩ ops := by
  have same : (b.subscribe name conflate).2.depth = c.depth :=
    (b.perform_depth (.subscribe name conflate)).trans deep.symm
  rw [(b.holds_subscribe name conflate).answers_eq kept, Cursor.replies_eq,
    Cursor.mailbox_new name conflate c live, same]
  rfl

end CanScope
