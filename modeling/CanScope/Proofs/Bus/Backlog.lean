import CanScope.Proofs.Bus.Audience
import Mathlib.Algebra.GroupWithZero.Nat
import Mathlib.Data.List.Forall2
import Mathlib.Data.List.TakeWhile
import Mathlib.Order.Bounds.Defs

/-!
# Nothing is lost in silence

The reference for a queueing subscription is the plain list of all events published on its channel
since it was opened. Its answers account for them from the front: a drain that succeeds for those it
returns, a reported lag for as many as it says. What is left is the backlog (`outstanding`).

**Invariant (`Mailbox.Keeps`).** The mailbox holds the last events of the backlog, as many as fit,
and counts those before them. A closed mailbox still has the count, and it takes in nothing more, so
it is the events up to the first `close` that matter (`heard`). `keeps_after` is the induction over
any run of the bus.

**Results.**
* `queued_lossless`: while the subscription is kept and its channel stays open, a drain returns the
  backlog if it fits and else reports by how much it does not and leaves the last events as the
  backlog. So every event is delivered once and in order or counted in one report, whatever else is
  done on the bus; and publishing counts exactly the live queueing subscriptions.
-/
namespace CanScope

namespace Bus

/-- The events published on `channel`, in order. -/
def published (channel : String) (ops : List Op) : List Event :=
  ops.filterMap fun
    | .publish c e => if c = channel then some e else none
    | _ => none

/-- The events published on `channel` before it is first closed. -/
def heard (channel : String) (ops : List Op) : List Event :=
  published channel (ops.takeWhile (· ≠ .close channel))

/-- How many events an answer accounts for. -/
def spent : Except BusError (List Event) → Nat
  | .ok events => events.length
  | .error (.lagged _ skipped) => skipped
  | .error _ => 0

/-- The events that the answers do not account for. -/
def outstanding (events : List Event) (answers : List (Except BusError (List Event))) : List Event :=
  events.drop (answers.map spent).sum

/-- The events published on `c` and neither delivered to `t` nor reported to it as lost. -/
def backlog (b : Bus) (t : Ticket) (c : String) (since : List Op) : List Event :=
  outstanding (published c since) (b.answers t since)

/-- The answer accounts for the events of `part`. -/
def Accounts (c : String) (answer : Except BusError (List Event)) (part : List Event) : Prop :=
  answer = .ok part ∨ part ≠ [] ∧ answer = .error (.lagged c part.length)

/-- Uses of the bus that a queueing subscription `t` on `c` has to do with. -/
def concerns (c : String) (t : Ticket) : Op → Bool
  | .publish channel _ => channel = c
  | .drain t' => t' = t
  | _ => false

/-- How a queueing subscription `t` on `c` stands after the run `since` of the bus `b`, which has
just given it out. -/
structure Lossless (b : Bus) (t : Ticket) (c : String) (since : List Op) : Prop where
  /-- A backlog that fits is delivered whole. -/
  delivers : (b.backlog t c since).length ≤ b.depth →
    ((b.run since).drain t).1 = .ok (b.backlog t c since) ∧
      b.backlog t c (since ++ [.drain t]) = []
  /-- One that does not fit is cut to the last events, and the number of the others is reported. -/
  reports : b.depth < (b.backlog t c since).length →
    ((b.run since).drain t).1 =
        .error (.lagged c ((b.backlog t c since).length - b.depth)) ∧
      b.backlog t c (since ++ [.drain t]) =
        (published c since).drop ((published c since).length - b.depth)
  /-- The answers account for all events before the backlog, one after the other. -/
  accounts : ∃ parts, List.Forall₂ (Accounts c) (b.answers t since) parts ∧
    parts.flatten ++ b.backlog t c since = published c since
  independent : b.answers t (since.filter (concerns c t)) = b.answers t since

/-! ## The depth of a queue -/

theorem isLeast_powerCeiling (n : Nat) :
    IsLeast {p | p.isPowerOfTwo ∧ n ≤ p} (powerCeiling n) := by
  unfold powerCeiling
  split
  · rename_i small
    refine ⟨⟨⟨0, rfl⟩, small⟩, ?_⟩
    rintro p ⟨⟨k, rfl⟩, -⟩
    exact Nat.one_le_two_pow
  · rename_i large
    have pos : n - 1 ≠ 0 := by omega
    refine ⟨⟨⟨_, rfl⟩, ?_⟩, ?_⟩
    · have above := (Nat.log2_lt pos).1 (Nat.lt_succ_self (n - 1).log2)
      show n ≤ 2 ^ ((n - 1).log2 + 1)
      omega
    · rintro p ⟨⟨k, rfl⟩, fits⟩
      have below : (n - 1).log2 < k := (Nat.log2_lt pos).2 (by omega)
      exact Nat.pow_le_pow_right Nat.two_pos below

theorem depth_pos (b : Bus) : 0 < b.depth := by
  obtain ⟨k, hk⟩ := (isLeast_powerCeiling b.queueCapacity).1.1
  rw [depth, hk]
  exact Nat.two_pow_pos k

/-! ## The events of a channel -/

theorem published_append (c : String) (ops more : List Op) :
    published c (ops ++ more) = published c ops ++ published c more := List.filterMap_append

theorem heard_eq_published {c : String} {ops : List Op} (live : .close c ∉ ops) :
    heard c ops = published c ops := by
  rw [heard, List.takeWhile_eq_self_iff.2]
  intro op hop
  have other : op ≠ .close c := fun same => live (same ▸ hop)
  exact decide_eq_true other

/-- What follows the first `close` is not heard. -/
theorem heard_append (c : String) (ops more : List Op) :
    heard c (ops ++ more) = heard c ops ++ if .close c ∈ ops then [] else heard c more := by
  induction ops with
  | nil => rfl
  | cons op rest ih =>
    by_cases closes : op = .close c
    · subst closes
      simp [heard]
    · have go (tail : List Op) : heard c (op :: tail) = published c [op] ++ heard c tail := by
        rw [heard, List.takeWhile_cons_of_pos (by simpa using closes), ← List.singleton_append,
          published_append, ← heard]
      have same : (.close c ∈ op :: rest) ↔ .close c ∈ rest := by
        rw [List.mem_cons]
        exact or_iff_right (Ne.symm closes)
      rw [List.cons_append, go, go, ih, List.append_assoc, if_congr same rfl rfl]

theorem heard_append_publish (c channel : String) (e : Event) (ops : List Op) :
    heard c (ops ++ [.publish channel e]) =
      if channel = c ∧ .close c ∉ ops then heard c ops ++ [e] else heard c ops := by
  rw [heard_append]
  by_cases closed : .close c ∈ ops
  · simp [closed]
  · by_cases same : channel = c <;> simp [closed, same, heard, published]

theorem heard_append_other (c : String) {op : Op} (h : ∀ channel e, op ≠ .publish channel e)
    (ops : List Op) : heard c (ops ++ [op]) = heard c ops := by
  have nothing : heard c [op] = [] := by
    cases op with
    | publish channel e => exact absurd rfl (h channel e)
    | subscribe channel conflate => rfl
    | drain t => rfl
    | drop t => rfl
    | close channel => by_cases same : channel = c <;> simp [heard, published, same]
  rw [heard_append, nothing, ite_self, List.append_nil]

theorem outstanding_append_events {events : List Event} {answers : List (Except BusError (List Event))}
    (fits : (answers.map spent).sum ≤ events.length) (more : List Event) :
    outstanding (events ++ more) answers = outstanding events answers ++ more :=
  List.drop_append_of_le_length fits

theorem outstanding_append_answer (events : List Event)
    (answers : List (Except BusError (List Event))) (answer : Except BusError (List Event)) :
    outstanding events (answers ++ [answer]) = (outstanding events answers).drop (spent answer) := by
  simp only [outstanding, List.map_append, List.map_singleton, List.sum_append, List.sum_singleton,
    List.drop_drop]

end Bus

open Bus

namespace Mailbox

/-- Of the events `pending` the queueing mailbox holds the last ones, as many as fit, and has the
number of the others. -/
structure Keeps (depth : Nat) (c : String) (pending : List Event) (m : Mailbox) : Prop where
  channel : m.channel = c
  queue : ∃ kept, m.unread = .queue (pending.length - depth) kept ∧
    (m.isOpen = true → kept = pending.drop (pending.length - depth))

namespace Keeps

variable {depth : Nat} {c : String} {pending : List Event} {m : Mailbox}

theorem queueing (depth : Nat) (c : String) : (Mailbox.queueing c).Keeps depth c [] :=
  ⟨rfl, [], by simp [Mailbox.queueing], fun _ => by simp⟩

/-- A full queue pushes its oldest event out. -/
theorem deliver (h : m.Keeps depth c pending) (isOpen : m.isOpen = true) (room : 0 < depth)
    (e : Event) : (m.deliver depth e).Keeps depth c (pending ++ [e]) := by
  obtain ⟨kept, held, last⟩ := h.queue
  have last := last isOpen
  have size : kept.length = pending.length - (pending.length - depth) := by
    rw [last, List.length_drop]
  have length : (pending ++ [e]).length = pending.length + 1 := by simp
  have unread : (m.deliver depth e).unread = enqueue depth (pending.length - depth) kept e := by
    simp only [Mailbox.deliver, held]
  refine ⟨(deliver_channel depth m e).trans h.channel, ?_⟩
  rw [unread, enqueue, length]
  split
  · rename_i fits
    have lost : pending.length - depth = 0 := by omega
    have lost' : pending.length + 1 - depth = 0 := by omega
    refine ⟨kept ++ [e], by rw [lost, lost'], fun _ => ?_⟩
    rw [last, lost, lost', List.drop_zero, List.drop_zero]
  · rename_i full
    have lost : pending.length + 1 - depth = pending.length - depth + 1 := by omega
    refine ⟨kept.drop 1 ++ [e], by rw [lost], fun _ => ?_⟩
    rw [last, lost, List.drop_drop, List.drop_append_of_le_length (by omega)]

theorem drain_answer (h : m.Keeps depth c pending) :
    m.drain.1 = if depth < pending.length then .error (.lagged c (pending.length - depth))
      else if m.isOpen then .ok pending else .error (.closed c) := by
  obtain ⟨kept, held, last⟩ := h.queue
  simp only [Mailbox.drain_eq, held, h.channel]
  by_cases lag : depth < pending.length
  · have lost : pending.length - depth ≠ 0 := by omega
    rw [if_pos lost, if_pos lag]
  · have lost : pending.length - depth = 0 := by omega
    rw [if_neg (by omega), if_neg lag]
    cases isOpen : m.isOpen with
    | true =>
      rw [if_pos rfl, if_pos rfl, last isOpen, lost]
      rfl
    | false => rw [if_neg Bool.false_ne_true, if_neg Bool.false_ne_true]

theorem spent_le (h : m.Keeps depth c pending) : spent m.drain.1 ≤ pending.length := by
  rw [h.drain_answer]
  split
  · exact Nat.sub_le _ _
  · split
    · exact Nat.le_refl _
    · exact Nat.zero_le _

theorem accounts (h : m.Keeps depth c pending) (isOpen : m.isOpen = true) :
    Accounts c m.drain.1 (pending.take (spent m.drain.1)) := by
  rw [h.drain_answer, if_pos isOpen]
  by_cases lag : depth < pending.length
  · have length : (pending.take (pending.length - depth)).length = pending.length - depth := by
      rw [List.length_take]
      omega
    rw [if_pos lag, spent]
    refine .inr ⟨fun nothing => ?_, by rw [length]⟩
    rw [nothing, List.length_nil] at length
    omega
  · rw [if_neg lag, spent, List.take_length]
    exact .inl rfl

/-- A drain takes from the front of the backlog what its answer accounts for. -/
theorem drain (h : m.Keeps depth c pending) :
    m.drain.2.Keeps depth c (pending.drop (spent m.drain.1)) := by
  refine ⟨(drain_channel m).trans h.channel, ?_⟩
  rw [drain_isOpen, h.drain_answer]
  obtain ⟨kept, held, last⟩ := h.queue
  simp only [Mailbox.drain_eq, held]
  by_cases lag : depth < pending.length
  · have lost : pending.length - depth ≠ 0 := by omega
    have length : (pending.drop (pending.length - depth)).length = depth := by
      rw [List.length_drop]
      omega
    rw [if_pos lost, if_pos lag, spent, length, Nat.sub_self]
    exact ⟨kept, rfl, last⟩
  · have lost : pending.length - depth = 0 := by omega
    rw [if_neg (by omega), if_neg lag]
    cases isOpen : m.isOpen with
    | true => exact ⟨[], by simp [spent], fun _ => by simp [spent]⟩
    | false => exact ⟨[], by simp [spent, lost], fun h => by cases h⟩

theorem meet_other (h : m.Keeps depth c pending) {t : Ticket} {op : Op} (silent : op ≠ .drain t)
    (quiet : ∀ e, op ≠ .publish c e) : (m.meet depth t op).Keeps depth c pending := by
  rcases m.meet_other depth silent (by rwa [h.channel]) with same | closed
  · rwa [same]
  · rw [closed]
    obtain ⟨kept, held, -⟩ := h.queue
    exact ⟨h.channel, kept, held, fun h => by cases h⟩

end Keeps

/-! ## Runs -/

/-- A new queueing mailbox keeps the backlog of its subscription along every run. -/
theorem keeps_after {depth : Nat} (room : 0 < depth) (t : Ticket) (c : String) (ops : List Op) :
    ((queueing c).after depth t ops).Keeps depth c
        (outstanding (heard c ops) ((queueing c).replies depth t ops)) ∧
      (((queueing c).replies depth t ops).map spent).sum ≤ (heard c ops).length := by
  induction ops using List.reverseRecOn with
  | nil => exact ⟨.queueing depth c, Nat.le_refl 0⟩
  | append_singleton ops op ih =>
    obtain ⟨keeps, fits⟩ := ih
    have isOpen := (queueing c).after_isOpen_iff depth t ops
    rw [after_append, replies_append]
    generalize (queueing c).after depth t ops = m at keeps isOpen ⊢
    generalize (queueing c).replies depth t ops = answers at keeps fits ⊢
    have step : m.after depth t [op] = m.meet depth t op := rfl
    rw [step]
    rcases op_cases t op with rfl | ⟨channel, e, rfl⟩ | ⟨silent, quiet⟩
    · rw [heard_append_other c (by simp), meet_drain, replies_drain, replies,
        outstanding_append_answer]
      refine ⟨keeps.drain, ?_⟩
      have small := keeps.spent_le
      rw [outstanding, List.length_drop] at small
      rw [List.map_append, List.sum_append, List.map_singleton, List.sum_singleton]
      omega
    · have listens : m.listens channel = true ↔ channel = c ∧ .close c ∉ ops := by
        rw [Mailbox.listens, Bool.and_eq_true, isOpen, keeps.channel, beq_iff_eq]
        exact ⟨fun h => ⟨h.2.symm, h.1.2⟩, fun h => ⟨⟨rfl, h.2⟩, h.1.symm⟩⟩
      rw [replies_other depth m (by simp), replies, List.append_nil, heard_append_publish, meet]
      by_cases hears : m.listens channel = true
      · have isOpen : m.isOpen = true := isOpen.2 ⟨rfl, (listens.1 hears).2⟩
        rw [if_pos hears, if_pos (listens.1 hears), outstanding_append_events fits,
          List.length_append]
        exact ⟨keeps.deliver isOpen room e, Nat.le_add_right_of_le fits⟩
      · rw [if_neg hears, if_neg (fun h => hears (listens.2 h))]
        exact ⟨keeps, fits⟩
    · rw [replies_other depth m silent, replies, List.append_nil, heard_append_other c quiet]
      exact ⟨keeps.meet_other silent (quiet c), fits⟩

/-- While the channel is open, every answer accounts for events that follow those before. -/
theorem accounts_replies {depth : Nat} (room : 0 < depth) (t : Ticket) (c : String) (ops : List Op)
    (live : .close c ∉ ops) :
    ∃ parts, List.Forall₂ (Accounts c) ((queueing c).replies depth t ops) parts ∧
      parts.flatten ++ outstanding (published c ops) ((queueing c).replies depth t ops) =
        published c ops := by
  induction ops using List.reverseRecOn with
  | nil => exact ⟨[], .nil, rfl⟩
  | append_singleton ops op ih =>
    have before : .close c ∉ ops := fun h => live (List.mem_append_left _ h)
    obtain ⟨parts, accounted, whole⟩ := ih before
    obtain ⟨keeps, fits⟩ := keeps_after room t c ops
    rw [heard_eq_published before] at keeps fits
    rw [published_append, replies_append]
    have isOpen : ((queueing c).after depth t ops).isOpen = true :=
      ((queueing c).after_isOpen_iff depth t ops).2 ⟨rfl, before⟩
    generalize (queueing c).after depth t ops = m at keeps isOpen ⊢
    generalize (queueing c).replies depth t ops = answers at accounted whole keeps fits ⊢
    by_cases own : op = .drain t
    · subst own
      have nothing : published c [.drain t] = [] := rfl
      rw [replies_drain, replies, nothing, List.append_nil, outstanding_append_answer]
      refine ⟨parts ++ [(outstanding (published c ops) answers).take (spent m.drain.1)],
        List.rel_append accounted (.cons (keeps.accounts isOpen) .nil), ?_⟩
      rw [List.flatten_append, List.flatten_singleton, List.append_assoc, List.take_append_drop]
      exact whole
    · rw [replies_other depth m own, replies, List.append_nil, outstanding_append_events fits]
      exact ⟨parts, accounted, by rw [← List.append_assoc, whole]⟩

/-- The answers are found with the uses of the bus that concern the subscription. -/
theorem replies_filter_concerns (depth : Nat) (t : Ticket) {c : String} (ops : List Op)
    (live : .close c ∉ ops) {m : Mailbox} (channel : m.channel = c) :
    m.replies depth t (ops.filter (concerns c t)) = m.replies depth t ops := by
  induction ops generalizing m with
  | nil => rfl
  | cons op rest ih =>
    rw [List.mem_cons, not_or] at live
    have later := ih live.2 ((m.meet_kind depth t op).1.trans channel)
    cases matters : concerns c t op with
    | true => rw [List.filter_cons_of_pos matters, replies, replies, later]
    | false =>
      have other : op ≠ .drain t := by
        rintro rfl
        simp [concerns] at matters
      have same : m.meet depth t op = m := by
        cases op with
        | publish channel' e =>
          have deaf : m.listens channel' = false := by
            rw [listens, Bool.and_eq_false_imp]
            intro _
            rw [channel, beq_eq_false_iff_ne]
            rintro rfl
            simp [concerns] at matters
          rw [meet, if_neg (by simp [deaf])]
        | drain t' => exact if_neg fun h => other (by rw [h])
        | close channel' => exact if_neg fun h => live.1 (by rw [← channel, h])
        | subscribe channel' conflate => rfl
        | drop t' => rfl
      rw [same] at later
      rw [List.filter_cons_of_neg (by simp [matters]), replies_other depth m other, same, later]

end Mailbox

namespace Bus

/-! ## A subscription on its bus -/

theorem Holds.lossless {b : Bus} {t : Ticket} {c : String} (h : b.Holds t (.queueing c))
    {since : List Op} (kept : .drop t ∉ since) (live : .close c ∉ since) :
    b.Lossless t c since := by
  obtain ⟨keeps, fits⟩ := Mailbox.keeps_after b.depth_pos t c since
  rw [heard_eq_published live, ← h.answers_eq kept] at keeps fits
  have isOpen : ((Mailbox.queueing c).after b.depth t since).isOpen = true :=
    ((Mailbox.queueing c).after_isOpen_iff b.depth t since).2 ⟨rfl, live⟩
  have answer : ((b.run since).drain t).1 = if b.depth < (b.backlog t c since).length then
      .error (.lagged c ((b.backlog t c since).length - b.depth))
      else .ok (b.backlog t c since) := by
    rw [(h.run kept).drain_eq, keeps.drain_answer, isOpen, if_pos rfl]
    rfl
  have next : b.backlog t c (since ++ [.drain t]) =
      (b.backlog t c since).drop (spent ((b.run since).drain t).1) := by
    have nothing : published c [.drain t] = [] := rfl
    rw [backlog, answers_drain, published_append, nothing, List.append_nil,
      outstanding_append_answer]
    rfl
  refine ⟨fun small => ?_, fun large => ?_, ?_, ?_⟩
  · rw [answer, if_neg (Nat.not_lt.2 small)] at next ⊢
    exact ⟨rfl, next.trans List.drop_length⟩
  · rw [answer, if_pos large] at next ⊢
    refine ⟨rfl, next.trans ?_⟩
    -- the backlog is an end of what was published, and so is an end of the backlog
    have size : (b.backlog t c since).length =
        (published c since).length - ((b.answers t since).map spent).sum := List.length_drop
    rw [spent, size, backlog, outstanding, List.drop_drop]
    congr 1
    omega
  · rw [backlog, h.answers_eq kept]
    exact Mailbox.accounts_replies b.depth_pos t c since live
  · have filtered : .drop t ∉ since.filter (concerns c t) := fun h =>
      kept (List.mem_of_mem_filter h)
    rw [h.answers_eq filtered, h.answers_eq kept]
    exact Mailbox.replies_filter_concerns b.depth t since live rfl

/-- **Nothing is lost in silence.** On every bus, whatever is done on it and through whichever handle,
a queueing subscription that is kept, on a channel that stays open, gets each event once and in order
or has it counted in one reported lag, where queues are as deep as the least power of two that the
capacity asked for does not exceed. An event reaches exactly the live queueing subscriptions. -/
theorem queued_lossless (capacity : Nat) (past since : List Op) (c : String)
    (kept : .drop (((withQueueCapacity capacity).run past).subscribe c false).1 ∉ since)
    (live : .close c ∉ since) :
    let b := (withQueueCapacity capacity).run past
    IsLeast {n | n.isPowerOfTwo ∧ max capacity 1 ≤ n} (b.subscribe c false).2.depth ∧
      (b.subscribe c false).2.Lossless (b.subscribe c false).1 c since ∧
      ∀ ops channel, ∃ reached : List Ticket, reached.Nodup ∧
        (∀ t, t ∈ reached ↔ (withQueueCapacity capacity).LiveQueued ops channel t) ∧
        ((withQueueCapacity capacity).run ops).audience channel = reached.length := by
  intro b
  refine ⟨?_, (b.holds_subscribe c false).lossless kept live, fun ops channel => ?_⟩
  · have depth : (b.subscribe c false).2.depth = (withQueueCapacity capacity).depth :=
      (b.perform_depth (.subscribe c false)).trans (run_depth _ past)
    rw [depth]
    exact isLeast_powerCeiling _
  · exact audience_eq (sound_withQueueCapacity capacity) rfl ops channel

/-! A queue of four: the second of two subscriptions reads one event, then six more come in. -/

def numbered (n : UInt32) : Event := .ofFrames [⟨0, n, []⟩]

/-- What was done before the subscription was opened. -/
def beforeOverrun : List Op := [.subscribe "can" false, .publish "can" (numbered 0)]

def overrun : List Op :=
  [.publish "can" (numbered 1), .drain ⟨1⟩, .publish "can" (numbered 2),
    .publish "can" (numbered 3), .publish "sendcan" (numbered 9), .publish "can" (numbered 4),
    .drain ⟨0⟩, .publish "can" (numbered 5), .close "sendcan", .publish "can" (numbered 6),
    .publish "can" (numbered 7)]

theorem queued_lossless_overrun :
    (.drop (((withQueueCapacity 3).run beforeOverrun).subscribe "can" false).1 ∉ overrun ∧
      .close "can" ∉ overrun) ∧
    (((withQueueCapacity 3).run beforeOverrun).subscribe "can" false).2.Lossless ⟨1⟩ "can" overrun ∧
    (((((withQueueCapacity 3).run beforeOverrun).subscribe "can" false).2.run overrun).drain ⟨1⟩).1 =
      .error (.lagged "can" 2) := by
  have kept : .drop (((withQueueCapacity 3).run beforeOverrun).subscribe "can" false).1 ∉ overrun := by
    decide
  have live : .close "can" ∉ overrun := by decide
  have lossless := (queued_lossless 3 beforeOverrun overrun "can" kept live).2.1
  exact ⟨⟨kept, live⟩, lossless, (lossless.reports (by decide)).1⟩

end Bus

end CanScope
