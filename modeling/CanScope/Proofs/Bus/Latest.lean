import CanScope.Proofs.Bus.Backlog
import Mathlib.Data.List.DropRight
import Mathlib.Data.List.ReduceOption

/-!
# The latest event wins

The reference for a conflating subscription is the plain list of the events published on its channel
since it was drained last (`unseen`). A drain brings the last of them, or nothing if there is none.

**Invariant (`Mailbox.Shows`).** The mailbox holds the last of the unseen events. Nothing but a
publication on its channel and its own drains has a part in that (`shows_after`).

**Results.**
* `latest_wins`: while the subscription is kept and its channel stays open, every drain brings just
  the last event published on the channel, unless that was seen before. So what it brings over time
  are events published since it was opened, in order and each once, whatever else is done on the bus.
-/
namespace CanScope

namespace Bus

/-- What was done since `t` was drained last, or at all if it never was. -/
def sinceDrain (t : Ticket) (ops : List Op) : List Op := ops.rtakeWhile (· ≠ .drain t)

/-- The events published on `c` since `t` was drained last. -/
def unseen (t : Ticket) (c : String) (ops : List Op) : List Event := published c (sinceDrain t ops)

/-- How a conflating subscription `t` on `c` stands after the run `past ++ since` of the bus `b`,
which gave it out at the end of `past`. -/
structure LatestWins (b : Bus) (t : Ticket) (c : String) (past since : List Op) : Prop where
  quiet : unseen t c since = [] → ((b.run (past ++ since)).drain t).1 = .ok []
  /-- The one event is the last that was ever published on the channel. -/
  newest : unseen t c since ≠ [] → ∃ e, (published c (past ++ since)).getLast? = some e ∧
    ((b.run (past ++ since)).drain t).1 = .ok [e]
  /-- Each answer brings at most one event, and together they bring events published since the
  subscription was opened, in order and none twice. -/
  fresh : ∃ brought : List (Option Event),
    (b.run past).answers t since = brought.map (fun e => .ok e.toList) ∧
      brought.reduceOption.Sublist (published c since)
  /-- Other channels and other subscriptions have no part in the answers. -/
  independent : (b.run past).answers t (since.filter (concerns c t)) = (b.run past).answers t since

/-! ## Unseen events -/

theorem sinceDrain_append (t : Ticket) (ops : List Op) (op : Op) :
    sinceDrain t (ops ++ [op]) = if op = .drain t then [] else sinceDrain t ops ++ [op] := by
  rw [sinceDrain, List.rtakeWhile_concat]
  by_cases own : op = .drain t <;> simp [own, sinceDrain]

theorem unseen_append_drain (t : Ticket) (c : String) (ops : List Op) :
    unseen t c (ops ++ [.drain t]) = [] := by
  rw [unseen, sinceDrain_append, if_pos rfl]
  rfl

theorem unseen_append_other {t : Ticket} {op : Op} (silent : op ≠ .drain t) (c : String)
    (ops : List Op) : unseen t c (ops ++ [op]) = unseen t c ops ++ published c [op] := by
  rw [unseen, sinceDrain_append, if_neg silent, published_append, unseen]

/-- The unseen events are the last ones published. -/
theorem unseen_suffix (t : Ticket) (c : String) (ops : List Op) :
    unseen t c ops <:+ published c ops :=
  (List.rtakeWhile_suffix _ ops).filterMap _

theorem published_eq_nil {c : String} {op : Op} (h : ∀ e, op ≠ .publish c e) :
    published c [op] = [] := by
  cases op with
  | publish channel e =>
    have other : channel ≠ c := by
      rintro rfl
      exact h e rfl
    simp [published, other]
  | subscribe channel conflate => rfl
  | drain t => rfl
  | drop t => rfl
  | close channel => rfl

end Bus

open Bus

namespace Mailbox

/-- The conflating mailbox holds the last of the events `pending`. -/
structure Shows (c : String) (pending : List Event) (m : Mailbox) : Prop where
  channel : m.channel = c
  unread : m.unread = .latest pending.getLast?

namespace Shows

variable {depth : Nat} {c : String} {pending : List Event} {m : Mailbox}

theorem conflating (c : String) : (Mailbox.conflating c).Shows c [] := ⟨rfl, rfl⟩

theorem deliver (h : m.Shows c pending) (depth : Nat) (e : Event) :
    (m.deliver depth e).Shows c (pending ++ [e]) := by
  refine ⟨(deliver_channel depth m e).trans h.channel, ?_⟩
  rw [List.getLast?_append_cons, List.getLast?_singleton]
  simp only [Mailbox.deliver, h.unread]

theorem drain_answer (h : m.Shows c pending) :
    m.drain.1 = if m.isOpen then .ok pending.getLast?.toList else .error (.closed c) := by
  simp only [Mailbox.drain_eq, h.unread, h.channel]
  cases m.isOpen <;> rfl

theorem drain (h : m.Shows c pending) (isOpen : m.isOpen = true) : m.drain.2.Shows c [] := by
  refine ⟨(drain_channel m).trans h.channel, ?_⟩
  simp only [Mailbox.drain_eq, h.unread, isOpen]
  rfl

/-- A use of the bus that brings no event of the channel and does not read the mailbox. -/
theorem meet_other (h : m.Shows c pending) {t : Ticket} {op : Op} (silent : op ≠ .drain t)
    (quiet : ∀ e, op ≠ .publish c e) : (m.meet depth t op).Shows c pending := by
  rcases m.meet_other depth silent (by rwa [h.channel]) with same | closed
  · rwa [same]
  · rw [closed]
    exact ⟨h.channel, h.unread⟩

end Shows

/-! ## Runs -/

/-- While the channel is open, a new conflating mailbox shows the last unseen event, and what it
brought and what is unseen came in in this order. -/
theorem shows_after (depth : Nat) (t : Ticket) (c : String) (ops : List Op) (live : .close c ∉ ops) :
    ((conflating c).after depth t ops).Shows c (unseen t c ops) ∧
      ∃ brought : List (Option Event),
        (conflating c).replies depth t ops = brought.map (fun e => .ok e.toList) ∧
          (brought.reduceOption ++ unseen t c ops).Sublist (published c ops) := by
  induction ops using List.reverseRecOn with
  | nil => exact ⟨.conflating c, [], rfl, List.Sublist.refl []⟩
  | append_singleton ops op ih =>
    have before : .close c ∉ ops := fun h => live (List.mem_append_left _ h)
    obtain ⟨shows, brought, replies_eq, sublist⟩ := ih before
    have isOpen : ((conflating c).after depth t ops).isOpen = true :=
      ((conflating c).after_isOpen_iff depth t ops).2 ⟨rfl, before⟩
    rw [after_append, replies_append, replies_eq, published_append]
    generalize (conflating c).after depth t ops = m at shows isOpen ⊢
    have step : m.after depth t [op] = m.meet depth t op := rfl
    rw [step]
    rcases op_cases_on c t op with rfl | ⟨e, rfl⟩ | ⟨silent, quiet⟩
    · -- what is unseen goes, and the last of it is brought
      have last : (unseen t c ops).getLast?.toList.Sublist (unseen t c ops) := by
        cases found : (unseen t c ops).getLast? with
        | none => exact List.nil_sublist _
        | some e => exact List.singleton_sublist.2 (List.mem_of_getLast? found)
      rw [unseen_append_drain, meet_drain, replies_drain, replies, shows.drain_answer, if_pos isOpen]
      refine ⟨shows.drain isOpen, brought ++ [(unseen t c ops).getLast?], by simp, ?_⟩
      rw [List.append_nil, List.reduceOption_append, List.reduceOption_singleton]
      exact (((List.Sublist.refl _).append last).trans sublist).trans (List.sublist_append_left _ _)
    · have listens : m.listens c = true := by
        rw [listens, isOpen, shows.channel, beq_self_eq_true, Bool.and_self]
      have one : published c [.publish c e] = [e] := by simp [published]
      rw [unseen_append_other (by simp), replies_other depth m (by simp), replies, List.append_nil,
        one, meet, if_pos listens]
      refine ⟨shows.deliver depth e, brought, rfl, ?_⟩
      rw [← List.append_assoc]
      exact sublist.append (List.Sublist.refl [e])
    · rw [unseen_append_other silent, published_eq_nil quiet, List.append_nil, List.append_nil,
        replies_other depth m silent, replies, List.append_nil]
      exact ⟨shows.meet_other silent quiet, brought, rfl, sublist⟩

end Mailbox

namespace Bus

/-! ## A subscription on its bus -/

theorem Holds.latestWins {b : Bus} {t : Ticket} {c : String} {past since : List Op}
    (h : (b.run past).Holds t (.conflating c)) (kept : .drop t ∉ since) (live : .close c ∉ since) :
    b.LatestWins t c past since := by
  obtain ⟨shows, brought, replies, sublist⟩ :=
    Mailbox.shows_after (b.run past).depth t c since live
  have isOpen : ((Mailbox.conflating c).after (b.run past).depth t since).isOpen = true :=
    ((Mailbox.conflating c).after_isOpen_iff _ t since).2 ⟨rfl, live⟩
  have answer : ((b.run (past ++ since)).drain t).1 = .ok (unseen t c since).getLast?.toList := by
    rw [run_append, (h.run kept).drain_eq, shows.drain_answer, if_pos isOpen]
  refine ⟨fun none => ?_, fun some => ?_, ⟨brought, ?_, ?_⟩, ?_⟩
  · rw [answer, none]
    rfl
  · obtain ⟨earlier, e, last⟩ := (List.eq_nil_or_concat (unseen t c since)).resolve_left some
    obtain ⟨seen, whole⟩ := unseen_suffix t c since
    rw [List.concat_eq_append] at last
    refine ⟨e, ?_, ?_⟩
    · rw [published_append, ← whole, last, ← List.append_assoc, ← List.append_assoc,
        List.getLast?_append_cons, List.getLast?_singleton]
    · rw [answer, last, List.getLast?_append_cons, List.getLast?_singleton]
      rfl
  · rw [h.answers_eq kept, replies]
  · exact (List.sublist_append_left _ _).trans sublist
  · have filtered : .drop t ∉ since.filter (concerns c t) := fun dropped =>
      kept (List.mem_of_mem_filter dropped)
    rw [h.answers_eq filtered, h.answers_eq kept]
    exact Mailbox.replies_filter_concerns _ t since live rfl

/-- **The latest event wins.** On every bus, whatever is done on it and through whichever handle, a
drain of a conflating subscription that is kept, on a channel that stays open, brings the last event
published on the channel if it came in since the drain before, and nothing otherwise. -/
theorem latest_wins (capacity : Nat) (past since : List Op) (c : String)
    (kept : .drop ⟨((withQueueCapacity capacity).run past).next⟩ ∉ since)
    (live : .close c ∉ since) :
    (withQueueCapacity capacity).LatestWins ⟨((withQueueCapacity capacity).run past).next⟩ c
      (past ++ [.subscribe c true]) since := by
  have opened := ((withQueueCapacity capacity).run past).holds_subscribe c true
  have started : ((withQueueCapacity capacity).run (past ++ [.subscribe c true])) =
      (((withQueueCapacity capacity).run past).subscribe c true).2 :=
    run_append _ past [.subscribe c true]
  rw [← started] at opened
  exact Holds.latestWins opened kept live

/-! A queue is read beside it, an event came in before it was opened, and its first drain is followed
by two more events. -/

def beforeWatch : List Op :=
  [.subscribe "can" false, .publish "can" (numbered 0), .subscribe "can" true]

def watched : List Op :=
  [.publish "can" (numbered 1), .drain ⟨2⟩, .publish "can" (numbered 2), .drain ⟨0⟩,
    .publish "can" (numbered 3), .drain ⟨1⟩, .publish "sendcan" (numbered 9), .drop ⟨0⟩,
    .close "sendcan"]

theorem latest_wins_watched :
    (.drop ⟨((withQueueCapacity 1).run beforeWatch).next⟩ ∉ watched ∧ .close "can" ∉ watched) ∧
    (withQueueCapacity 1).LatestWins ⟨2⟩ "can" (beforeWatch ++ [.subscribe "can" true]) watched ∧
    (((withQueueCapacity 1).run (beforeWatch ++ [.subscribe "can" true] ++ watched)).drain ⟨2⟩).1 =
      .ok [numbered 3] := by
  have kept : .drop ⟨((withQueueCapacity 1).run beforeWatch).next⟩ ∉ watched := by decide
  have live : .close "can" ∉ watched := by decide
  have wins := latest_wins 1 beforeWatch watched "can" kept live
  obtain ⟨e, last, answer⟩ := wins.newest (by decide)
  refine ⟨⟨kept, live⟩, wins, ?_⟩
  have same : (published "can" (beforeWatch ++ [.subscribe "can" true] ++ watched)).getLast? =
      some (numbered 3) := by decide
  rw [same, Option.some.injEq] at last
  rw [last]
  exact answer

end Bus

end CanScope
