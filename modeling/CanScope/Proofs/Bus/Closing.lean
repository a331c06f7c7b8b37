import CanScope.Proofs.Bus.Backlog

/-!
# Closing is final

Several generations of a channel may live side by side: `close` ends one, and the next use of its
name starts another. A subscription belongs to the generation that it was opened on.

**The old generation.** A closed mailbox takes nothing in and never opens again, whatever becomes of
the name. It is `Silent` once it has no lag to report: every drain finds its channel closed.

**The new generation.** A subscription starts behind all that was published before it, so it cannot
tell a bus with a past from one where that past had no events (`agreeOn_run_filter`).

**Results.**
* `closing_final`: after `close` a conflating subscription of the channel finds it closed at every
  drain; a queueing one does so too, after one report at its first drain if its backlog did not fit;
  and new subscriptions answer as if nothing had been published on a channel before them.
-/
namespace CanScope

open Bus

namespace Mailbox

/-- A closed mailbox of `c` with nothing left to report. -/
structure Silent (c : String) (m : Mailbox) : Prop where
  channel : m.channel = c
  closed : m.isOpen = false
  told : ∀ lost kept, m.unread = .queue lost kept → lost = 0

variable {depth : Nat} {t : Ticket} {c : String} {m : Mailbox}

theorem listens_of_closed (closed : m.isOpen = false) (channel : String) :
    m.listens channel = false := by
  rw [listens, closed, Bool.false_and]

theorem Silent.drain_answer (h : m.Silent c) : m.drain.1 = .error (.closed c) := by
  rw [drain_eq, h.closed, h.channel]
  cases unread : m.unread with
  | latest event => rfl
  | queue lost kept =>
    have told := h.told lost kept unread
    simp [told]

theorem Silent.drain (h : m.Silent c) : m.drain.2.Silent c := by
  refine ⟨(drain_channel m).trans h.channel, (drain_isOpen m).trans h.closed, ?_⟩
  rw [drain_eq, h.closed]
  cases unread : m.unread with
  | latest event =>
    intro lost kept same
    exact absurd (unread.symm.trans same) (by simp)
  | queue lost kept =>
    have told := h.told lost kept unread
    simp [told]

theorem Silent.meet (h : m.Silent c) (op : Op) : (m.meet depth t op).Silent c := by
  cases op with
  | subscribe channel conflate => exact h
  | drop t' => exact h
  | publish channel e =>
    rw [Mailbox.meet, listens_of_closed h.closed, if_neg Bool.false_ne_true]
    exact h
  | drain t' =>
    rw [Mailbox.meet]
    split
    · exact h.drain
    · exact h
  | close channel =>
    rw [Mailbox.meet]
    split
    · exact ⟨h.channel, rfl, h.told⟩
    · exact h

theorem Silent.replies_eq (h : m.Silent c) (ops : List Op) :
    m.replies depth t ops = List.replicate (ops.count (.drain t)) (.error (.closed c)) := by
  induction ops generalizing m with
  | nil => rfl
  | cons op rest ih =>
    by_cases own : op = .drain t
    · subst own
      rw [replies_drain, h.drain_answer, ih h.drain, List.count_cons_self, List.replicate_succ]
    · rw [replies_other depth m own, ih (h.meet op), List.count_cons_of_ne own]

/-- A closed mailbox has nothing left to report once its backlog fits. -/
theorem Keeps.silent {pending : List Event} (h : m.Keeps depth c pending)
    (closed : m.isOpen = false) (fits : pending.length ≤ depth) : m.Silent c := by
  refine ⟨h.channel, closed, fun lost queue unread => ?_⟩
  obtain ⟨kept, held, -⟩ := h.queue
  rw [unread] at held
  cases held
  omega

/-- The first drain of a closed mailbox reports its lag, and the others find the channel closed. -/
theorem Keeps.replies_eq {pending : List Event} (h : m.Keeps depth c pending)
    (closed : m.isOpen = false) (lag : depth < pending.length) (ops : List Op) :
    m.replies depth t ops = (.error (.lagged c (pending.length - depth)) ::
      List.replicate (ops.count (.drain t)) (.error (.closed c))).take (ops.count (.drain t)) := by
  induction ops generalizing m with
  | nil => rfl
  | cons op rest ih =>
    rcases op_cases t op with rfl | ⟨channel, e, rfl⟩ | ⟨silent, quiet⟩
    · have answer : m.drain.1 = .error (.lagged c (pending.length - depth)) := by
        rw [h.drain_answer, if_pos lag]
      -- what is left of the backlog is as much as was kept
      have left : (pending.drop (spent m.drain.1)).length ≤ depth := by
        rw [answer, spent, List.length_drop]
        omega
      have silent := h.drain.silent ((drain_isOpen m).trans closed) left
      rw [replies_drain, answer, silent.replies_eq, List.count_cons_self, List.take_succ_cons,
        List.take_replicate, Nat.min_eq_left (Nat.le_add_right _ 1)]
    · have deaf : m.meet depth t (.publish channel e) = m := by
        rw [meet, listens_of_closed closed, if_neg Bool.false_ne_true]
      rw [replies_other depth m (by simp), deaf, ih h closed, List.count_cons_of_ne (by simp)]
    · have closed' : (m.meet depth t op).isOpen = false := by
        rw [Bool.eq_false_iff]
        intro isOpen
        rw [((meet_isOpen_iff depth t m op).1 isOpen).1] at closed
        cases closed
      rw [replies_other depth m silent, ih (h.meet_other silent (quiet c)) closed',
        List.count_cons_of_ne silent]

end Mailbox

namespace Bus

/-- A publication on `channel`. -/
def publishes (channel : String) : Op → Bool
  | .publish c _ => c = channel
  | _ => false

/-- What the subscriptions of `c` that `b` gives out next find after the run `since` and the `close`
that follows it, along the run `later`. -/
structure Final (b : Bus) (c : String) (since later : List Op) : Prop where
  conflating : ((b.subscribe c true).2.run (since ++ [.close c])).answers ⟨b.next⟩ later =
    List.replicate (later.count (.drain ⟨b.next⟩)) (.error (.closed c))
  /-- A backlog that did not fit at the `close` is reported at the first drain after it. -/
  queueing :
    let pending := outstanding (heard c since) ((b.subscribe c false).2.answers ⟨b.next⟩ since)
    ((b.subscribe c false).2.run (since ++ [.close c])).answers ⟨b.next⟩ later =
      if b.depth < pending.length then
        (.error (.lagged c (pending.length - b.depth)) ::
          List.replicate (later.count (.drain ⟨b.next⟩)) (.error (.closed c))).take
            (later.count (.drain ⟨b.next⟩))
      else List.replicate (later.count (.drain ⟨b.next⟩)) (.error (.closed c))

/-- None of these answers brings events. -/
theorem Final.no_events {b : Bus} {c : String} {since later : List Op} (h : b.Final c since later)
    (conflate : Bool) {answer : Except BusError (List Event)}
    (given : answer ∈
      ((b.subscribe c conflate).2.run (since ++ [.close c])).answers ⟨b.next⟩ later) :
    ∃ e, answer = .error e := by
  cases conflate with
  | true =>
    rw [h.conflating] at given
    exact ⟨_, List.eq_of_mem_replicate given⟩
  | false =>
    rw [h.queueing] at given
    split at given
    · rcases List.mem_cons.1 (List.mem_of_mem_take given) with lag | closed
      · exact ⟨_, lag⟩
      · exact ⟨_, List.eq_of_mem_replicate closed⟩
    · exact ⟨_, List.eq_of_mem_replicate given⟩

/-! ## The old generation -/

theorem closed_after (m : Mailbox) (depth : Nat) (t : Ticket) (since : List Op) :
    (m.after depth t (since ++ [.close m.channel])).isOpen = false := by
  rw [Bool.eq_false_iff]
  intro isOpen
  have stays := ((m.after_isOpen_iff depth t _).1 isOpen).2
  exact stays (List.mem_append_right _ List.mem_cons_self)

theorem Holds.answers_conflating {b : Bus} {t : Ticket} {c : String}
    (h : b.Holds t (.conflating c)) {since later : List Op}
    (kept : .drop t ∉ since ++ .close c :: later) :
    (b.run (since ++ [.close c])).answers t later =
      List.replicate (later.count (.drain t)) (.error (.closed c)) := by
  rw [List.append_cons, List.mem_append, not_or] at kept
  rw [(h.run kept.1).answers_eq kept.2]
  have kind := (Mailbox.conflating c).after_kind b.depth t (since ++ [.close c])
  refine Mailbox.Silent.replies_eq ⟨kind.1, closed_after (.conflating c) _ _ since, ?_⟩ later
  -- a mailbox of the other kind has nothing to report
  intro lost queue unread
  have queueing := kind.2
  rw [Mailbox.isConflating, unread] at queueing
  cases queueing

theorem Holds.answers_queueing {b : Bus} {t : Ticket} {c : String} (h : b.Holds t (.queueing c))
    {since later : List Op} (kept : .drop t ∉ since ++ .close c :: later) {pending : List Event}
    (backlog : pending = outstanding (heard c since) (b.answers t since)) :
    (b.run (since ++ [.close c])).answers t later =
      if b.depth < pending.length then
        (.error (.lagged c (pending.length - b.depth)) ::
          List.replicate (later.count (.drain t)) (.error (.closed c))).take (later.count (.drain t))
      else List.replicate (later.count (.drain t)) (.error (.closed c)) := by
  rw [List.append_cons, List.mem_append, not_or] at kept
  have before : .drop t ∉ since := fun dropped => kept.1 (List.mem_append_left _ dropped)
  have closed := closed_after (.queueing c) b.depth t since
  obtain ⟨keeps, -⟩ := Mailbox.keeps_after b.depth_pos t c (since ++ [.close c])
  -- the `close` itself changes neither the events heard nor the answers
  have same : (Mailbox.queueing c).replies b.depth t (since ++ [.close c]) =
      (Mailbox.queueing c).replies b.depth t since := by
    rw [Mailbox.replies_append]
    exact List.append_nil _
  rw [heard_append_other c (by simp), same, ← h.answers_eq before, ← backlog] at keeps
  rw [(h.run kept.1).answers_eq kept.2, run_depth]
  split
  · rename_i lag
    exact keeps.replies_eq closed lag later
  · rename_i fits
    exact (keeps.silent closed (Nat.not_lt.1 fits)).replies_eq later

theorem final_of_kept (b : Bus) {c : String} {since later : List Op}
    (kept : .drop ⟨b.next⟩ ∉ since ++ .close c :: later) : b.Final c since later where
  conflating := (b.holds_subscribe c true).answers_conflating kept
  queueing := by
    intro pending
    have depth : (b.subscribe c false).2.depth = b.depth :=
      b.perform_depth (.subscribe c false)
    rw [← depth]
    exact (b.holds_subscribe c false).answers_queueing kept rfl

/-! ## The new generation -/

/-- Buses with the same subscriptions behind them agree on those that follow. -/
theorem agreeOn_run_filter (p : Op → Bool) (opens : ∀ c conflate, p (.subscribe c conflate) = true)
    {b b' : Bus} (h : AgreeOn (fun _ => False) b b') (ops : List Op) :
    AgreeOn (fun _ => False) (b.run ops) (b'.run (ops.filter p)) := by
  induction ops generalizing b b' with
  | nil => exact h
  | cons op rest ih =>
    cases passes : p op with
    | true =>
      rw [List.filter_cons_of_pos passes]
      exact ih (h.perform op)
    | false =>
      rw [List.filter_cons_of_neg (by simp [passes])]
      refine ih ⟨?_, ?_, fun t none => none.elim⟩
      · rw [perform_queueCapacity, h.queueCapacity]
      · rw [perform_next, ← h.next]
        cases op with
        | subscribe c conflate =>
          rw [opens] at passes
          cases passes
        | publish c e => rfl
        | drain t => rfl
        | drop t => rfl
        | close c => rfl

theorem answers_of_new (b : Bus) (quiet : String) (ops : List Op) (channel : String)
    (conflate : Bool) (later : List Op) :
    ((b.run ops).subscribe channel conflate).2.answers
        ((b.run ops).subscribe channel conflate).1 later =
      ((b.run (ops.filter fun op => !publishes quiet op)).subscribe channel conflate).2.answers
        ((b.run (ops.filter fun op => !publishes quiet op)).subscribe channel conflate).1 later := by
  have same : AgreeOn (fun _ => False) b b := ⟨rfl, rfl, fun _ none => none.elim⟩
  have agree := agreeOn_run_filter (fun op => !publishes quiet op) (fun _ _ => rfl) same ops
  have ticket : ((b.run (ops.filter fun op => !publishes quiet op)).subscribe channel conflate).1 =
      ((b.run ops).subscribe channel conflate).1 := by
    show (⟨_⟩ : Ticket) = ⟨_⟩
    rw [← agree.next]
  rw [ticket]
  exact (agree.subscribe channel conflate).answers_eq (.inl rfl) later

/-- **Closing is final.** On every bus, whatever else is done on it, the subscriptions opened on `c`
before a `close` and kept answer no drain after it with events: each answer says that the channel is
closed, up to one report of a lag. The subscriptions opened later answer as on a bus where nothing
had been published on a channel. -/
theorem closing_final (capacity : Nat) (past since later : List Op) (c : String)
    (kept : .drop ⟨((withQueueCapacity capacity).run past).next⟩ ∉ since ++ .close c :: later) :
    let b := (withQueueCapacity capacity).run past
    b.Final c since later ∧
      (∀ conflate, ∀ answer ∈
        ((b.subscribe c conflate).2.run (since ++ [.close c])).answers ⟨b.next⟩ later,
        ∃ e, answer = .error e) ∧
      ∀ quiet ops channel conflate after,
        let new := (withQueueCapacity capacity).run ops
        let bare := (withQueueCapacity capacity).run (ops.filter fun op => !publishes quiet op)
        (new.subscribe channel conflate).2.answers (new.subscribe channel conflate).1 after =
          (bare.subscribe channel conflate).2.answers (bare.subscribe channel conflate).1 after := by
  intro b
  have final := final_of_kept b kept
  refine ⟨final, fun conflate answer given => final.no_events conflate given, ?_⟩
  intro quiet ops channel conflate after
  exact answers_of_new _ quiet ops channel conflate after

/-! A queue of one: three events come in before the `close`, and then the channel is made anew. -/

def crowded : List Op :=
  [.publish "can" (numbered 1), .publish "can" (numbered 2), .publish "can" (numbered 3)]

def recreated : List Op :=
  [.drain ⟨0⟩, .publish "can" (numbered 4), .subscribe "can" false, .drain ⟨0⟩, .close "can",
    .drain ⟨0⟩]

theorem closing_final_recreated :
    .drop ⟨((withQueueCapacity 1).run []).next⟩ ∉ crowded ++ .close "can" :: recreated ∧
    ((withQueueCapacity 1).run []).Final "can" crowded recreated ∧
    ((((withQueueCapacity 1).run []).subscribe "can" false).2.run
        (crowded ++ [.close "can"])).answers ⟨0⟩ recreated =
      [.error (.lagged "can" 2), .error (.closed "can"), .error (.closed "can")] := by
  have kept : .drop ⟨((withQueueCapacity 1).run []).next⟩ ∉
      crowded ++ .close "can" :: recreated := by decide
  have final := (closing_final 1 [] crowded recreated "can" kept).1
  refine ⟨kept, final, ?_⟩
  exact final.queueing.trans (by decide)

end Bus

end CanScope
