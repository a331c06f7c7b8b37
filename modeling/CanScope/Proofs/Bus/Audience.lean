import CanScope.Proofs.Bus.Run
import Mathlib.Data.List.Induction

/-!
# Whom an event reaches

`Bus.audience` counts the open queueing mailboxes of a channel in the bus as it is. By the history of
a bus that was new, these are the subscriptions that were opened as queueing ones on the channel and
since then neither given up nor closed (`LiveQueued`), each counted once (`audience_eq`).

No ticket is given out twice (`Sound`), so a ticket names one mailbox and one opening.
-/
namespace CanScope.Bus

/-- The tickets that are out. -/
def tickets (b : Bus) : List Ticket := b.mailboxes.map (·.1)

/-- No ticket is out twice, and the next one is new. -/
structure Sound (b : Bus) : Prop where
  nodup : b.tickets.Nodup
  old : ∀ t ∈ b.tickets, t.number < b.next

/-- In `ops` the ticket `t` was given out for a queueing subscription on `channel`, and since then
neither was it given up nor the channel closed. -/
def LiveQueued (b : Bus) (ops : List Op) (channel : String) (t : Ticket) : Prop :=
  ∃ past since, ops = past ++ .subscribe channel false :: since ∧
    t = ((b.run past).subscribe channel false).1 ∧ .drop t ∉ since ∧ .close channel ∉ since

/-! ## Tickets -/

theorem tickets_map (b : Bus) (f : Ticket → Mailbox → Mailbox) :
    (b.mailboxes.map fun entry => (entry.1, f entry.1 entry.2)).map (·.1) = b.tickets := by
  rw [List.map_map]
  rfl

theorem tickets_perform (b : Bus) (op : Op) :
    (b.perform op).tickets =
      match op with
      | .subscribe _ _ => ⟨b.next⟩ :: b.tickets
      | .drop t => b.tickets.filter (· ≠ t)
      | _ => b.tickets := by
  cases op with
  | subscribe channel conflate => rfl
  | publish channel e =>
    exact b.tickets_map fun _ m => if m.listens channel then m.deliver b.depth e else m
  | drain t =>
    cases held : b.mailbox? t with
    | none => rw [perform, drain_of_none held]
    | some m =>
      rw [perform, tickets, drain_of_some held]
      exact b.tickets_map fun u m' => if u = t then m.drain.2 else m'
  | drop t =>
    simp only [tickets, perform, drop, List.filter_map]
    rfl
  | close channel => exact b.tickets_map fun _ m => if m.channel = channel then m.close else m

theorem Sound.perform {b : Bus} (h : b.Sound) (op : Op) : (b.perform op).Sound := by
  have tickets := b.tickets_perform op
  have next := b.perform_next op
  cases op with
  | subscribe channel conflate =>
    refine ⟨?_, fun t ht => ?_⟩
    · rw [tickets, List.nodup_cons]
      exact ⟨fun out => Nat.lt_irrefl _ (h.old _ out), h.nodup⟩
    · rw [tickets, List.mem_cons] at ht
      rw [next]
      rcases ht with rfl | ht
      · exact Nat.lt_succ_self b.next
      · exact Nat.lt_succ_of_lt (h.old t ht)
  | drop t' =>
    refine ⟨?_, fun t ht => ?_⟩
    · rw [tickets]; exact h.nodup.filter _
    · rw [tickets] at ht
      rw [next]
      exact h.old t (List.mem_of_mem_filter ht)
  | publish channel e => exact ⟨by rw [tickets]; exact h.nodup, by rw [tickets, next]; exact h.old⟩
  | drain t => exact ⟨by rw [tickets]; exact h.nodup, by rw [tickets, next]; exact h.old⟩
  | close channel => exact ⟨by rw [tickets]; exact h.nodup, by rw [tickets, next]; exact h.old⟩

theorem Sound.run {b : Bus} (h : b.Sound) (ops : List Op) : (b.run ops).Sound := by
  induction ops generalizing b with
  | nil => exact h
  | cons op rest ih => exact ih (h.perform op)

theorem sound_withQueueCapacity (capacity : Nat) : (withQueueCapacity capacity).Sound :=
  ⟨.nil, fun _ h => by cases h⟩

theorem Sound.mailbox?_eq_some_iff {b : Bus} (h : b.Sound) (t : Ticket) (m : Mailbox) :
    b.mailbox? t = some m ↔ (t, m) ∈ b.mailboxes :=
  lookup_eq_some_iff_mem h.nodup t m

/-! ## Openings -/

/-- A ticket that is out was given out at some point, and not given up since. -/
theorem opening_of_mem {b : Bus} (new : b.tickets = []) (ops : List Op) {t : Ticket}
    (h : t ∈ (b.run ops).tickets) :
    ∃ past channel conflate since, ops = past ++ .subscribe channel conflate :: since ∧
      t = ((b.run past).subscribe channel conflate).1 ∧ .drop t ∉ since := by
  induction ops using List.reverseRecOn with
  | nil =>
    have out : t ∈ b.tickets := h
    rw [new] at out
    cases out
  | append_singleton ops op ih =>
    have split : b.run (ops ++ [op]) = (b.run ops).perform op := b.run_append ops [op]
    rw [split, tickets_perform] at h
    -- a ticket that was out before keeps its opening, unless it is given up now
    have earlier : t ∈ (b.run ops).tickets → op ≠ .drop t →
        ∃ past channel conflate since, ops ++ [op] = past ++ .subscribe channel conflate :: since ∧
          t = ((b.run past).subscribe channel conflate).1 ∧ .drop t ∉ since := by
      intro out kept
      obtain ⟨past, channel, conflate, since, rfl, ticket, held⟩ := ih out
      refine ⟨past, channel, conflate, since ++ [op], by simp, ticket, ?_⟩
      rw [List.mem_append, List.mem_singleton, not_or]
      exact ⟨held, Ne.symm kept⟩
    cases op with
    | subscribe channel conflate =>
      rcases List.mem_cons.1 h with rfl | out
      · exact ⟨ops, channel, conflate, [], rfl, rfl, List.not_mem_nil⟩
      · exact earlier out (by simp)
    | drop t' =>
      have other : t ≠ t' := by simpa using List.of_mem_filter h
      refine earlier (List.mem_of_mem_filter h) ?_
      intro same
      cases same
      exact other rfl
    | publish channel e => exact earlier h (by simp)
    | drain t' => exact earlier h (by simp)
    | close channel => exact earlier h (by simp)

/-- The mailbox of a subscription that was not given up. -/
theorem holds_of_opening (b : Bus) (past since : List Op) (channel : String) (conflate : Bool)
    (kept : .drop ((b.run past).subscribe channel conflate).1 ∉ since) :
    (b.run (past ++ .subscribe channel conflate :: since)).Holds
      ((b.run past).subscribe channel conflate).1
      ((opened channel conflate).after b.depth ((b.run past).subscribe channel conflate).1 since) := by
  have start := ((b.run past).holds_subscribe channel conflate).run kept
  have depth : ((b.run past).subscribe channel conflate).2.depth = b.depth :=
    ((b.run past).perform_depth (.subscribe channel conflate)).trans (b.run_depth past)
  rw [depth] at start
  rw [run_append]
  exact start

theorem opened_kind (channel : String) (conflate : Bool) :
    (opened channel conflate).channel = channel ∧
      (opened channel conflate).isConflating = conflate ∧
      (opened channel conflate).isOpen = true := by
  cases conflate <;> exact ⟨rfl, rfl, rfl⟩

/-- An open queueing mailbox of `channel`. -/
def reached (channel : String) (m : Mailbox) : Bool := m.listens channel && !m.isConflating

theorem reached_after_iff (depth : Nat) (t : Ticket) (c channel : String) (conflate : Bool)
    (since : List Op) :
    reached channel ((opened c conflate).after depth t since) = true ↔
      c = channel ∧ conflate = false ∧ .close channel ∉ since := by
  have kind := (opened c conflate).after_kind depth t since
  have isOpen := (opened c conflate).after_isOpen_iff depth t since
  obtain ⟨hc, hk, ho⟩ := opened_kind c conflate
  rw [reached, Mailbox.listens, Bool.and_eq_true, Bool.and_eq_true, isOpen, kind.1, kind.2, hc, hk,
    ho, beq_iff_eq, Bool.not_eq_true']
  constructor
  · rintro ⟨⟨⟨-, kept⟩, rfl⟩, queueing⟩
    exact ⟨rfl, queueing, kept⟩
  · rintro ⟨rfl, queueing, kept⟩
    exact ⟨⟨⟨rfl, kept⟩, rfl⟩, queueing⟩

theorem exists_reached_iff {b : Bus} (sound : b.Sound) (new : b.tickets = []) (ops : List Op)
    (channel : String) (t : Ticket) :
    (∃ m, (t, m) ∈ (b.run ops).mailboxes ∧ reached channel m = true) ↔
      b.LiveQueued ops channel t := by
  constructor
  · rintro ⟨m, entry, hm⟩
    have out : t ∈ (b.run ops).tickets := List.mem_map.2 ⟨_, entry, rfl⟩
    obtain ⟨past, c, conflate, since, rfl, rfl, kept⟩ := opening_of_mem new ops out
    have holds := b.holds_of_opening past since c conflate kept
    have looked := ((sound.run _).mailbox?_eq_some_iff _ m).2 entry
    rw [holds.held, Option.some.injEq] at looked
    rw [← looked, reached_after_iff] at hm
    obtain ⟨rfl, rfl, stays⟩ := hm
    exact ⟨past, since, rfl, rfl, kept, stays⟩
  · rintro ⟨past, since, rfl, rfl, kept, stays⟩
    have holds := b.holds_of_opening past since channel false kept
    refine ⟨_, ((sound.run _).mailbox?_eq_some_iff _ _).1 holds.held, ?_⟩
    rw [reached_after_iff]
    exact ⟨rfl, rfl, stays⟩

/-- The audience of a channel are the live queueing subscriptions on it, each once. -/
theorem audience_eq {b : Bus} (sound : b.Sound) (new : b.tickets = []) (ops : List Op)
    (channel : String) :
    ∃ live : List Ticket, live.Nodup ∧ (∀ t, t ∈ live ↔ b.LiveQueued ops channel t) ∧
      (b.run ops).audience channel = live.length := by
  refine ⟨((b.run ops).mailboxes.filter fun entry => reached channel entry.2).map (·.1), ?_, ?_, ?_⟩
  · exact (List.filter_sublist.map _).nodup (sound.run ops).nodup
  · intro t
    rw [← exists_reached_iff sound new]
    simp only [List.mem_map, List.mem_filter, Prod.exists, exists_and_right, exists_eq_right]
  · rw [List.length_map, ← List.countP_eq_length_filter]
    rfl

end CanScope.Bus
