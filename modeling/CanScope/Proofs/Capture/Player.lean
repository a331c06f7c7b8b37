import CanScope.Capture.Player
import CanScope.Proofs.Capture.Advance
import Mathlib.Data.List.TakeWhile

/-!
# What a player hands out

A player goes through the passes of a capture as it is asked. The passes of a playback (`laps`) are what
there is to come of it, and each time it hands out the beginning of that.

**Invariant (`Underway`).** What is left of the present pass is the end of it. It is not nothing if another
pass follows, unless the capture is empty.

**Where they differ.** A playback may go through its capture again and again in one millisecond, and a
player goes through it once each time it is asked.

**Results.**
* `moves_due`: what a player hands out when it is asked, and what it has then before it.
* `asked_laps`: whenever a player is asked, what it handed out is the beginning of a playback; and it is
  all that was due, but for a capture that takes no time.
-/
namespace CanScope.Capture

/-! ## Passes -/

theorem published_laps_nil (horizon : Nat) (again : Bool) (start n : Nat) :
    published (laps horizon [] again start n) = [] := by
  cases n <;> rfl

theorem records_eq_nil_of_pass {horizon start : Nat} {records : List Record}
    (nothing : (pass horizon start records).published = [])
    (free : (pass horizon start records).blocked = none) : records = [] := by
  obtain ⟨k, reaches⟩ := exists_reaches horizon start records
  rw [pass_eq reaches] at nothing free
  have all : k = records.length := by
    by_contra fewer
    rw [if_pos (Nat.lt_of_le_of_ne reaches.le fewer)] at free
    cases free
  have length := congrArg List.length nothing
  rw [List.length_take, schedule, List.length_mapIdx, all, Nat.min_self] at length
  exact List.eq_nil_of_length_eq_zero length

theorem start_le_finish (horizon start : Nat) (records : List Record) :
    start ≤ (pass horizon start records).finish start := by
  rw [Pass.finish]
  split
  · rename_i last isLast
    exact start_le_millis (List.mem_of_getLast? isLast)
  · exact Nat.le_refl _

/-- Nothing is published before the playback begins. -/
theorem start_le_of_laps {horizon start n : Nat} {records : List Record} {again : Bool}
    {x : Publication} (h : x ∈ published (laps horizon records again start n)) : start ≤ x.millis := by
  induction n generalizing start with
  | zero => cases h
  | succ n ih =>
    rw [laps, published_cons, List.mem_append] at h
    rcases h with now | later
    · exact start_le_millis now
    · split at later
      · cases later
      · exact (start_le_finish horizon start records).trans (ih later)

theorem lt_of_mem_dropWhile {clock : Nat} {xs : List Publication}
    (sorted : (xs.map (·.millis)).Pairwise (· ≤ ·)) :
    ∀ x ∈ xs.dropWhile (·.millis ≤ clock), clock < x.millis := by
  induction xs with
  | nil => intro x h; cases h
  | cons y rest ih =>
    rw [List.map_cons, List.pairwise_cons, List.forall_mem_map] at sorted
    intro x h
    rw [List.dropWhile_cons] at h
    split at h
    · exact ih sorted.2 x h
    · rename_i late
      have late : clock < y.millis := by simpa using late
      rcases List.mem_cons.1 h with rfl | among
      · exact late
      · exact late.trans_le (sorted.1 x among)

namespace Player

variable {p p' : Player} {clock : Nat}

/-! ## What is to come -/

/-- What is left of the present pass and what comes in `n` more, if it is followed by any. -/
def ahead (p : Player) (n : Nat) : List Publication :=
  p.left.published ++
    match p.left.ending? p.again with
    | some _ => []
    | none =>
      published (laps p.horizon p.records p.again ((pass p.horizon p.start p.records).finish p.start) n)

structure Underway (p : Player) : Prop where
  ends : p.left.published <:+ (pass p.horizon p.start p.records).published
  blocked : p.left.blocked = (pass p.horizon p.start p.records).blocked
  goesOn : p.isOver = true → p.records = []

theorem isOver_iff : p.isOver = true ↔
    p.again = true ∧ p.left.published = [] ∧ p.left.blocked = none := by
  rw [isOver, Bool.and_eq_true, Bool.and_eq_true, List.isEmpty_iff, Option.isNone_iff_eq_none,
    and_assoc]

theorem ending?_eq_none_iff : p.left.ending? p.again = none ↔
    p.again = true ∧ p.left.blocked = none := by
  rw [Pass.ending?]
  cases p.left.blocked <;> cases p.again <;> simp

theorem underway_next (p : Player) (start : Nat) : (p.next start).Underway where
  ends := List.suffix_refl _
  blocked := rfl
  goesOn ended := by
    obtain ⟨-, nothing, free⟩ := isOver_iff.1 ended
    exact records_eq_nil_of_pass nothing free

theorem Underway.rest (h : p.Underway) (stays : (p.rest clock).isOver = false) :
    (p.rest clock).Underway where
  ends := (List.dropWhile_suffix _).trans h.ends
  blocked := h.blocked
  goesOn ended := by
    rw [stays] at ended
    cases ended

theorem ahead_next (p : Player) (start n : Nat) :
    (p.next start).ahead n = published (laps p.horizon p.records p.again start (n + 1)) := by
  obtain ⟨horizon, records, again, first, left⟩ := p
  rw [laps, published_cons]
  show (pass horizon start records).published ++
    (match (pass horizon start records).ending? again with
      | some _ => []
      | none => published (laps horizon records again ((pass horizon start records).finish start) n)) =
    (pass horizon start records).published ++ _
  by_cases empty : records = []
  · subst empty
    cases again with
    | true => exact congrArg (_ ++ ·) (published_laps_nil horizon true _ n)
    | false => rfl
  · rw [lap_ending empty]
    cases (pass horizon start records).ending? again <;> rfl

theorem ahead_new (horizon : Nat) (records : List Record) (again : Bool) (n : Nat) :
    (new horizon records again).ahead n = published (laps horizon records again 0 (n + 1)) :=
  ahead_next (new horizon records again) 0 n

theorem now_append_rest (p : Player) (clock : Nat) :
    p.now clock ++ (p.rest clock).left.published = p.left.published :=
  List.takeWhile_append_dropWhile

theorem ahead_rest (p : Player) (clock n : Nat) :
    p.ahead n = p.now clock ++ (p.rest clock).ahead n := by
  rw [ahead, ahead, ← List.append_assoc, now_append_rest]
  rfl

namespace Underway

theorem finish_of_left (h : p.Underway) {last : Publication}
    (isLast : p.left.published.getLast? = some last) :
    (pass p.horizon p.start p.records).finish p.start = last.millis := by
  obtain ⟨before, row⟩ := h.ends
  rw [finish_eq, ← row, List.getLast?_append, isLast]
  rfl

/-- What comes last of a pass ends it. -/
theorem finish_of_now (h : p.Underway) {last : Publication}
    (isLast : (p.now clock).getLast? = some last) (ended : (p.rest clock).isOver = true) :
    (pass p.horizon p.start p.records).finish p.start = last.millis := by
  obtain ⟨-, nothing, -⟩ := isOver_iff.1 ended
  have whole := p.now_append_rest clock
  rw [nothing, List.append_nil] at whole
  exact h.finish_of_left (by rwa [← whole])

/-- Behind the last of a pass stands the next pass. -/
theorem ahead_over (h : p.Underway) {last : Publication}
    (isLast : (p.now clock).getLast? = some last) (ended : (p.rest clock).isOver = true) (n : Nat) :
    p.ahead (n + 1) = p.now clock ++ (p.next last.millis).ahead n := by
  obtain ⟨again, nothing, free⟩ := isOver_iff.1 ended
  have going : (p.rest clock).left.ending? (p.rest clock).again = none :=
    ending?_eq_none_iff.2 ⟨again, free⟩
  rw [ahead_rest p clock, ahead_next, ahead, nothing, going, ← h.finish_of_now isLast ended]
  rfl

theorem sorted (h : p.Underway) : (p.left.published.map (·.millis)).Pairwise (· ≤ ·) :=
  (pairwise_pass p.start p.records).of_cons.sublist (h.ends.sublist.map _)

end Underway

/-- Nothing is to come up to millisecond `clock`. -/
def Waiting (p : Player) (clock : Nat) : Prop := ∀ n, ∀ x ∈ p.ahead n, clock < x.millis

theorem Underway.waiting (h : p.Underway) (late : ∀ x ∈ p.left.published, clock < x.millis) :
    p.Waiting clock := by
  intro n x among
  rcases List.mem_append.1 among with left | later
  · exact late x left
  · cases going : p.left.ending? p.again with
    | some e =>
      rw [going] at later
      cases later
    | none =>
      rw [going] at later
      obtain ⟨again, free⟩ := ending?_eq_none_iff.1 going
      cases last : p.left.published.getLast? with
      | none =>
        have ended := isOver_iff.2 ⟨again, List.getLast?_eq_none_iff.1 last, free⟩
        rw [h.goesOn ended, published_laps_nil] at later
        cases later
      | some y =>
        rw [h.finish_of_left last] at later
        exact (late y (List.mem_of_getLast? last)).trans_le (start_le_of_laps later)

/-! ## Asking once -/

/-- Time goes on while the capture is played. -/
def Steady (p : Player) : Prop := p.again = true → Waits p.records

/-- The player `p` hands out `passed` and is `p'` after that. -/
structure Moves (p p' : Player) (passed : List Publication) : Prop where
  underway : p'.Underway
  steady : p.Steady → p'.Steady
  ahead : ∃ passes, ∀ n, p.ahead (n + passes) = passed ++ p'.ahead n

theorem Moves.trans {p'' : Player} {passed more : List Publication} (h : Moves p p' passed)
    (h' : Moves p' p'' more) : Moves p p'' (passed ++ more) where
  underway := h'.underway
  steady steady := h'.steady (h.steady steady)
  ahead := by
    obtain ⟨passes, first⟩ := h.ahead
    obtain ⟨passes', second⟩ := h'.ahead
    refine ⟨passes' + passes, fun n => ?_⟩
    rw [← Nat.add_assoc, first, second, List.append_assoc]

theorem Moves.waiting {passed : List Publication} (h : Moves p p' passed) (waits : p.Waiting clock) :
    p'.Waiting clock := by
  obtain ⟨passes, ahead⟩ := h.ahead
  intro n x among
  refine waits (n + passes) x ?_
  rw [ahead]
  exact List.mem_append_right _ among

theorem Underway.moves_rest (h : p.Underway) (stays : (p.rest clock).isOver = false) :
    Moves p (p.rest clock) (p.now clock) where
  underway := h.rest stays
  steady steady := steady
  ahead := ⟨0, ahead_rest p clock⟩

theorem Underway.moves_next (h : p.Underway) {last : Publication}
    (isLast : (p.now clock).getLast? = some last) (ended : (p.rest clock).isOver = true) :
    Moves p (p.next last.millis) (p.now clock) where
  underway := underway_next p _
  steady steady := steady
  ahead := ⟨1, h.ahead_over isLast ended⟩

/-- A pass takes time if time goes on. -/
theorem Underway.start_lt (h : p.Underway) (steady : p.Steady) {last : Publication}
    (isLast : (p.now clock).getLast? = some last) (ended : (p.rest clock).isOver = true) :
    p.start < last.millis := by
  obtain ⟨again, -, free⟩ := isOver_iff.1 ended
  have waits : Waits p.records := steady again
  have nonempty : p.records ≠ [] := by
    rintro none
    obtain ⟨r, among, -⟩ := waits
    rw [none] at among
    cases among
  have going : (lap p.horizon p.records true p.start).ending = none := by
    replace free : p.left.blocked = none := free
    rw [lap_ending nonempty, Pass.ending?, ← h.blocked, free]
    rfl
  have takes := (duration_pos_iff nonempty).2 waits
  rw [← h.finish_of_now isLast ended, (lap_of_going nonempty going).2]
  omega

/-- What a player hands out is the beginning of what is to come, as far as it is due. Nothing that is due
stays behind if time goes on. -/
theorem moves_due (h : p.Underway) (clock : Nat) :
    ∃ passed, (p.due clock).1 = passed.map (·.frame) ∧ Moves p (p.due clock).2 passed ∧
      (∀ x ∈ passed, x.millis ≤ clock) ∧ (p.Steady → (p.due clock).2.Waiting clock) := by
  have late {p : Player} (h : p.Underway) :
      ∀ x ∈ (p.rest clock).left.published, clock < x.millis := lt_of_mem_dropWhile h.sorted
  fun_induction due p clock with
  | case1 p frames none =>
    have nothing : p.now clock = [] := List.getLast?_eq_none_iff.1 none
    have same : p.left.published = (p.rest clock).left.published := by
      rw [← p.now_append_rest clock, nothing]
      rfl
    refine ⟨[], by rw [← nothing], ⟨h, id, 0, fun n => rfl⟩, by simp, fun _ => h.waiting ?_⟩
    rw [same]
    exact late h
  | case2 p frames last isLast ended later more p' next ih =>
    obtain ⟨passed, gives, moves, due, waits⟩ := ih (underway_next p _)
    rw [next] at gives moves waits
    refine ⟨p.now clock ++ passed, ?_, (h.moves_next isLast ended).trans moves, ?_, waits⟩
    · rw [List.map_append, ← gives]
    · intro x among
      exact (List.mem_append.1 among).elim millis_le_of_now (due x)
  | case3 p frames last isLast ended still =>
    exact ⟨p.now clock, rfl, h.moves_next isLast ended, fun x => millis_le_of_now,
      fun steady => absurd (h.start_lt steady isLast ended) still⟩
  | case4 p frames last isLast stays =>
    have stays : (p.rest clock).isOver = false := by simpa using stays
    exact ⟨p.now clock, rfl, h.moves_rest stays, fun x => millis_le_of_now,
      fun _ => (h.rest stays).waiting (late h)⟩

/-! ## Asking again and again -/

/-- All that is handed out when somebody asks at these milliseconds, and the player after that. -/
def asked (p : Player) : List Nat → List CanFrame × Player
  | [] => ([], p)
  | clock :: rest => ((p.due clock).1 ++ ((p.due clock).2.asked rest).1, ((p.due clock).2.asked rest).2)

theorem moves_asked (h : p.Underway) (clocks : List Nat) :
    ∃ passed, (p.asked clocks).1 = passed.map (·.frame) ∧ Moves p (p.asked clocks).2 passed ∧
      (∀ x ∈ passed, ∃ clock ∈ clocks, x.millis ≤ clock) ∧
      (p.Steady → ∀ clock ∈ clocks, (p.asked clocks).2.Waiting clock) := by
  induction clocks generalizing p with
  | nil => exact ⟨[], rfl, ⟨h, id, 0, fun n => rfl⟩, by simp, by simp⟩
  | cons clock rest ih =>
    obtain ⟨now, gives, moves, due, waits⟩ := moves_due h clock
    obtain ⟨later, gives', moves', due', waits'⟩ := ih moves.underway
    refine ⟨now ++ later, ?_, moves.trans moves', ?_, ?_⟩
    · rw [asked, gives, gives', List.map_append]
    · intro x among
      rcases List.mem_append.1 among with first | second
      · exact ⟨clock, List.mem_cons_self, due x first⟩
      · obtain ⟨c, asked, le⟩ := due' x second
        exact ⟨c, List.mem_cons_of_mem _ asked, le⟩
    · intro steady c among
      rcases List.mem_cons.1 among with rfl | among
      · exact moves'.waiting (waits steady)
      · exact waits' (moves.steady steady) c among

/-- Where time stands still a player is after each pass what it was before. -/
theorem due_of_not_waits {horizon : Nat} {records : List Record} (still : ¬Waits records)
    (near : Schedulable horizon 0 .zero) (clock : Nat) :
    (new horizon records true).due clock = (records.map (·.frame), new horizon records true) := by
  have whole := pass_of_schedulable (schedulable_of_not_waits still near)
  have at_once : ∀ x ∈ schedule 0 records, x.millis = 0 := fun x among => by
    refine millis_of_not_waits ?_ still among
    rintro rfl
    cases among
  have soon : ∀ x ∈ schedule 0 records, decide (x.millis ≤ clock) = true := fun x among =>
    decide_eq_true (by rw [at_once x among]; exact Nat.zero_le _)
  have now : (new horizon records true).now clock = schedule 0 records := by
    rw [Player.now, new, whole]
    exact List.takeWhile_eq_self_iff.2 soon
  have ended : ((new horizon records true).rest clock).isOver = true := by
    rw [isOver_iff, rest, new, whole]
    exact ⟨rfl, List.dropWhile_eq_nil_iff.2 soon, rfl⟩
  rw [due]
  split
  · rename_i nothing
    rw [now, map_frame_schedule]
  · rename_i last isLast
    have last_eq : last.millis = 0 := by
      rw [now] at isLast
      exact at_once last (List.mem_of_getLast? isLast)
    have still : ¬(new horizon records true).start < last.millis := by
      rw [last_eq]
      exact Nat.not_lt_zero _
    rw [if_pos ended, dif_neg still, now, map_frame_schedule, last_eq]
    rfl

theorem asked_of_not_waits {horizon : Nat} {records : List Record} (still : ¬Waits records)
    (near : Schedulable horizon 0 .zero) (clocks : List Nat) :
    ((new horizon records true).asked clocks).1 =
      (List.replicate clocks.length (records.map (·.frame))).flatten := by
  induction clocks with
  | nil => rfl
  | cons clock rest ih =>
    rw [asked, due_of_not_waits still near, ih, List.length_cons, List.replicate_succ,
      List.flatten_cons]

/-- **A player plays what a playback publishes.** Whenever it is asked, what it handed out so far is the
beginning of a playback. If the capture is not repeated, or time goes on while it is, it is all that is
published up to the latest moment at which it was asked. Otherwise it is the whole capture for each time
that it was asked. -/
theorem asked_laps (horizon : Nat) (records : List Record) (again : Bool) (clocks : List Nat) :
    let frames := ((new horizon records again).asked clocks).1
    (∃ n, frames <+: (published (laps horizon records again 0 n)).map (·.frame)) ∧
    ((again = true → Waits records) → ∃ n, ∀ m ≥ n, frames =
      ((published (laps horizon records again 0 m)).filter fun x => clocks.any (x.millis ≤ ·)).map
        (·.frame)) ∧
    (again = true → ¬Waits records → Schedulable horizon 0 .zero →
      frames = (List.replicate clocks.length (records.map (·.frame))).flatten) := by
  intro frames
  have start : (new horizon records again).Underway := underway_next (new horizon records again) 0
  obtain ⟨passed, gives, moves, due, waits⟩ := moves_asked start clocks
  obtain ⟨passes, ahead⟩ := moves.ahead
  have row (n : Nat) : published (laps horizon records again 0 (n + passes + 1)) =
      passed ++ ((new horizon records again).asked clocks).2.ahead n := by
    rw [← ahead, ahead_new]
  refine ⟨⟨0 + passes + 1, ?_⟩, ?_, ?_⟩
  · rw [row, List.map_append]
    exact gives ▸ List.prefix_append _ _
  · intro steady
    refine ⟨passes + 1, fun m le => ?_⟩
    obtain ⟨n, rfl⟩ : ∃ n, m = n + passes + 1 := ⟨m - (passes + 1), by omega⟩
    have soon : passed.filter (fun x => clocks.any (x.millis ≤ ·)) = passed :=
      List.filter_eq_self.2 fun x among => by simpa using due x among
    have late : (((new horizon records again).asked clocks).2.ahead n).filter
        (fun x => clocks.any (x.millis ≤ ·)) = [] :=
      List.filter_eq_nil_iff.2 fun x among => by
        simpa using fun clock asked => waits steady clock asked n x among
    rw [row, List.filter_append, soon, late, List.append_nil]
    exact gives
  · rintro rfl still near
    exact asked_of_not_waits still near clocks

end Player

end CanScope.Capture
