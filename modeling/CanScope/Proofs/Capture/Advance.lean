import CanScope.Capture.Basic
import CanScope.Proofs.Capture.Laps

/-!
# Whether time goes on while a capture is repeated

Each pass of a repeated capture takes as long as the one before (`duration`), so pass `k` begins `k`
durations after the first. This is meant to let time go on: between two passes it does, and in a
limited time only so much is published.

**Where it fails.** A pass waits for nothing but its records, and it waits for none that is due at once.
If every record has a time and none is later than the first, a pass is over in the millisecond in which
it begins. All passes then begin in the same one, and the capture is published over and over without
end. A capture of one timed record is such.

**Results.**
* `laps_advance_iff`: passes begin at different times exactly if some record is untimed or later than
  the first that is timed; and so it is with publications that are limited by a time.
* `single_record_spins`: a capture of one line for which time stands still.
-/
namespace CanScope.Capture

/-- The milliseconds that a pass takes. -/
def duration (records : List Record) : Nat := moment 0 records (records.length - 1)

/-- Some record is not due as soon as its pass begins. -/
def Waits (records : List Record) : Prop := ∃ r ∈ records, r.at? ≠ some .zero

instance (records : List Record) : Decidable (Waits records) :=
  inferInstanceAs (Decidable (∃ r ∈ records, r.at? ≠ some .zero))

variable {horizon : Nat} {records : List Record} {start : Nat}

/-! ## The duration of a pass -/

/-- Only a record that has a time, namely zero, is due at once. -/
theorem due_eq_zero_iff {i : Nat} {r : Record} (found : records[i]? = some r) :
    (due records i).nanos = 0 ↔ r.at? = some .zero := by
  rw [due, found, Option.bind_some]
  cases timed : r.at? with
  | some offset =>
    rw [Option.getD_some, Option.some_inj]
    exact ⟨fun h => congrArg Span.mk h, fun h => congrArg Span.nanos h⟩
  | none =>
    -- the record itself is among the untimed ones that are counted
    have counted : 0 < (records.take (i + 1)).countP (·.at?.isNone) := by
      rw [List.countP_pos_iff]
      refine ⟨r, List.mem_of_getElem? (i := i) ?_, by rw [timed]; rfl⟩
      rw [List.getElem?_take_of_lt (Nat.lt_succ_self i), found]
    rw [Option.getD_none, Span.ofMillis, Span.perMilli]
    simp only [reduceCtorEq, iff_false]
    omega

theorem duration_pos_iff (nonempty : records ≠ []) : 0 < duration records ↔ Waits records := by
  have wakes (nanos : Nat) : 0 < wakeUp nanos ↔ nanos ≠ 0 := by
    unfold wakeUp Span.perMilli
    omega
  have last : records.length - 1 + 1 = records.length :=
    Nat.sub_add_cancel (List.length_pos_iff.2 nonempty)
  have later : 0 < duration records ↔ ∃ i < records.length, (due records i).nanos ≠ 0 := by
    rw [duration, moment, Finset.lt_sup_iff, last]
    simp only [Finset.mem_range, wakeUp_deadline, Nat.zero_add, wakes]
  rw [later]
  constructor
  · rintro ⟨i, lt, waits⟩
    have found := List.getElem?_eq_getElem lt
    exact ⟨_, List.mem_of_getElem? found, fun zero => waits ((due_eq_zero_iff found).2 zero)⟩
  · rintro ⟨r, among, waits⟩
    obtain ⟨i, found⟩ := List.mem_iff_getElem?.1 among
    obtain ⟨lt, -⟩ := List.getElem?_eq_some_iff.1 found
    exact ⟨i, lt, fun zero => waits ((due_eq_zero_iff found).1 zero)⟩

/-! ## The passes of a repeated capture -/

theorem exists_reaches (horizon start : Nat) (records : List Record) :
    ∃ k, Reaches horizon start records k := by
  by_cases all : ∀ i < records.length, Schedulable horizon start (due records i)
  · exact ⟨records.length, Nat.le_refl _, all, fun lt => absurd lt (Nat.lt_irrefl _)⟩
  · have some : ∃ i, i < records.length ∧ ¬Schedulable horizon start (due records i) := by
      simpa only [not_forall, exists_prop] using all
    obtain ⟨lt, far⟩ := Nat.find_spec some
    refine ⟨Nat.find some, Nat.le_of_lt lt, fun i before => ?_, fun _ => far⟩
    by_contra stop
    exact Nat.find_min some before ⟨before.trans lt, stop⟩

/-- A pass that does not end the playback of a repeated capture publishes all records, and the next one
begins a duration later. -/
theorem lap_of_going (nonempty : records ≠ [])
    (going : (lap horizon records true start).ending = none) :
    (lap horizon records true start).published = schedule start records ∧
      (pass horizon start records).finish start = start + duration records := by
  have all : ∀ i < records.length, Schedulable horizon start (due records i) := by
    obtain ⟨k, reaches⟩ := exists_reaches horizon start records
    by_cases lt : k < records.length
    · rw [lap_of_blocked lt reaches.before (reaches.stop lt)] at going
      cases going
    · rw [← Nat.le_antisymm reaches.le (Nat.not_lt.1 lt)]
      exact reaches.before
  rw [lap_of_schedulable nonempty true all, finish_of_schedulable nonempty all, moment_eq_add]
  exact ⟨rfl, rfl⟩

/-- Pass `k` begins `k` durations after the first. -/
theorem start_of_getElem? (nonempty : records ≠ []) {n k : Nat} {l : Lap}
    (found : (laps horizon records true start n)[k]? = some l) :
    l.start = start + k * duration records := by
  induction n generalizing start k with
  | zero => cases found
  | succ n ih =>
    cases k with
    | zero =>
      rw [laps, List.getElem?_cons_zero] at found
      cases found
      rw [Nat.zero_mul]
      rfl
    | succ k =>
      cases going : (lap horizon records true start).ending with
      | some e =>
        rw [laps_of_ended going] at found
        cases found
      | none =>
        rw [laps_of_going going, (lap_of_going nonempty going).2, List.getElem?_cons_succ] at found
        rw [ih found, Nat.succ_mul]
        omega

theorem starts_pairwise (nonempty : records ≠ []) (waits : Waits records) (start n : Nat) :
    ((laps horizon records true start n).map (·.start)).Pairwise (· < ·) := by
  rw [List.pairwise_map, List.pairwise_iff_getElem]
  intro i j hi hj lt
  rw [start_of_getElem? nonempty (List.getElem?_eq_getElem hi),
    start_of_getElem? nonempty (List.getElem?_eq_getElem hj)]
  exact Nat.add_lt_add_left (Nat.mul_lt_mul_of_pos_right lt ((duration_pos_iff nonempty).2 waits)) _

/-! ## What is published by a time -/

/-- Nothing is published before the pass begins that publishes it. -/
theorem start_le_millis {p : Publication} (among : p ∈ (pass horizon start records).published) :
    start ≤ p.millis :=
  List.rel_of_pairwise_cons (pairwise_pass start records) (List.mem_map_of_mem among)

theorem length_pass_le (horizon start : Nat) (records : List Record) :
    (pass horizon start records).published.length ≤ records.length := by
  obtain ⟨k, reaches⟩ := exists_reaches horizon start records
  rw [pass_eq reaches, List.length_take]
  exact (Nat.min_le_left _ _).trans reaches.le

theorem countP_pass_le (horizon start limit : Nat) (records : List Record) :
    (pass horizon start records).published.countP (·.millis ≤ limit) ≤
      if start ≤ limit then records.length else 0 := by
  split
  · exact List.countP_le_length.trans (length_pass_le horizon start records)
  · rename_i late
    rw [Nat.le_zero, List.countP_eq_zero]
    intro p among
    have := start_le_millis among
    simp only [decide_eq_true_eq]
    omega

/-- A pass that waits takes at least a millisecond, so only so many begin by a time. -/
theorem countP_laps_le (nonempty : records ≠ []) (waits : Waits records) (start limit n : Nat) :
    (published (laps horizon records true start n)).countP (·.millis ≤ limit) ≤
      (limit + 1 - start) * records.length := by
  induction n generalizing start with
  | zero => exact Nat.zero_le _
  | succ n ih =>
    have first := countP_pass_le horizon start limit records
    cases going : (lap horizon records true start).ending with
    | some e =>
      rw [laps_of_ended going, published_singleton]
      refine first.trans ?_
      split
      · exact Nat.le_mul_of_pos_left _ (by omega)
      · exact Nat.zero_le _
    | none =>
      have takes := (duration_pos_iff nonempty).2 waits
      have later := ih (start + duration records)
      rw [laps_of_going going, published_cons, List.countP_append, (lap_of_going nonempty going).2]
      refine (Nat.add_le_add first later).trans ?_
      split
      · rename_i soon
        rw [Nat.add_comm, ← Nat.succ_mul]
        refine Nat.mul_le_mul_right _ ?_
        omega
      · have none : limit + 1 - (start + duration records) = 0 := by omega
        rw [none, Nat.zero_mul]
        exact Nat.zero_le _

/-! ## When time stands still -/

theorem due_of_not_waits (still : ¬Waits records) {i : Nat} (lt : i < records.length) :
    due records i = .zero := by
  have found := List.getElem?_eq_getElem lt
  have timed : records[i].at? = some .zero := by
    by_contra waits
    exact still ⟨_, List.mem_of_getElem? found, waits⟩
  exact congrArg Span.mk ((due_eq_zero_iff found).2 timed)

theorem schedulable_of_not_waits (still : ¬Waits records) (near : Schedulable horizon start .zero) :
    ∀ i < records.length, Schedulable horizon start (due records i) := by
  intro i lt
  rwa [due_of_not_waits still lt]

theorem duration_of_not_waits (nonempty : records ≠ []) (still : ¬Waits records) :
    duration records = 0 :=
  Nat.eq_zero_of_not_pos fun takes => still ((duration_pos_iff nonempty).1 takes)

/-- A pass that does not wait is repeated in the same millisecond without end. -/
theorem laps_of_not_waits (nonempty : records ≠ []) (still : ¬Waits records)
    (near : Schedulable horizon start .zero) (n : Nat) :
    laps horizon records true start n = List.replicate n ⟨start, schedule start records, none⟩ := by
  have first := lap_of_schedulable nonempty true (schedulable_of_not_waits still near)
  have stays := duration_of_not_waits nonempty still
  induction n with
  | zero => rfl
  | succ n ih =>
    have going : (lap horizon records true start).ending = none := by rw [first]; rfl
    rw [laps_of_going going, (lap_of_going nonempty going).2, stays, Nat.add_zero, ih, first,
      List.replicate_succ]
    rfl

/-- All that such a pass publishes comes out in the millisecond in which it begins. -/
theorem millis_of_not_waits (nonempty : records ≠ []) (still : ¬Waits records) {p : Publication}
    (among : p ∈ schedule start records) : p.millis = start := by
  obtain ⟨i, lt, rfl⟩ := List.mem_mapIdx.1 among
  have soon : moment 0 records i ≤ duration records := moment_mono 0 records (by omega)
  rw [duration_of_not_waits nonempty still] at soon
  show moment start records i = start
  rw [moment_eq_add, Nat.le_zero.1 soon, Nat.add_zero]

/-- The publications of `n` such passes all come out in the millisecond in which the first begins. -/
theorem countP_of_not_waits (nonempty : records ≠ []) (still : ¬Waits records)
    (near : Schedulable horizon start .zero) (n : Nat) :
    (published (laps horizon records true start n)).countP (·.millis ≤ start) =
      n * records.length := by
  have at_once : ∀ p ∈ schedule start records, decide (p.millis ≤ start) = true := fun p among =>
    decide_eq_true (Nat.le_of_eq (millis_of_not_waits nonempty still among))
  have once : (schedule start records).countP (·.millis ≤ start) = records.length := by
    rw [List.countP_eq_length.2 at_once]
    exact List.length_mapIdx
  rw [laps_of_not_waits nonempty still near, published, List.countP_flatMap, List.map_replicate]
  show (List.replicate n ((schedule start records).countP (·.millis ≤ start))).sum = _
  rw [once, List.sum_replicate_nat]

/-- **When a repeated capture lets time go on.** Exactly if some record is untimed, or has a time that is
not zero, no two passes begin in the same millisecond, and only so many publications come out by any
time. Otherwise all passes begin in the same one. -/
theorem laps_advance_iff (horizon : Nat) (records : List Record) (nonempty : records ≠ []) (start : Nat)
    (near : Schedulable horizon start .zero) :
    ((∀ n, ((laps horizon records true start n).map (·.start)).Pairwise (· < ·)) ↔ Waits records) ∧
      ((∀ limit, ∃ most, ∀ n,
        (published (laps horizon records true start n)).countP (·.millis ≤ limit) ≤ most) ↔
          Waits records) ∧
      (¬Waits records → ∀ n,
        (laps horizon records true start n).map (·.start) = List.replicate n start) := by
  have same (still : ¬Waits records) (n : Nat) :
      (laps horizon records true start n).map (·.start) = List.replicate n start := by
    rw [laps_of_not_waits nonempty still near, List.map_replicate]
  refine ⟨⟨fun apart => ?_, fun waits n => starts_pairwise nonempty waits start n⟩,
    ⟨fun bounded => ?_, fun waits limit => ⟨_, countP_laps_le nonempty waits start limit⟩⟩, same⟩
  · by_contra still
    have two := apart 2
    rw [same still] at two
    exact Nat.lt_irrefl start (List.rel_of_pairwise_cons two List.mem_cons_self)
  · by_contra still
    obtain ⟨most, all⟩ := bounded start
    have more := all (most + 1)
    rw [countP_of_not_waits nonempty still near] at more
    have some := List.length_pos_iff.2 nonempty
    have : most + 1 ≤ (most + 1) * records.length := Nat.le_mul_of_pos_right _ some
    omega

/-! A record at once, and one of another channel's clock that is set back: only the untimed record lets
time go on. -/

def staggered : List Record :=
  [⟨some .zero, ⟨0, 1, []⟩⟩, ⟨some .zero, ⟨1, 2, [0xAB]⟩⟩, ⟨none, ⟨0, 3, []⟩⟩]

theorem laps_advance_iff_staggered :
    (staggered ≠ [] ∧ Schedulable dayHorizon 7 .zero) ∧ Waits staggered ∧
    (∀ n, ((laps dayHorizon staggered true 7 n).map (·.start)).Pairwise (· < ·)) ∧
    (laps dayHorizon staggered true 7 3).map (·.start) = [7, 107, 207] := by
  have nonempty : staggered ≠ [] := by decide
  have near : Schedulable dayHorizon 7 .zero := by decide
  have waits : Waits staggered := by decide
  have advance := laps_advance_iff dayHorizon staggered nonempty 7 near
  exact ⟨⟨nonempty, near⟩, waits, advance.1.2 waits, by decide⟩

/-- The passes of a capture do not always begin at different times. -/
theorem single_record_spins :
    ¬∀ (text : List Char) (records : List Record), parse text = .ok records → records ≠ [] →
      (∀ i < records.length, Schedulable dayHorizon 0 (due records i)) →
      ∀ n, ((laps dayHorizon records true 0 n).map (·.start)).Pairwise (· < ·) := by
  intro advances
  have parsed : parse "(0) can0 1#".toList = .ok [⟨some .zero, ⟨0, 1, []⟩⟩] := by rfl
  have apart := advances _ _ parsed (by decide) (by decide) 2
  have together :
      (laps dayHorizon [⟨some .zero, ⟨0, 1, []⟩⟩] true 0 2).map (·.start) = [0, 0] := by decide
  rw [together] at apart
  exact absurd apart (by decide)

end CanScope.Capture
