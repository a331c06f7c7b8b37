import CanScope.Capture.Playback
import Mathlib.Data.Finset.Lattice.Fold
import Mathlib.Data.Finset.Range
import Mathlib.Order.Lattice.Nat

/-!
# The schedule of a pass

A pass publishes its records in their order. Each is due at an offset from the start of the pass, and
comes out in the first millisecond that is not before the moment it is due, or as soon as those before
it are out. `schedule` says this in closed form: record `i` comes out in the latest of the milliseconds
in which one of the records up to `i` is due. The pass itself keeps a clock and a count of untimed
records instead.

**What stops a pass.** A record whose moment lies beyond what can be scheduled. Those before it come out
on schedule, and none behind it does.

**Results.**
* `offsets_eq`: the offsets that are counted along a pass are the closed ones.
* `pass_eq`: a pass is its schedule up to the first record that cannot be scheduled.
* `due_le_moment`, `moment_mono`: no record comes out before it is due, or before an earlier one.
-/
namespace CanScope.Capture

/-- The offset of record `i` from the start of its pass: its time, or 100 ms for each untimed record
up to it. -/
def due (records : List Record) (i : Nat) : Span :=
  (records[i]?.bind (·.at?)).getD (.ofMillis (100 * (records.take (i + 1)).countP (·.at?.isNone)))

/-- The moment in nanoseconds at an offset from the start of a pass that begins at millisecond
`start`. -/
def deadline (start : Nat) (offset : Span) : Nat := start * Span.perMilli + offset.nanos

def Schedulable (horizon start : Nat) (offset : Span) : Prop := deadline start offset < horizon

instance (horizon start : Nat) (offset : Span) : Decidable (Schedulable horizon start offset) :=
  inferInstanceAs (Decidable (_ < _))

/-- The millisecond in which record `i` comes out, if nothing stops the pass before. -/
def moment (start : Nat) (records : List Record) (i : Nat) : Nat :=
  (Finset.range (i + 1)).sup fun j => wakeUp (deadline start (due records j))

/-- What a pass publishes if nothing stops it. -/
def schedule (start : Nat) (records : List Record) : List Publication :=
  records.mapIdx fun i r => ⟨moment start records i, r.frame⟩

/-- The number of records before the first that cannot be scheduled. -/
structure Reaches (horizon start : Nat) (records : List Record) (k : Nat) : Prop where
  le : k ≤ records.length
  before : ∀ i < k, Schedulable horizon start (due records i)
  stop : k < records.length → ¬Schedulable horizon start (due records k)

/-! ## Offsets -/

theorem offsets_eq_mapIdx (waited : Span) (records : List Record) :
    offsets waited records = records.mapIdx fun i r =>
      (r.at?.getD (waited + .ofMillis (100 * (records.take (i + 1)).countP (·.at?.isNone))),
        r.frame) := by
  induction records generalizing waited with
  | nil => rfl
  | cons r rest ih =>
    obtain ⟨at?, frame⟩ := r
    rw [List.mapIdx_cons, offsets]
    cases at? with
    | some offset =>
      simp only [List.take_succ_cons, List.countP_cons, Option.isNone_some, Bool.false_eq_true,
        if_false, Nat.add_zero]
      exact congrArg _ (ih waited)
    | none =>
      -- this record counts for all that follow
      have later (n : Nat) : waited + .ofMillis (100 * (n + 1)) =
          waited + untimedPeriod + .ofMillis (100 * n) := by
        simp only [untimedPeriod, Span.ofMillis, Span.perMilli]
        show Span.mk _ = Span.mk _
        simp only [Span.add_nanos]
        congr 1
        omega
      simp only [List.take_succ_cons, List.take_zero, List.countP_cons, List.countP_nil,
        Option.isNone_none, if_true, later]
      exact congrArg _ (ih _)

theorem offsets_eq (records : List Record) :
    offsets .zero records = records.mapIdx fun i r => (due records i, r.frame) := by
  rw [offsets_eq_mapIdx]
  refine List.ext_getElem? fun i => ?_
  rw [List.getElem?_mapIdx, List.getElem?_mapIdx]
  cases found : records[i]? with
  | none => rw [Option.map_none, Option.map_none]
  | some r =>
    have zero (s : Span) : Span.zero + s = s := congrArg Span.mk (Nat.zero_add s.nanos)
    simp only [Option.map_some, due, found, Option.bind_some, zero]

/-! ## Moments -/

/-- A publisher wakes in the first millisecond that is not before the moment it waits for. -/
theorem wakeUp_le_iff (nanos millis : Nat) :
    wakeUp nanos ≤ millis ↔ nanos ≤ millis * Span.perMilli := by
  unfold wakeUp Span.perMilli
  omega

/-- No record comes out before the moment it is due. -/
theorem due_le_moment (start : Nat) (records : List Record) (i : Nat) :
    deadline start (due records i) ≤ moment start records i * Span.perMilli := by
  rw [← wakeUp_le_iff]
  exact Finset.le_sup (f := fun j => wakeUp (deadline start (due records j)))
    (Finset.self_mem_range_succ i)

theorem moment_mono (start : Nat) (records : List Record) {i j : Nat} (le : i ≤ j) :
    moment start records i ≤ moment start records j :=
  Finset.sup_mono (Finset.range_subset_range.2 (Nat.succ_le_succ le))

theorem wakeUp_deadline (start : Nat) (offset : Span) :
    wakeUp (deadline start offset) = start + wakeUp offset.nanos := by
  unfold wakeUp deadline Span.perMilli
  omega

/-- A pass that begins later is later by as much. -/
theorem moment_eq_add (start : Nat) (records : List Record) (i : Nat) :
    moment start records i = start + moment 0 records i := by
  unfold moment
  induction i with
  | zero => simp only [zero_add, Finset.range_one, Finset.sup_singleton, wakeUp_deadline]
  | succ i ih =>
    rw [Finset.range_add_one, Finset.sup_insert, Finset.sup_insert, ih, wakeUp_deadline,
      wakeUp_deadline, Nat.zero_add]
    exact Nat.add_max_add_left _ _ _

theorem start_le_moment (start : Nat) (records : List Record) (i : Nat) :
    start ≤ moment start records i := by
  rw [moment_eq_add]
  exact Nat.le_add_right _ _

/-! ## Passes -/

theorem sup_range_succ (f : Nat → Nat) (n : Nat) :
    (Finset.range (n + 1)).sup f = max (f 0) ((Finset.range n).sup fun j => f (j + 1)) := by
  rw [Finset.range_add_one', Finset.sup_insert, Finset.sup_map]
  rfl

theorem passFrom_stopped {horizon start : Nat} {offset : Span}
    (far : ¬Schedulable horizon start offset) (clock : Nat) (frame : CanFrame)
    (rest : List (Span × CanFrame)) :
    passFrom horizon start clock ((offset, frame) :: rest) = ⟨[], some offset⟩ :=
  if_pos (Nat.not_lt.1 far)

theorem passFrom_published {horizon start : Nat} {offset : Span}
    (near : Schedulable horizon start offset) (clock : Nat) (frame : CanFrame)
    (rest : List (Span × CanFrame)) :
    passFrom horizon start clock ((offset, frame) :: rest) =
      { passFrom horizon start (max clock (wakeUp (deadline start offset))) rest with
        published := ⟨max clock (wakeUp (deadline start offset)), frame⟩ ::
          (passFrom horizon start (max clock (wakeUp (deadline start offset))) rest).published } :=
  if_neg (Nat.not_le.2 near)

/-- The clock of a pass shows the latest of the milliseconds in which a record was due so far. -/
theorem passFrom_mapIdx {horizon start : Nat} {offset : Nat → Span} {records : List Record} {k : Nat}
    (le : k ≤ records.length) (before : ∀ i < k, Schedulable horizon start (offset i))
    (stop : k < records.length → ¬Schedulable horizon start (offset k)) (clock : Nat) :
    passFrom horizon start clock (records.mapIdx fun i r => (offset i, r.frame)) =
      ⟨(records.take k).mapIdx fun i r => ⟨max clock ((Finset.range (i + 1)).sup fun j =>
          wakeUp (deadline start (offset j))), r.frame⟩,
        if k < records.length then some (offset k) else none⟩ := by
  induction records generalizing k offset clock with
  | nil =>
    obtain rfl := Nat.le_zero.1 le
    rfl
  | cons r rest ih =>
    rw [List.mapIdx_cons]
    cases k with
    | zero => exact passFrom_stopped (stop (Nat.succ_pos _)) clock r.frame _
    | succ k =>
      have later := @ih (fun i => offset (i + 1)) k (Nat.le_of_succ_le_succ le)
        (fun i lt => before (i + 1) (Nat.succ_lt_succ lt))
        (fun lt => stop (Nat.succ_lt_succ lt)) (max clock (wakeUp (deadline start (offset 0))))
      rw [passFrom_published (before 0 (Nat.succ_pos k)), later, List.take_succ_cons,
        List.mapIdx_cons]
      simp only [sup_range_succ fun j => wakeUp (deadline start (offset j)), Nat.max_assoc,
        Finset.range_zero, Finset.sup_empty, Nat.bot_eq_zero, Nat.max_zero, List.length_cons,
        Nat.add_lt_add_iff_right]

theorem take_mapIdx {α β : Type} (f : Nat → α → β) (l : List α) (k : Nat) :
    (l.mapIdx f).take k = (l.take k).mapIdx f := by
  refine List.ext_getElem? fun i => ?_
  rw [List.getElem?_mapIdx, List.getElem?_take, List.getElem?_take, List.getElem?_mapIdx]
  split <;> rfl

/-- A pass keeps to its schedule up to the first record that cannot be scheduled, and names it. -/
theorem pass_eq {horizon start : Nat} {records : List Record} {k : Nat}
    (h : Reaches horizon start records k) :
    pass horizon start records = ⟨(schedule start records).take k,
      if k < records.length then some (due records k) else none⟩ := by
  rw [pass, offsets_eq, passFrom_mapIdx h.le h.before h.stop, schedule, take_mapIdx]
  congr 2
  funext i r
  exact congrArg (Publication.mk · r.frame) (Nat.max_eq_right (start_le_moment start records i))

theorem map_frame_schedule (start : Nat) (records : List Record) :
    (schedule start records).map (·.frame) = records.map (·.frame) := by
  refine List.ext_getElem? fun i => ?_
  rw [schedule, List.getElem?_map, List.getElem?_mapIdx, List.getElem?_map]
  cases records[i]? <;> rfl

theorem pass_of_schedulable {horizon start : Nat} {records : List Record}
    (all : ∀ i < records.length, Schedulable horizon start (due records i)) :
    pass horizon start records = ⟨schedule start records, none⟩ := by
  have reaches : Reaches horizon start records records.length :=
    ⟨Nat.le_refl _, all, fun lt => absurd lt (Nat.lt_irrefl _)⟩
  have whole : (schedule start records).length = records.length := List.length_mapIdx
  rw [pass_eq reaches, if_neg (Nat.lt_irrefl _), ← whole, List.take_length]

end CanScope.Capture
