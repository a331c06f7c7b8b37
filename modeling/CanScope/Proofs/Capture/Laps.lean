import CanScope.Capture.Onlooker
import CanScope.Proofs.Capture.Schedule

/-!
# Playing a capture, pass by pass

A playback is a row of passes, each of which begins when the one before it published its last record.
It ends with the first pass that is blocked, or with the first one if the capture is not repeated, and
an empty capture ends it at once. `laps` lists the passes; nobody has to look on for that.

**Onlookers.** `Onlooker.watchFrom` cuts this row off where somebody leaves. What they saw is a
beginning of what the passes publish, and if they were told of the end then it ended that way.

**Results.**
* `laps_on_schedule`: each pass of a playback is on schedule, and the next one begins with its last
  publication.
* `observeWithin_laps`: an onlooker sees a beginning of that.
-/
namespace CanScope.Capture

/-- One pass of a playback. -/
structure Lap where
  /-- The millisecond in which it began. -/
  start : Nat
  published : List Publication
  /-- How it ended the playback, if it did. -/
  ending : Option Ending
  deriving DecidableEq, Repr

/-- The pass of a playback that begins at millisecond `start`. -/
def lap (horizon : Nat) (records : List Record) (again : Bool) (start : Nat) : Lap where
  start
  published := (pass horizon start records).published
  ending := if records.isEmpty then some .emptyCapture else (pass horizon start records).ending? again

/-- The first `n` passes of a playback from millisecond `start` on, or fewer if it ends before. -/
def laps (horizon : Nat) (records : List Record) (again : Bool) (start : Nat) : Nat → List Lap
  | 0 => []
  | n + 1 =>
    let first := lap horizon records again start
    first :: match first.ending with
      | some _ => []
      | none => laps horizon records again ((pass horizon start records).finish start) n

/-- What comes out in passes, in order. -/
def published (passes : List Lap) : List Publication := passes.flatMap (·.published)

/-- How the playback ended with the last of some passes, if it did. -/
def ending? (passes : List Lap) : Option Ending := passes.getLast?.bind (·.ending)

variable {horizon : Nat} {records : List Record} {again : Bool} {start : Nat}

theorem laps_of_ended {ending : Ending} (h : (lap horizon records again start).ending = some ending)
    (n : Nat) : laps horizon records again start (n + 1) = [lap horizon records again start] := by
  rw [laps, h]

theorem laps_of_going (h : (lap horizon records again start).ending = none) (n : Nat) :
    laps horizon records again start (n + 1) = lap horizon records again start ::
      laps horizon records again ((pass horizon start records).finish start) n := by
  rw [laps, h]

theorem laps_one (horizon : Nat) (records : List Record) (again : Bool) (start : Nat) :
    laps horizon records again start 1 = [lap horizon records again start] := by
  rw [laps]
  cases (lap horizon records again start).ending <;> rfl

theorem lap_ending (nonempty : records ≠ []) (again : Bool) (start : Nat) :
    (lap horizon records again start).ending = (pass horizon start records).ending? again :=
  if_neg (by simpa using nonempty)

theorem published_cons (first : Lap) (passes : List Lap) :
    published (first :: passes) = first.published ++ published passes := List.flatMap_cons

theorem published_singleton (first : Lap) : published [first] = first.published :=
  List.flatMap_singleton _ _

/-! ## Passes on schedule -/

/-- A pass that is not stopped is over when its last record came out. -/
theorem finish_of_schedulable (nonempty : records ≠ [])
    (all : ∀ i < records.length, Schedulable horizon start (due records i)) :
    (pass horizon start records).finish start = moment start records (records.length - 1) := by
  rw [Pass.finish, pass_of_schedulable all, schedule, List.getLast?_mapIdx,
    List.getLast?_eq_some_getLast nonempty]
  rfl

theorem lap_of_schedulable (nonempty : records ≠ []) (again : Bool)
    (all : ∀ i < records.length, Schedulable horizon start (due records i)) :
    lap horizon records again start =
      ⟨start, schedule start records, if again then none else some .finished⟩ := by
  rw [lap, pass_of_schedulable all, if_neg (by simpa using nonempty)]
  rfl

theorem lap_of_blocked {k : Nat} (lt : k < records.length)
    (before : ∀ i < k, Schedulable horizon start (due records i))
    (stop : ¬Schedulable horizon start (due records k)) (again : Bool) :
    lap horizon records again start =
      ⟨start, (schedule start records).take k, some (.blocked (due records k))⟩ := by
  have nonempty : records ≠ [] := List.length_pos_iff.1 (Nat.zero_lt_of_lt lt)
  have reaches : Reaches horizon start records k := ⟨Nat.le_of_lt lt, before, fun _ => stop⟩
  rw [lap, pass_eq reaches, if_pos lt, if_neg (by simpa using nonempty)]
  rfl

/-! ## Onlookers -/

/-- The clock of a pass never goes back. -/
theorem pairwise_passFrom (start clock : Nat) (items : List (Span × CanFrame)) :
    (clock :: (passFrom horizon start clock items).published.map (·.millis)).Pairwise (· ≤ ·) := by
  induction items generalizing clock with
  | nil => exact List.pairwise_singleton _ _
  | cons item rest ih =>
    obtain ⟨offset, frame⟩ := item
    by_cases near : Schedulable horizon start offset
    · have later := ih (max clock (wakeUp (deadline start offset)))
      rw [passFrom_published near, List.map_cons, List.pairwise_cons, List.forall_mem_cons]
      refine ⟨⟨Nat.le_max_left _ _, fun millis among => ?_⟩, later⟩
      exact (Nat.le_max_left _ _).trans (List.rel_of_pairwise_cons later among)
    · rw [passFrom_stopped near]
      exact List.pairwise_singleton _ _

theorem pairwise_pass (start : Nat) (records : List Record) :
    (start :: (pass horizon start records).published.map (·.millis)).Pairwise (· ≤ ·) :=
  pairwise_passFrom start start _

theorem finish_eq (run : Pass) (start : Nat) :
    run.finish start = (run.published.getLast?.map (·.millis)).getD start := by
  rw [Pass.finish]
  cases run.published.getLast? <;> rfl

/-- An onlooker sees a beginning of what comes out. One who stays sees all of it, and the clock shows
the last of it. -/
theorem attend_spec (o : Onlooker) (p : Progress) (xs : List Publication)
    (sorted : (p.clock :: xs.map (·.millis)).Pairwise (· ≤ ·)) :
    (o.attend p xs).1 <+: xs ∧ ∀ after, (o.attend p xs).2 = some after →
      (o.attend p xs).1 = xs ∧ after.clock = (xs.getLast?.map (·.millis)).getD p.clock := by
  induction xs generalizing p with
  | nil =>
    refine ⟨List.prefix_refl _, fun after stayed => ?_⟩
    cases stayed
    exact ⟨rfl, rfl⟩
  | cons x rest ih =>
    rw [List.map_cons, List.pairwise_cons, List.forall_mem_cons] at sorted
    have clock : (p.publish x.millis).clock = x.millis := Nat.max_eq_right sorted.1.1
    obtain ⟨seen, stays⟩ := ih (p.publish x.millis) (by rw [clock]; exact sorted.2)
    rw [Onlooker.attend]
    split
    · exact ⟨List.nil_prefix, fun after stayed => by cases stayed⟩
    · refine ⟨List.cons_prefix_cons.2 ⟨rfl, seen⟩, fun after stayed => ?_⟩
      obtain ⟨whole, shows⟩ := stays after stayed
      refine ⟨congrArg _ whole, ?_⟩
      rw [shows, clock, List.getLast?_cons]
      cases rest.getLast? <;> rfl

theorem attend_pass (o : Onlooker) (p : Progress) (records : List Record) :
    let run := pass horizon p.clock records
    (o.attend p run.published).1 <+: run.published ∧
      ∀ after, (o.attend p run.published).2 = some after →
        (o.attend p run.published).1 = run.published ∧ after.clock = run.finish p.clock := by
  intro run
  rw [finish_eq]
  exact attend_spec o p _ (pairwise_pass p.clock records)

/-- What was observed is a beginning of some passes; and if it came to an end, all of them, and the
end that they have. -/
structure Glimpse (o : Observation) (passes : List Lap) : Prop where
  beginning : o.seen <+: published passes
  whole : ∀ e, o.ending = some e → o.seen = published passes ∧ ending? passes = some e

theorem Glimpse.of_isPrefix {seen : List Publication} {passes : List Lap}
    (h : seen <+: published passes) : Glimpse ⟨seen, none⟩ passes :=
  ⟨h, fun e ended => by cases ended⟩

theorem ending?_cons {first : Lap} {passes : List Lap} {e : Ending} (h : ending? passes = some e) :
    ending? (first :: passes) = some e := by
  obtain ⟨last, isLast, ended⟩ := Option.bind_eq_some_iff.1 h
  rw [ending?, List.getLast?_cons, isLast]
  exact ended

/-- Each pass that is watched to its end is one more of the passes. -/
theorem watchFrom_laps (nonempty : records ≠ []) (again : Bool) (o : Onlooker) (p : Progress) :
    ∃ n, Glimpse (watchFrom horizon records again o p) (laps horizon records again p.clock n) := by
  have one (start : Nat) : published (laps horizon records again start 1) =
      (pass horizon start records).published := by
    rw [laps_one, published_singleton]
    rfl
  fun_induction watchFrom horizon records again o p with
  | case1 p run seen left =>
    obtain ⟨beginning, -⟩ := attend_pass o p records
    rw [left] at beginning
    exact ⟨1, .of_isPrefix (by rwa [one])⟩
  | case2 p run seen after stayed e ended =>
    obtain ⟨whole, -⟩ := (attend_pass o p records).2 after (congrArg Prod.snd stayed)
    rw [stayed] at whole
    have last : (lap horizon records again p.clock).ending = some e :=
      (lap_ending nonempty _ _).trans ended
    refine ⟨1, ⟨?_, ?_⟩⟩
    · rw [one, ← whole]
    · rintro _ ⟨⟩
      exact ⟨by rw [one, ← whole], by rw [laps_one]; exact last⟩
  | case3 p run seen after stayed going more later ih =>
    obtain ⟨whole, clock⟩ := (attend_pass o p records).2 after (congrArg Prod.snd stayed)
    obtain ⟨n, glimpse⟩ := ih
    rw [stayed] at whole
    rw [clock] at glimpse
    have next := laps_of_going ((lap_ending nonempty again p.clock).trans going) n
    have row : published (laps horizon records again p.clock (n + 1)) =
        seen ++ published (laps horizon records again (run.finish p.clock) n) := by
      rw [next, published_cons]
      exact congrArg (· ++ _) whole.symm
    refine ⟨n + 1, ⟨?_, fun e ended => ?_⟩⟩
    · rw [row]
      exact List.prefix_append_right_inj seen |>.2 glimpse.beginning
    · obtain ⟨all, last⟩ := glimpse.whole e ended
      exact ⟨by rw [row]; exact congrArg _ all, by rw [next]; exact ending?_cons last⟩
  | case4 p run seen after stayed going enough =>
    obtain ⟨beginning, -⟩ := attend_pass o p records
    rw [stayed] at beginning
    exact ⟨1, .of_isPrefix (by rwa [one])⟩

/-- Whoever looks on from the start sees a beginning of the passes. One who is still there when it ends
has seen them all, or as much as they had room for. -/
theorem observeWithin_laps (horizon : Nat) (records : List Record) (again : Bool) (o : Onlooker) :
    ∃ n, (observeWithin horizon records again o).seen <+: published (laps horizon records again 0 n) ∧
      ∀ e, (observeWithin horizon records again o).ending = some e →
        ending? (laps horizon records again 0 n) = some e ∧ (o.listens = true →
          (observeWithin horizon records again o).seen =
            (published (laps horizon records again 0 n)).take o.room) := by
  rw [observeWithin]
  cases empty : records.isEmpty with
  | true =>
    obtain rfl := List.isEmpty_iff.1 empty
    refine ⟨1, List.nil_prefix, fun e ended => ?_⟩
    cases ended
    exact ⟨rfl, fun _ => List.take_nil.symm⟩
  | false =>
    obtain ⟨n, glimpse⟩ := watchFrom_laps (by simpa using empty) again o .start
    refine ⟨n, ?_, fun e ended => ?_⟩
    · cases o.listens with
      | true => exact (List.take_prefix _ _).trans glimpse.beginning
      | false => exact List.nil_prefix
    · obtain ⟨all, last⟩ := glimpse.whole e ended
      refine ⟨last, fun listens => ?_⟩
      rw [if_neg Bool.false_ne_true]
      show (if o.listens = true then _ else _) = _
      rw [if_pos listens, all]
      rfl

/-! ## The whole playback -/

/-- **Every record comes out once, in order and on schedule.** What a playback publishes are events, each
valid and with the one frame of its record. No record comes out before it is due or before an earlier
one, and each at the same distance from the start of its pass. An empty capture ends the playback at
once. Where all records of a pass can be scheduled, each comes out at its moment; the playback is then
finished, or if the capture is repeated goes on with a pass that begins with the last publication. Where
one cannot be, those before the first such come out and the playback ends. Onlookers see a beginning of
this, and all of it if they stay. -/
theorem laps_on_schedule (horizon : Nat) (records : List Record) (again : Bool) (start n : Nat) :
    (records = [] → laps horizon records again start (n + 1) = [⟨start, [], some .emptyCapture⟩]) ∧
    (records ≠ [] → (∀ i < records.length, Schedulable horizon start (due records i)) →
      laps horizon records again start (n + 1) =
        if again then
          ⟨start, schedule start records, none⟩ ::
            laps horizon records again (moment start records (records.length - 1)) n
        else [⟨start, schedule start records, some .finished⟩]) ∧
    (∀ k < records.length, (∀ i < k, Schedulable horizon start (due records i)) →
      ¬Schedulable horizon start (due records k) →
      laps horizon records again start (n + 1) =
        [⟨start, (schedule start records).take k, some (.blocked (due records k))⟩]) ∧
    (schedule start records).map (fun p => Event.ofFrames [p.frame]) =
      records.map (fun r => ⟨.can [r.frame], true, 0⟩) ∧
    (∀ i, deadline start (due records i) ≤ moment start records i * Span.perMilli ∧
      moment start records i = start + moment 0 records i ∧
      ∀ j ≤ i, moment start records j ≤ moment start records i) ∧
    ∀ o : Onlooker, ∃ n,
      (observeWithin horizon records again o).seen <+: published (laps horizon records again 0 n) ∧
      ∀ e, (observeWithin horizon records again o).ending = some e →
        ending? (laps horizon records again 0 n) = some e ∧ (o.listens = true →
          (observeWithin horizon records again o).seen =
            (published (laps horizon records again 0 n)).take o.room) := by
  refine ⟨?_, ?_, ?_, ?_, ?_, observeWithin_laps horizon records again⟩
  · rintro rfl
    rfl
  · intro nonempty all
    have first := lap_of_schedulable nonempty again all
    cases again with
    | true =>
      have going : (lap horizon records true start).ending = none := by rw [first]; rfl
      rw [laps_of_going going, first, finish_of_schedulable nonempty all]
      rfl
    | false =>
      have ended : (lap horizon records false start).ending = some .finished := by rw [first]; rfl
      rw [laps_of_ended ended, first]
      rfl
  · intro k lt before stop
    have first := lap_of_blocked lt before stop again
    rw [laps_of_ended (congrArg Lap.ending first), first]
  · have frames := congrArg (List.map fun f => Event.ofFrames [f]) (map_frame_schedule start records)
    rwa [List.map_map, List.map_map] at frames
  · exact fun i => ⟨due_le_moment start records i, moment_eq_add start records i,
      fun j le => moment_mono start records le⟩

/-! Timed and untimed records, one that is due between two milliseconds, and one behind it whose time
goes back. With a record that cannot be scheduled the playback ends, although it is to be repeated. -/

def mixed : List Record :=
  [⟨none, ⟨0, 1, []⟩⟩, ⟨some ⟨250000001⟩, ⟨0, 2, []⟩⟩, ⟨none, ⟨0, 3, []⟩⟩, ⟨some .zero, ⟨0, 4, []⟩⟩]

def stopped : List Record := mixed ++ [⟨some .longest, ⟨0, 5, []⟩⟩, ⟨none, ⟨0, 6, []⟩⟩]

theorem laps_on_schedule_mixed :
    (mixed ≠ [] ∧ ∀ i < mixed.length, Schedulable dayHorizon 0 (due mixed i)) ∧
    (laps dayHorizon mixed true 0 2).map (fun l => (l.start, l.published.map (·.millis), l.ending)) =
      [(0, [100, 251, 251, 251], none), (251, [351, 502, 502, 502], none)] ∧
    (4 < stopped.length ∧ (∀ i < 4, Schedulable dayHorizon 7 (due stopped i)) ∧
      ¬Schedulable dayHorizon 7 (due stopped 4)) ∧
    (laps dayHorizon stopped true 7 2).map (fun l => (l.published.map (·.millis), l.ending)) =
      [([107, 258, 258, 258], some (.blocked .longest))] := by
  have nonempty : mixed ≠ [] := by decide
  have all : ∀ i < mixed.length, Schedulable dayHorizon 0 (due mixed i) := by decide
  have before : ∀ i < 4, Schedulable dayHorizon 7 (due stopped i) := by decide
  have stop : ¬Schedulable dayHorizon 7 (due stopped 4) := by decide
  refine ⟨⟨nonempty, all⟩, ?_, ⟨by decide, before, stop⟩, ?_⟩
  · rw [(laps_on_schedule dayHorizon mixed true 0 1).2.1 nonempty all]
    decide
  · rw [(laps_on_schedule dayHorizon stopped true 7 1).2.2.1 4 (by decide) before stop]
    decide

end CanScope.Capture
