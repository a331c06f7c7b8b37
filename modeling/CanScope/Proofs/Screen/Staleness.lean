import CanScope.Proofs.Cache.Sweep
import CanScope.Screen.Snapshot
import Mathlib.Data.List.Forall2

/-!
# What is shown as stale is what a sweep removes

A snapshot walks along the order of use and looks each key up, a sweep goes through the store and then
drops the keys that are gone from the order. Both read the same frames, because the two halves of a
cache are in step: `Cache.byUse` are the frames along the order of use, and they are the frames of the
store (`perm_byUse`). A sweep takes the stale ones out of that list (`byUse_sweep`), and a snapshot
shows the beginning of it.

**Results.**
* `run_staleness`: after any calls on a new cache, at every moment, snapshots of any length are
  beginnings of one list, and the sweep removes exactly the rows that are shown as stale and leaves the
  others as they are (`StaleRowsSwept`). As time goes on rows only turn stale.
-/
namespace CanScope

/-! ## Style and time -/

/-- The row shows the same frame as before, in the same style or as stale by now. -/
def Row.Ages (r r' : Row) : Prop := r'.frame = r.frame ∧ (r'.style = r.style ∨ r'.style = .stale)

theorem Frame.style_later {now later : Instant} (h : now.nanos ≤ later.nanos) (f : Frame)
    (timeout : Span) :
    f.style later timeout = f.style now timeout ∨ f.style later timeout = .stale := by
  cases hlater : f.isStale later timeout with
  | true => exact .inr ((f.style_eq_stale_iff later timeout).mpr hlater)
  | false =>
    have hnow : f.isStale now timeout = false := by
      rw [← Bool.not_eq_true, isStale_iff] at hlater ⊢
      omega
    left
    rw [style_of_not_stale hlater, style_of_not_stale hnow]

namespace Cache

variable {c : Cache}

/-! ## The frames along the order of use -/

/-- The frames held, the one whose key was used last first. -/
def byUse (c : Cache) : List Frame := c.recency.order.filterMap c.get?

/-- The row for a frame at `now`. -/
def row (c : Cache) (now : Instant) (f : Frame) : Row := ⟨f, f.style now c.staleTimeout⟩

theorem row_style_eq_stale_iff (c : Cache) (now : Instant) (f : Frame) :
    (c.row now f).style = .stale ↔ f.isStale now c.staleTimeout = true :=
  f.style_eq_stale_iff now c.staleTimeout

theorem rows_snapshot (c : Cache) (now : Instant) (limit : Nat) :
    (c.snapshot now limit).rows = (c.byUse.take limit).map (c.row now) := rfl

theorem InStep.map_key_byUse (h : c.InStep) : c.byUse.map (·.key) = c.recency.order := by
  unfold byUse
  rw [List.map_filterMap]
  calc c.recency.order.filterMap (fun k => (c.get? k).map (·.key))
      = c.recency.order.filterMap some := by
        refine List.filterMap_congr fun k hk => ?_
        obtain ⟨f, hf⟩ := Option.isSome_iff_exists.mp ((h.mem_order_iff k).mp hk)
        have hget : c.get? k = some f := hf
        rw [hget, Option.map_some, h.key_of_get? hget]
    _ = c.recency.order := List.filterMap_some

theorem InStep.length_byUse (h : c.InStep) : c.byUse.length = c.size := by
  rw [h.size_eq, Recency.size, ← h.map_key_byUse, List.length_map]

/-- The store holds the same frames, in an order of its own. -/
theorem InStep.perm_byUse (h : c.InStep) : c.byUse.Perm c.store.frames := by
  have hframes : c.store.keys.filterMap c.get? = c.store.frames := by
    unfold Store.keys Store.frames
    rw [List.filterMap_map, ← List.filterMap_eq_map]
    refine List.filterMap_congr fun e he => ?_
    exact (h.stored.get?_eq_some_iff e.1 e.2).mpr he
  rw [← hframes]
  exact (h.same.filterMap c.get?).symm

theorem InStep.byUse_sweep (h : c.InStep) (now : Instant) :
    (c.sweep now).byUse = c.byUse.filter fun f => !f.isStale now c.staleTimeout := by
  have hget : (c.sweep now).get? = fun k => (c.get? k).filter fun f => !f.isStale now c.staleTimeout :=
    funext (get?_sweep h now)
  unfold byUse
  rw [h.order_sweep, hget, List.filterMap_filter, List.filter_filterMap]
  refine List.filterMap_congr fun k _ => ?_
  cases c.get? k with
  | none => rfl
  | some f => cases hf : f.isStale now c.staleTimeout <;> simp [Option.filter, hf]

/-! ## Sweeping -/

/-- The frames that a sweep at `now` removes. -/
def removed (c : Cache) (now : Instant) : List Frame :=
  c.store.frames.filter fun f => decide (f ∉ (c.sweep now).store.frames)

theorem InStep.removed_eq (h : c.InStep) (now : Instant) :
    c.removed now = c.store.frames.filter (·.isStale now c.staleTimeout) := by
  refine List.filter_congr fun f hf => ?_
  have hleft : f ∈ (c.sweep now).store.frames ↔ f.isStale now c.staleTimeout = false := by
    rw [(h.sweep now).mem_frames_iff, get?_sweep h, (h.mem_frames_iff f).mp hf, Option.filter_some]
    simp
  cases hstale : f.isStale now c.staleTimeout <;> simp [hleft, hstale]

theorem InStep.rows_of_size_le (h : c.InStep) (now : Instant) {limit : Nat} (hlimit : c.size ≤ limit) :
    (c.snapshot now limit).rows = c.byUse.map (c.row now) := by
  rw [rows_snapshot, List.take_of_length_le]
  rw [h.length_byUse]
  exact hlimit

theorem InStep.stale_rows (h : c.InStep) (now : Instant) {limit : Nat} (hlimit : c.size ≤ limit) :
    (c.snapshot now limit).rows.filter (·.style = .stale) =
      (c.byUse.filter (·.isStale now c.staleTimeout)).map (c.row now) := by
  rw [h.rows_of_size_le now hlimit, List.filter_map]
  congr 1
  refine List.filter_congr fun f _ => ?_
  simp [row_style_eq_stale_iff]

/-- The rows that are not shown as stale are those of the frames that a sweep leaves. -/
theorem InStep.rows_sweep (h : c.InStep) (now : Instant) {limit : Nat} (hlimit : c.size ≤ limit) :
    ((c.sweep now).snapshot now limit).rows =
      (c.snapshot now limit).rows.filter (·.style ≠ .stale) := by
  have hless := c.size_sweep now
  rw [h.rows_of_size_le now hlimit, (h.sweep now).rows_of_size_le now (by omega), h.byUse_sweep,
    List.filter_map]
  have hrow : (c.sweep now).row now = c.row now := rfl
  rw [hrow]
  congr 1
  refine List.filter_congr fun f _ => ?_
  simp [row_style_eq_stale_iff]

/-- What may be relied on of snapshots and sweeps of the cache at `now`. -/
structure StaleRowsSwept (c : Cache) (now : Instant) : Prop where
  length : ∀ limit, (c.snapshot now limit).rows.length = min limit c.size
  distinct : ∀ limit, ((c.snapshot now limit).rows.map (·.frame.key)).Nodup
  first : ∀ limit limit', limit ≤ limit' →
    (c.snapshot now limit).rows = (c.snapshot now limit').rows.take limit
  /-- The stale rows of a whole snapshot are the frames that the sweep removes. -/
  removes : ∀ limit, c.size ≤ limit →
    (((c.snapshot now limit).rows.filter (·.style = .stale)).map (·.frame)).Perm (c.removed now)
  counts : ∀ limit, c.size ≤ limit →
    c.staleCount now = ((c.snapshot now limit).rows.filter (·.style = .stale)).length
  /-- A snapshot after the sweep has the other rows, as they were. -/
  leaves : ∀ limit, c.size ≤ limit →
    ((c.sweep now).snapshot now limit).rows =
        (c.snapshot now limit).rows.filter (·.style ≠ .stale) ∧
      ((c.sweep now).snapshot now limit).total =
        ((c.snapshot now limit).rows.filter (·.style ≠ .stale)).length
  ages : ∀ later limit, now.nanos ≤ later.nanos →
    (c.snapshot later limit).total = (c.snapshot now limit).total ∧
      List.Forall₂ Row.Ages (c.snapshot now limit).rows (c.snapshot later limit).rows

theorem InStep.staleRowsSwept (h : c.InStep) (now : Instant) : c.StaleRowsSwept now := by
  have hperm := h.perm_byUse.filter (·.isStale now c.staleTimeout)
  refine ⟨?_, ?_, ?_, ?_, ?_, ?_, ?_⟩
  · intro limit
    rw [rows_snapshot, List.length_map, List.length_take, h.length_byUse]
  · intro limit
    rw [rows_snapshot, List.map_map]
    refine List.Nodup.sublist ((List.take_sublist limit c.byUse).map _) ?_
    exact h.map_key_byUse ▸ h.tracked.nodup
  · intro limit limit' hle
    rw [rows_snapshot, rows_snapshot, ← List.map_take, List.take_take, Nat.min_eq_left hle]
  · intro limit hlimit
    have hframes : (·.frame) ∘ c.row now = id := rfl
    rw [h.stale_rows now hlimit, List.map_map, hframes, List.map_id, h.removed_eq]
    exact hperm
  · intro limit hlimit
    rw [h.stale_rows now hlimit, List.length_map, hperm.length_eq]
    exact c.store.length_keysWhere _
  · intro limit hlimit
    have hless := c.size_sweep now
    have hrows := h.rows_sweep now hlimit
    refine ⟨hrows, ?_⟩
    rw [← hrows, (h.sweep now).rows_of_size_le now (by omega), List.length_map,
      (h.sweep now).length_byUse]
    rfl
  · intro later limit hle
    refine ⟨rfl, ?_⟩
    rw [rows_snapshot, rows_snapshot, List.forall₂_map_left_iff, List.forall₂_map_right_iff,
      List.forall₂_same]
    intro f _
    exact ⟨rfl, f.style_later hle c.staleTimeout⟩

/-- **What is shown as stale is what a sweep removes.** After any calls on a new cache, whatever the
frames and their stamps, and at every moment: a snapshot shows the beginning of the frames by use, each
key once; the sweep removes exactly the rows shown as stale, and a snapshot after it shows the others
unchanged; and at a later moment the same rows are shown, some of them as stale by then. -/
theorem run_staleness (displayLimit : Nat) (staleTimeout : Span) (ops : List Op) (now : Instant) :
    ((new displayLimit staleTimeout).run ops).StaleRowsSwept now :=
  ((inStep_new displayLimit staleTimeout).run ops).staleRowsSwept now

/-- A frame that is one nanosecond too old, one that was sent as invalid, and one from ahead. -/
example : (((new 1 (.ofSeconds 2)).applyAll [⟨⟨0, 1⟩, [1], ⟨5000000000⟩, false⟩,
    ⟨⟨0, 2⟩, [], ⟨2999999999⟩, false⟩, ⟨⟨1, 1⟩, [2], ⟨9000000000⟩, true⟩]).snapshot ⟨5000000000⟩ 7).rows.map
      (fun r => (r.frame.key.address, r.style)) = [(1, .fresh), (2, .stale)] := by decide

end Cache

end CanScope
