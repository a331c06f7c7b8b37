import CanScope.Cache.Basic
import CanScope.Proofs.Cache.Recency
import CanScope.Proofs.Cache.Store
import Mathlib.Data.List.Perm.Lattice

/-!
# The two halves of a cache stay in step

A cache is a store and an order of use, changed one after the other by every operation.
`Cache.InStep` says that they hold the same keys, each once, and that every frame stands under its
own key. A new cache is in step, and `apply`, `sweep` and `clear` keep it so, whatever the frames
and the times.

**Nothing leaks.** `Tally` counts where frames come in and where they leave: a frame whose key the
cache did not hold comes in with `apply`, and it leaves when its key is evicted, in a sweep, or when
the cache is cleared. `run_balanced` puts both together for every sequence of calls on a new cache.
-/
namespace CanScope.Cache

structure InStep (c : Cache) : Prop where
  own : ∀ e ∈ c.store.entries, e.2.key = e.1
  same : c.store.keys.Perm c.recency.order
  tracked : c.recency.Sound

namespace InStep

variable {c : Cache}

theorem stored (h : c.InStep) : c.store.Sound := ⟨h.own, h.same.nodup_iff.2 h.tracked.nodup⟩

theorem mem_order_iff (h : c.InStep) (k : Key) : k ∈ c.recency.order ↔ c.store.contains k = true := by
  rw [c.store.contains_iff, h.same.mem_iff]

theorem contains_eq (h : c.InStep) (k : Key) : c.store.contains k = c.recency.contains k := by
  rw [Bool.eq_iff_iff, c.recency.contains_iff, h.mem_order_iff]

theorem get?_of_notMem (h : c.InStep) {k : Key} (hk : k ∉ c.recency.order) : c.get? k = none := by
  rw [h.mem_order_iff, Store.contains, Option.not_isSome_iff_eq_none] at hk
  exact hk

theorem key_of_get? (h : c.InStep) {k : Key} {f : Frame} (hf : c.get? k = some f) : f.key = k :=
  h.own _ ((h.stored.get?_eq_some_iff k f).mp hf)

theorem mem_frames_iff (h : c.InStep) (f : Frame) : f ∈ c.store.frames ↔ c.get? f.key = some f := by
  constructor
  · intro hf
    obtain ⟨e, he, rfl⟩ := List.mem_map.mp hf
    rw [h.own e he]
    exact (h.stored.get?_eq_some_iff e.1 e.2).mpr he
  · intro hf
    exact List.mem_map_of_mem ((h.stored.get?_eq_some_iff f.key f).mp hf)

theorem size_eq (h : c.InStep) : c.size = c.recency.size := by
  simp only [size, Store.size_eq, h.same.length_eq, Recency.size]

end InStep

theorem inStep_new (displayLimit : Nat) (staleTimeout : Span) :
    (new displayLimit staleTimeout).InStep :=
  ⟨Store.sound_empty.own, .nil, Recency.sound_withCapacity _⟩

/-! ## Applying a frame -/

/-- The keys left in the store after `f` is stored and the evicted key, if any, is taken out. -/
theorem keys_apply (c : Cache) (f : Frame) :
    (c.apply f).store.keys =
      (f.key :: c.store.keys.filter (· ≠ f.key)).filter fun k => c.evicts f ≠ some k := by
  simp only [apply]
  cases c.evicts f with
  | none => simp [Store.keys_insert]
  | some e =>
    simp only [Store.keys_erase, Store.keys_insert]
    exact List.filter_congr fun k _ => by simp [eq_comm]

theorem own_apply {c : Cache} (h : c.InStep) (f : Frame) :
    ∀ e ∈ (c.apply f).store.entries, e.2.key = e.1 := by
  simp only [apply]
  cases c.evicts f with
  | none => exact (h.stored.insert f).own
  | some e => exact ((h.stored.insert f).erase e).own

theorem InStep.apply {c : Cache} (h : c.InStep) (f : Frame) : (c.apply f).InStep := by
  refine ⟨own_apply h f, ?_, h.tracked.touch f.key⟩
  have ho : (c.apply f).recency.order = _ := Recency.order_touch h.tracked f.key
  rw [keys_apply, ho]
  exact ((h.same.filter _).cons f.key).filter _

theorem get?_apply (c : Cache) (f : Frame) (k : Key) :
    (c.apply f).get? k =
      if c.evicts f = some k then none else if k = f.key then some f else c.get? k := by
  simp only [get?, apply]
  cases he : c.evicts f with
  | none => simp [Store.get?_insert]
  | some e =>
    rw [Store.get?_erase, Store.get?_insert]
    by_cases hk : k = e <;> simp [hk, eq_comm]

theorem mem_order_of_apply {c : Cache} {f : Frame} {k : Key}
    (hk : k ∈ (c.apply f).recency.order) : k = f.key ∨ k ∈ c.recency.order := by
  rcases List.mem_cons.1 (List.mem_of_mem_take hk) with own | old
  · exact .inl own
  · exact .inr (List.mem_of_mem_filter old)

/-- A key that is still tracked was not evicted. -/
theorem get?_apply_of_mem {c : Cache} (h : c.InStep) {f : Frame} {k : Key}
    (hk : k ∈ (c.apply f).recency.order) :
    (c.apply f).get? k = if k = f.key then some f else c.get? k := by
  have hev : c.evicts f ≠ some k := by
    have hk' : k ∈ (c.recency.touch f.key).order := hk
    rw [Recency.order_touch h.tracked, List.mem_filter, decide_eq_true_eq] at hk'
    exact hk'.2
  rw [get?_apply, if_neg hev]

theorem InStep.applyAll {c : Cache} (h : c.InStep) (frames : List Frame) :
    (c.applyAll frames).InStep := by
  induction frames generalizing c with
  | nil => exact h
  | cons f rest ih => exact ih (h.apply f)

@[simp] theorem applyAll_capacity (c : Cache) (frames : List Frame) :
    (c.applyAll frames).recency.capacity = c.recency.capacity := by
  induction frames generalizing c with
  | nil => rfl
  | cons f rest ih => exact ih _

/-- A frame comes in unless the cache holds its key, and at most one goes. -/
theorem size_apply {c : Cache} (h : c.InStep) (f : Frame) :
    (c.apply f).size + (if (c.evicts f).isSome then 1 else 0) =
      c.size + (if c.store.contains f.key then 0 else 1) := by
  rw [(h.apply f).size_eq, h.size_eq, h.contains_eq]
  exact Recency.size_touch h.tracked f.key

/-! ## Sweeping -/

theorem InStep.sweep {c : Cache} (h : c.InStep) (now : Instant) : (c.sweep now).InStep := by
  have hs := h.stored.eraseWhere (·.isStale now c.staleTimeout)
  refine ⟨hs.own, ?_, h.tracked.retain _⟩
  refine (List.perm_ext_iff_of_nodup hs.nodup (h.tracked.nodup.filter _)).2 fun k => ?_
  simp only [List.mem_filter, Store.contains_iff]
  constructor
  · exact fun hk => ⟨h.same.mem_iff.1 ((c.store.keys_eraseWhere_sublist _).subset hk), hk⟩
  · exact fun hk => hk.2

theorem size_sweep (c : Cache) (now : Instant) :
    (c.sweep now).size + c.staleCount now = c.size :=
  c.store.size_eraseWhere _

theorem get?_sweep {c : Cache} (h : c.InStep) (now : Instant) (k : Key) :
    (c.sweep now).get? k = (c.get? k).filter fun f => !f.isStale now c.staleTimeout :=
  h.stored.get?_eraseWhere _ k

/-- A sweep keeps the tracked keys whose frame it leaves. -/
theorem InStep.order_sweep {c : Cache} (h : c.InStep) (now : Instant) :
    (c.sweep now).recency.order =
      c.recency.order.filter fun k => (c.get? k).any fun f => !f.isStale now c.staleTimeout := by
  refine List.filter_congr fun k _ => ?_
  show ((c.sweep now).get? k).isSome = _
  rw [get?_sweep h, Option.isSome_filter]

theorem InStep.clear {c : Cache} (h : c.InStep) : c.clear.InStep :=
  ⟨Store.sound_empty.own, .nil, h.tracked.clear⟩

/-! ## Runs -/

/-- A call that changes a cache. -/
inductive Op where
  | apply (f : Frame)
  | sweep (now : Instant)
  | clear
  deriving DecidableEq, Repr

def perform (c : Cache) : Op → Cache
  | .apply f => c.apply f
  | .sweep now => c.sweep now
  | .clear => c.clear

def run (c : Cache) (ops : List Op) : Cache := ops.foldl perform c

theorem InStep.perform {c : Cache} (h : c.InStep) (op : Op) : (c.perform op).InStep := by
  cases op with
  | apply f => exact h.apply f
  | sweep now => exact h.sweep now
  | clear => exact h.clear

theorem InStep.run {c : Cache} (h : c.InStep) (ops : List Op) : (c.run ops).InStep := by
  induction ops generalizing c with
  | nil => exact h
  | cons op rest ih => exact ih (h.perform op)

@[simp] theorem capacity_perform (c : Cache) (op : Op) :
    (c.perform op).recency.capacity = c.recency.capacity := by cases op <;> rfl

theorem capacity_run (c : Cache) (ops : List Op) :
    (c.run ops).recency.capacity = c.recency.capacity := by
  induction ops generalizing c with
  | nil => rfl
  | cons op rest ih => exact (ih _).trans (c.capacity_perform op)

theorem capacity_new_le (displayLimit : Nat) (staleTimeout : Span) :
    (new displayLimit staleTimeout).recency.capacity ≤ 2 * max 1 displayLimit := by
  simp only [new, Recency.withCapacity, capacityFor]
  omega

/-! ## Where frames come in and where they leave -/

/-- What became of the frames in a run. -/
structure Tally where
  /-- Frames applied whose key the cache did not hold. -/
  admitted : Nat
  evicted : Nat
  /-- Frames that sweeps removed. -/
  reaped : Nat
  /-- Frames held when the cache was cleared. -/
  dropped : Nat
  deriving DecidableEq, Repr

def Tally.add (s t : Tally) : Tally :=
  ⟨s.admitted + t.admitted, s.evicted + t.evicted, s.reaped + t.reaped, s.dropped + t.dropped⟩

/-- What becomes of frames in one call. -/
def tallyOf (c : Cache) : Op → Tally
  | .apply f =>
    ⟨if c.store.contains f.key then 0 else 1, if (c.evicts f).isSome then 1 else 0, 0, 0⟩
  | .sweep now => ⟨0, 0, c.staleCount now, 0⟩
  | .clear => ⟨0, 0, 0, c.size⟩

def tally (c : Cache) : List Op → Tally
  | [] => ⟨0, 0, 0, 0⟩
  | op :: rest => (c.tallyOf op).add ((c.perform op).tally rest)

theorem size_perform {c : Cache} (h : c.InStep) (op : Op) :
    c.size + (c.tallyOf op).admitted =
      (c.perform op).size + (c.tallyOf op).evicted + (c.tallyOf op).reaped +
        (c.tallyOf op).dropped := by
  cases op with
  | apply f => exact (size_apply h f).symm
  | sweep now => exact (c.size_sweep now).symm
  | clear => exact (Nat.zero_add c.size).symm

theorem size_run {c : Cache} (h : c.InStep) (ops : List Op) :
    c.size + (c.tally ops).admitted =
      (c.run ops).size + (c.tally ops).evicted + (c.tally ops).reaped + (c.tally ops).dropped := by
  induction ops generalizing c with
  | nil => rfl
  | cons op rest ih =>
    have h1 := size_perform h op
    have h2 := ih (h.perform op)
    have hr : c.run (op :: rest) = (c.perform op).run rest := rfl
    rw [hr]
    simp only [tally, Tally.add]
    omega

/-- **In step, bounded, balanced.** After any calls on a new cache the order tracks no key twice, the
store holds exactly the tracked keys, every frame under its own, at most two for each displayed row,
and every frame that ever came in is held, was evicted, reaped or dropped. -/
theorem run_balanced (displayLimit : Nat) (staleTimeout : Span) (ops : List Op) :
    let c := (new displayLimit staleTimeout).run ops
    let t := (new displayLimit staleTimeout).tally ops
    c.recency.order.Nodup ∧ c.store.keys.Perm c.recency.order ∧
      (∀ e ∈ c.store.entries, e.2.key = e.1) ∧ c.size ≤ 2 * max 1 displayLimit ∧
      t.admitted = c.size + t.evicted + t.reaped + t.dropped := by
  intro c t
  have hnew := inStep_new displayLimit staleTimeout
  have h : c.InStep := hnew.run ops
  refine ⟨h.tracked.nodup, h.same, h.own, ?_, ?_⟩
  · calc c.size = c.recency.size := h.size_eq
      _ ≤ c.recency.capacity := h.tracked.bounded
      _ = (new displayLimit staleTimeout).recency.capacity := capacity_run _ ops
      _ ≤ 2 * max 1 displayLimit := capacity_new_le _ _
  · have hempty : (new displayLimit staleTimeout).size = 0 := rfl
    have hsize := size_run hnew ops
    rw [hempty, Nat.zero_add] at hsize
    exact hsize

end CanScope.Cache
