import CanScope.Proofs.Cache.History
import CanScope.Proofs.Cache.InStep
import Mathlib.Data.Fintype.EquivFin
import Mathlib.Data.Fintype.Prod
import Mathlib.Data.List.NodupEquivFin

/-!
# A batch of frames comes to the front

Frames that are applied one after the other put their keys in front of all others, the one applied
last first, in whatever state they find the cache. A batch may have more keys than are tracked: then
it evicts some of its own, and those used last are left.

* `order_applyAll`: the order of use is that of the batch, then what there was before, up to the
  capacity; so it begins with the keys of the batch, as many as are tracked (`isPrefix_applyAll`).
* `get?_applyAll`: a key that is tracked has the last frame that the batch has of it, or the one it
  had before.
-/
namespace CanScope

namespace History

/-- There are not more keys than can be counted. -/
theorem length_used_le (log : List Frame) : (used log).length ≤ Cache.maxCount := by
  let place : Key → Fin UInt8.size × Fin UInt32.size := fun k => (k.bus.toFin, k.address.toFin)
  have distinct : Function.Injective place := by
    rintro ⟨bus, address⟩ ⟨bus', address'⟩ same
    obtain ⟨hb, ha⟩ := Prod.mk.inj same
    exact congrArg₂ Key.mk (UInt8.toFin_inj.1 hb) (UInt32.toFin_inj.1 ha)
  have few := ((nodup_used log).map distinct).length_le_card
  rw [List.length_map, Fintype.card_prod, Fintype.card_fin, Fintype.card_fin] at few
  exact few.trans (by decide)

end History

open History

namespace Cache

/-- The order of use after a batch is cut from an order without bound, whatever was evicted meanwhile:
what stands behind the cut comes back only when it is used again. -/
theorem order_applyAll {c : Cache} (h : c.InStep) (frames : List Frame) :
    (c.applyAll frames).recency.order =
      (used frames ++ c.recency.order.filter (· ∉ used frames)).take c.recency.capacity := by
  induction frames using List.reverseRecOn with
  | nil =>
    have hall : c.recency.order.filter (· ∉ used []) = c.recency.order :=
      List.filter_eq_self.mpr fun k _ => by simp [used]
    rw [hall]
    exact (List.take_of_length_le h.tracked.bounded).symm
  | append_singleton frames f ih =>
    obtain ⟨n, hn⟩ : ∃ n, c.recency.capacity = n + 1 :=
      ⟨c.recency.capacity - 1, by have := h.tracked.room; omega⟩
    have hnodup : (used frames ++ c.recency.order.filter (· ∉ used frames)).Nodup := by
      refine List.nodup_append.mpr ⟨nodup_used frames, h.tracked.nodup.filter _, ?_⟩
      intro a ha b hb hab
      rw [List.mem_filter, decide_eq_true_eq] at hb
      exact hb.2 (hab ▸ ha)
    have hold : c.recency.order.filter (· ∉ used (frames ++ [f])) =
        (c.recency.order.filter (· ∉ used frames)).filter (· ≠ f.key) := by
      rw [List.filter_filter, used_append]
      refine List.filter_congr fun k _ => ?_
      by_cases hk : k = f.key <;> simp [hk]
    have hstep : (c.applyAll (frames ++ [f])).recency.order =
        f.key :: ((c.applyAll frames).recency.order.filter (· ≠ f.key)).take n := by
      rw [applyAll_append]
      show (f.key :: (c.applyAll frames).recency.order.filter (· ≠ f.key)).take
        (c.applyAll frames).recency.capacity = _
      rw [applyAll_capacity, hn, List.take_succ_cons]
    rw [hstep, ih, hn, Recency.take_filter_take hnodup, hold, used_append, List.cons_append,
      List.take_succ_cons, List.filter_append]

theorem isPrefix_applyAll {c : Cache} (h : c.InStep) (frames : List Frame) :
    (used frames).take c.recency.capacity <+: (c.applyAll frames).recency.order := by
  rw [order_applyAll h]
  exact (List.prefix_append _ _).take _

theorem get?_applyAll {c : Cache} (h : c.InStep) (frames : List Frame) {k : Key}
    (hk : k ∈ (c.applyAll frames).recency.order) :
    (c.applyAll frames).get? k = (last? frames k).or (c.get? k) := by
  induction frames using List.reverseRecOn with
  | nil => rfl
  | append_singleton frames f ih =>
    rw [applyAll_append] at hk ⊢
    have same : (c.applyAll frames).applyAll [f] = (c.applyAll frames).apply f := rfl
    rw [same] at hk ⊢
    rw [get?_apply_of_mem (h.applyAll frames) hk, last?_append]
    by_cases own : k = f.key
    · rw [if_pos own, if_pos own]
      rfl
    · rw [if_neg own, if_neg own, ih ((mem_order_of_apply hk).resolve_left own)]

end Cache

end CanScope
