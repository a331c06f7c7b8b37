import CanScope.Proofs.Cache.History
import CanScope.Proofs.Cache.InStep

/-!
# A cache mirrors its log

`Cache.Mirrors c log since`: what the cache `c` holds after the frames of `log` were applied and it
was swept in between, last at `since`. Its order of use is always the beginning of the unbounded
order `History.used log`; of the first keys of that order, as many as the capacity, it lacks only
those that were too old at `since` already.

* `Mirrors.apply`, `Mirrors.applyAll`: applying frames extends the log. A key that comes back after
  it was swept or evicted is put in front on both sides.
* `Mirrors.sweep`, `order_sweep`: a sweep makes the order exactly `History.kept`. This takes stamps
  that never go back, so that the keys swept are the last of the order.
-/
namespace CanScope

open History

namespace Cache

structure Mirrors (c : Cache) (log : List Frame) (since : Instant) : Prop where
  inStep : c.InStep
  held : ∀ k ∈ c.recency.order, c.get? k = last? log k
  front : c.recency.order <+: used log
  lacks : ∀ k ∈ (used log).take c.recency.capacity, k ∉ c.recency.order →
    recent log c.staleTimeout since k = false

/-- A cache that holds nothing mirrors the empty log. -/
theorem mirrors_nil {c : Cache} (h : c.InStep) (hc : c.recency.order = []) (since : Instant) :
    c.Mirrors [] since :=
  ⟨h, by simp [hc], by simp [hc], by simp [used]⟩

/-! ## Applying frames -/

/-- Taking one key out of a list moves the others up by at most one place. -/
theorem mem_take_of_filter_ne {keys : List Key} (hn : keys.Nodup) (k x : Key) (n : Nat)
    (hx : x ∈ (keys.filter (· ≠ k)).take n) : x ∈ keys.take (n + 1) := by
  induction keys generalizing n with
  | nil => simp at hx
  | cons a rest ih =>
    rw [List.nodup_cons] at hn
    rw [List.take_succ_cons]
    by_cases ha : a = k
    · subst ha
      rw [List.filter_cons_of_neg (by simp), Recency.filter_ne_of_notMem hn.1] at hx
      exact List.mem_cons_of_mem _ hx
    · rw [List.filter_cons_of_pos (by simpa using ha)] at hx
      cases n with
      | zero => simp at hx
      | succ n =>
        rw [List.take_succ_cons] at hx
        rcases List.mem_cons.1 hx with rfl | hx
        · exact List.mem_cons_self
        · exact List.mem_cons_of_mem _ (ih hn.2 n hx)

theorem mem_take_of_isPrefix {front keys : List Key} (h : front <+: keys) {x : Key} {n : Nat}
    (hf : x ∈ front) (hx : x ∈ keys.take n) : x ∈ front.take n := by
  obtain ⟨rest, rfl⟩ := h
  by_cases hn : n ≤ front.length
  · rwa [List.take_append_of_le_length hn] at hx
  · rwa [List.take_of_length_le (by omega)]

theorem Mirrors.apply {c : Cache} {log : List Frame} {since : Instant} (h : c.Mirrors log since)
    (f : Frame) : (c.apply f).Mirrors (log ++ [f]) since := by
  have hroom := h.inStep.tracked.room
  obtain ⟨n, hn⟩ : ∃ n, c.recency.capacity = n + 1 := ⟨c.recency.capacity - 1, by omega⟩
  have horder : (c.apply f).recency.order = f.key :: (c.recency.order.filter (· ≠ f.key)).take n := by
    show (f.key :: c.recency.order.filter (· ≠ f.key)).take c.recency.capacity = _
    rw [hn, List.take_succ_cons]
  have hfront := h.front.filter (· ≠ f.key)
  refine ⟨h.inStep.apply f, fun k hk => ?_, ?_, fun k hk hno => ?_⟩
  · rw [get?_apply_of_mem h.inStep hk, last?_append]
    by_cases hkf : k = f.key
    · rw [if_pos hkf, if_pos hkf]
    · rw [if_neg hkf, if_neg hkf]
      exact h.held k ((mem_order_of_apply hk).resolve_left hkf)
  · rw [horder, used_append, List.prefix_cons_inj]
    exact (List.take_prefix _ _).trans hfront
  · -- a key that is missing now was missing before, or it is the one evicted, which is too far back
    have hcap : (c.apply f).recency.capacity = n + 1 := hn
    rw [hcap, used_append, List.take_succ_cons, List.mem_cons] at hk
    rw [horder, List.mem_cons, not_or] at hno
    have hk := hk.resolve_left hno.1
    have hkt : (c.apply f).staleTimeout = c.staleTimeout := rfl
    rw [hkt, recent_append hno.1]
    refine h.lacks k ?_ fun hmem => hno.2 ?_
    · rw [hn]
      exact mem_take_of_filter_ne (nodup_used log) f.key k n hk
    · exact mem_take_of_isPrefix hfront (List.mem_filter.2 ⟨hmem, decide_eq_true hno.1⟩) hk

theorem Mirrors.applyAll {c : Cache} {log : List Frame} {since : Instant} (h : c.Mirrors log since)
    (frames : List Frame) : (c.applyAll frames).Mirrors (log ++ frames) since := by
  induction frames generalizing c log with
  | nil => simpa using h
  | cons f rest ih => simpa using ih (h.apply f)

/-! ## Sweeping -/

theorem Mirrors.lacks_later {c : Cache} {log : List Frame} {since now : Instant}
    (h : c.Mirrors log since) (hle : since.nanos ≤ now.nanos) {k : Key}
    (hk : k ∈ (used log).take c.recency.capacity) (hno : k ∉ c.recency.order) :
    recent log c.staleTimeout now k = false := by
  by_contra hr
  rw [Bool.not_eq_false] at hr
  have := recent_anti log c.staleTimeout hle hr
  rw [h.lacks k hk hno] at this
  cases this

/-- A sweep keeps the tracked keys whose frame is recent. -/
theorem order_sweep_eq_filter {c : Cache} {log : List Frame} {since : Instant}
    (h : c.Mirrors log since) (now : Instant) :
    (c.sweep now).recency.order = c.recency.order.filter (recent log c.staleTimeout now) := by
  rw [h.inStep.order_sweep]
  refine List.filter_congr fun k hk => ?_
  rw [h.held k hk]
  simp only [recent, not_isStale]

theorem order_sweep {c : Cache} {log : List Frame} {since now : Instant} (h : c.Mirrors log since)
    (hle : since.nanos ≤ now.nanos) :
    (c.sweep now).recency.order = kept log c.recency.capacity c.staleTimeout now := by
  rw [order_sweep_eq_filter h, kept]
  obtain ⟨rest, hrest⟩ := List.prefix_take_iff.2 ⟨h.front, h.inStep.tracked.bounded⟩
  have hn := (nodup_used log).sublist (List.take_sublist c.recency.capacity _)
  rw [← hrest] at hn
  have hempty : rest.filter (recent log c.staleTimeout now) = [] := by
    refine List.filter_eq_nil_iff.2 fun k hk => ?_
    rw [h.lacks_later hle (hrest ▸ List.mem_append_right _ hk)
      fun hmem => List.disjoint_of_nodup_append hn hmem hk]
    exact Bool.false_ne_true
  rw [← hrest, List.filter_append, hempty, List.append_nil]

theorem Mirrors.sweep {c : Cache} {log : List Frame} {since now : Instant} (h : c.Mirrors log since)
    (hle : since.nanos ≤ now.nanos) (ho : Ordered log) : (c.sweep now).Mirrors log now := by
  have horder := order_sweep_eq_filter h now
  have hrecent : ∀ k ∈ (c.sweep now).recency.order,
      k ∈ c.recency.order ∧ recent log c.staleTimeout now k = true := fun k hk => by
    rw [horder] at hk
    exact List.mem_filter.1 hk
  refine ⟨h.inStep.sweep now, fun k hk => ?_, ?_, fun k hk hno => ?_⟩
  · obtain ⟨hmem, hr⟩ := hrecent k hk
    rw [get?_sweep h.inStep, h.held k hmem]
    obtain ⟨f, hf, ht⟩ := (Option.any_eq_true _ _).1 hr
    rw [hf, Option.filter_some, not_isStale, if_pos ht]
  · rw [horder]
    exact (isPrefix_filter_recent ho _ now h.front).trans h.front
  · show recent log c.staleTimeout now k = false
    by_cases hmem : k ∈ c.recency.order
    · by_contra hr
      rw [Bool.not_eq_false] at hr
      exact hno (by rw [horder]; exact List.mem_filter.2 ⟨hmem, hr⟩)
    · exact h.lacks_later hle hk hmem

end Cache

end CanScope
