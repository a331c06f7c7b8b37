import CanScope.Proofs.Cache.History
import CanScope.Proofs.Cache.InStep

/-!
# Sweeps compose

A sweep removes the frames that are stale at its moment, and the moment may be any: later than the
last sweep, earlier, or before the stamps of some of the frames. A frame that is stale at a moment is
stale at every later one, and one with a stamp ahead is stale at neither, so of two sweeps the later
moment decides, in whichever order they are made.

**Counting.** What a sweep removes and what it leaves make up the cache (`size_sweep`). So the counts of
two sweeps add up to that of the one at the later moment: both ways leave the same cache.

**Results.**
* `sweeps_compose`: two sweeps, in either order, are the one at the later moment, and each removes
  exactly what is stale (`SweepsExactly`).
-/
namespace CanScope

/-- The later of two moments. -/
def Instant.later (a b : Instant) : Instant := ⟨max a.nanos b.nanos⟩

theorem Instant.later_comm (a b : Instant) : a.later b = b.later a := by
  unfold later
  rw [Nat.max_comm]

@[simp] theorem Instant.later_self (a : Instant) : a.later a = a := by
  unfold later
  rw [Nat.max_self]

/-- Time since the stamp stops at zero, so this needs no order of stamp and moments. -/
theorem Frame.isStale_later (f : Frame) (a b : Instant) (timeout : Span) :
    f.isStale (a.later b) timeout = (f.isStale a timeout || f.isStale b timeout) := by
  rw [Bool.eq_iff_iff, Bool.or_eq_true]
  simp only [isStale_iff, Instant.later]
  omega

namespace Cache

theorem store_sweep_sweep (c : Cache) (a b : Instant) :
    ((c.sweep a).sweep b).store = (c.sweep (a.later b)).store := by
  simp only [sweep, Store.eraseWhere_eraseWhere, Frame.isStale_later]

theorem sweep_sweep (c : Cache) (a b : Instant) : (c.sweep a).sweep b = c.sweep (a.later b) := by
  have hstore := store_sweep_sweep c a b
  have horder : ((c.sweep a).sweep b).recency.order = (c.sweep (a.later b)).recency.order := by
    show (c.recency.order.filter (c.sweep a).store.contains).filter
      ((c.sweep a).sweep b).store.contains = c.recency.order.filter _
    rw [List.filter_filter, hstore]
    refine List.filter_congr ?_
    intro k _
    -- what the second sweep leaves, the first has left
    have hleft : (c.sweep (a.later b)).store.contains k = true →
        (c.sweep a).store.contains k = true := by
      rw [← hstore]
      exact Store.contains_of_eraseWhere
    rw [Bool.and_eq_left_iff_imp.mpr hleft]
    rfl
  unfold sweep at hstore horder ⊢
  simp only [Recency.retain] at hstore horder ⊢
  rw [hstore] at horder ⊢
  rw [horder]

/-- What the first of two sweeps removes, the second does not count again. -/
theorem staleCount_add (c : Cache) (a b : Instant) :
    c.staleCount a + (c.sweep a).staleCount b = c.staleCount (a.later b) := by
  have hfirst := c.size_sweep a
  have hsecond := (c.sweep a).size_sweep b
  have hone := c.size_sweep (a.later b)
  rw [sweep_sweep] at hsecond
  omega

/-- A sweep at `now` removes exactly the frames that are older than the timeout, those with a stamp
ahead being of age zero, and a second one finds nothing to remove. -/
structure SweepsExactly (c : Cache) (now : Instant) : Prop where
  held : ∀ k, (c.sweep now).get? k =
    (c.get? k).filter fun f => decide (now.since f.stamp ≤ c.staleTimeout)
  order : (c.sweep now).recency.order =
    c.recency.order.filter fun k => (c.get? k).any fun f => decide (now.since f.stamp ≤ c.staleTimeout)
  counted : c.staleCount now =
    (c.store.frames.filter fun f => decide (c.staleTimeout < now.since f.stamp)).length
  again : (c.sweep now).staleCount now = 0 ∧ (c.sweep now).sweep now = c.sweep now

theorem InStep.sweepsExactly {c : Cache} (h : c.InStep) (now : Instant) : c.SweepsExactly now := by
  refine ⟨?_, ?_, c.store.length_keysWhere _, ?_, ?_⟩
  · intro k
    rw [get?_sweep h]
    simp only [History.not_isStale]
  · rw [h.order_sweep]
    simp only [History.not_isStale]
  · have hadd := c.staleCount_add now now
    rw [Instant.later_self] at hadd
    omega
  · rw [sweep_sweep, Instant.later_self]

/-- **Sweeps compose.** After any calls on a new cache, two sweeps leave the cache that the one sweep at
the later moment leaves, in whichever order they are made, and remove as many frames between them. Each
removes exactly what is stale, keeps the order of the others, and has nothing to do a second time. -/
theorem sweeps_compose (displayLimit : Nat) (staleTimeout : Span) (ops : List Op) (a b : Instant) :
    let c := (new displayLimit staleTimeout).run ops
    (c.sweep a).sweep b = c.sweep (a.later b) ∧ (c.sweep b).sweep a = c.sweep (a.later b) ∧
      c.staleCount a + (c.sweep a).staleCount b = c.staleCount (a.later b) ∧
      c.staleCount b + (c.sweep b).staleCount a = c.staleCount (a.later b) ∧
      c.SweepsExactly a ∧ c.SweepsExactly b := by
  intro c
  have h : c.InStep := (inStep_new displayLimit staleTimeout).run ops
  have hback := sweep_sweep c b a
  have hcount := c.staleCount_add b a
  rw [Instant.later_comm] at hback hcount
  exact ⟨sweep_sweep c a b, hback, c.staleCount_add a b, hcount, h.sweepsExactly a, h.sweepsExactly b⟩

end Cache

end CanScope
