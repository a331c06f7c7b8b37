import CanScope.Proofs.Cache.Batch
import CanScope.Proofs.Cache.Ingest

/-!
# Batches coalesce

Of the frames of a batch only the last of each key counts. Applying the others as well evicts more keys
on the way, and some of the batch itself, which then come back; in the end the cache is the same. The
order of use and the frames held depend only on what `History.used` and `History.last?` say of the batch
(`order_applyAll`, `get?_applyAll`), and these do not see the frames left out.

**Results.**
* `batches_coalesce`: after any calls on a new cache, a batch leaves what its last frames leave, and two
  drains at one moment leave what one drain of all their events leaves.
-/
namespace CanScope

namespace History

/-- The last frame of each key, in the order in which these came. -/
def lastOnly : List Frame → List Frame
  | [] => []
  | f :: rest => if f.key ∈ rest.map (·.key) then lastOnly rest else f :: lastOnly rest

theorem map_key_lastOnly (log : List Frame) : (lastOnly log).map (·.key) = (log.map (·.key)).dedup := by
  induction log with
  | nil => rfl
  | cons f rest ih =>
    unfold lastOnly
    rw [List.map_cons]
    by_cases hf : f.key ∈ rest.map (·.key)
    · rw [if_pos hf, List.dedup_cons_of_mem hf, ih]
    · rw [if_neg hf, List.dedup_cons_of_notMem hf, List.map_cons, ih]

theorem used_lastOnly (log : List Frame) : used (lastOnly log) = used log := by
  unfold used
  rw [map_key_lastOnly, List.dedup_idem]

theorem last?_cons (f : Frame) (rest : List Frame) (k : Key) :
    last? (f :: rest) k = (last? rest k).or (if k = f.key then some f else none) := by
  unfold last?
  by_cases hk : k = f.key
  · rw [List.filter_cons_of_pos (by simp [hk]), List.getLast?_cons, if_pos hk]
    cases (rest.filter (·.key = k)).getLast? <;> rfl
  · rw [List.filter_cons_of_neg (by simpa using fun h => hk h.symm), if_neg hk, Option.or_none]

theorem last?_lastOnly (log : List Frame) (k : Key) : last? (lastOnly log) k = last? log k := by
  induction log with
  | nil => rfl
  | cons f rest ih =>
    unfold lastOnly
    by_cases hf : f.key ∈ rest.map (·.key)
    · rw [if_pos hf, ih, last?_cons]
      by_cases hk : k = f.key
      · -- a later frame of the key hides this one
        have hlater : (last? rest k).isSome = true := by
          rw [← mem_used_iff, used, List.mem_reverse, List.mem_dedup, hk]
          exact hf
        rw [Option.or_of_isSome hlater]
      · rw [if_neg hk, Option.or_none]
    · rw [if_neg hf, last?_cons, last?_cons, ih]

end History

open History

namespace Cache

/-- The two caches hold the same frames, and their keys in the same order of use. -/
structure Alike (c d : Cache) : Prop where
  held : ∀ k, c.get? k = d.get? k
  order : c.recency.order = d.recency.order

/-- Two batches that used the same keys, in the same order and with the same last frames, leave the
same cache. -/
theorem alike_applyAll {c : Cache} (h : c.InStep) {frames frames' : List Frame}
    (hused : used frames = used frames') (hlast : ∀ k, last? frames k = last? frames' k) :
    (c.applyAll frames).Alike (c.applyAll frames') := by
  have horder : (c.applyAll frames).recency.order = (c.applyAll frames').recency.order := by
    rw [order_applyAll h, order_applyAll h, hused]
  refine ⟨?_, horder⟩
  intro k
  by_cases hk : k ∈ (c.applyAll frames).recency.order
  · rw [get?_applyAll h frames hk, get?_applyAll h frames' (horder ▸ hk), hlast]
  · rw [(h.applyAll frames).get?_of_notMem hk, (h.applyAll frames').get?_of_notMem (horder ▸ hk)]

theorem ingest_of_wellFormed {events : List Event}
    (h : ∀ e ∈ events, ∀ f ∈ e.canFrames, f.WellFormed) (c : Cache) (now : Instant) :
    (c.ingest now (.ok events)).cache = c.applyAll (Event.stamped events now) := by
  rw [ingest_cache, delivered, if_pos h]

theorem ingest_ingest {first second : List Event}
    (h : ∀ e ∈ first ++ second, ∀ f ∈ e.canFrames, f.WellFormed) (c : Cache) (now : Instant) :
    ((c.ingest now (.ok first)).cache.ingest now (.ok second)).cache =
      (c.ingest now (.ok (first ++ second))).cache := by
  have hfirst := ingest_of_wellFormed (fun e he => h e (List.mem_append_left second he)) c now
  rw [ingest_of_wellFormed fun e he => h e (List.mem_append_right first he), hfirst,
    ingest_of_wellFormed h, Event.stamped, Event.stamped, Event.stamped, List.flatMap_append,
    applyAll_append]

/-- **Batches coalesce.** After any calls on a new cache, applying frames one after the other leaves the
same frames in the same order of use as applying only the last frame of each key. So it does not matter
how well-formed events that are taken in at one moment are spread over drains. -/
theorem batches_coalesce (displayLimit : Nat) (staleTimeout : Span) (ops : List Op) :
    let c := (new displayLimit staleTimeout).run ops
    (∀ frames, (c.applyAll frames).Alike (c.applyAll (lastOnly frames))) ∧
      ∀ now first second, (∀ e ∈ first ++ second, ∀ f ∈ e.canFrames, f.WellFormed) →
        ((c.ingest now (.ok first)).cache.ingest now (.ok second)).cache =
          (c.ingest now (.ok (first ++ second))).cache := by
  intro c
  have h : c.InStep := (inStep_new displayLimit staleTimeout).run ops
  constructor
  · intro frames
    exact alike_applyAll h (used_lastOnly frames).symm fun k => (last?_lastOnly frames k).symm
  · intro now first second hfine
    exact ingest_ingest hfine c now

/-- Two keys are tracked. The third evicts the first, which comes back with the second drain. -/
theorem batches_coalesce_returning :
    let first := [Event.ofFrames [⟨0, 1, [7]⟩, ⟨0, 2, []⟩], .ofFrames [⟨0, 3, []⟩]]
    let second := [Event.ofFrames [⟨0, 1, [8]⟩]]
    let c := new 1 (.ofSeconds 2)
    (∀ e ∈ first ++ second, ∀ f ∈ e.canFrames, f.WellFormed) ∧
      ((c.ingest ⟨0⟩ (.ok first)).cache.ingest ⟨0⟩ (.ok second)).cache =
        (c.ingest ⟨0⟩ (.ok (first ++ second))).cache := by
  intro first second c
  have hfine : ∀ e ∈ first ++ second, ∀ f ∈ e.canFrames, f.WellFormed := by decide
  exact ⟨hfine, (batches_coalesce 1 (.ofSeconds 2) []).2 ⟨0⟩ first second hfine⟩

end Cache

end CanScope
