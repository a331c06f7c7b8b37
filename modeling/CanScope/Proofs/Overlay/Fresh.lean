import CanScope.Proofs.Cache.Batch
import CanScope.Proofs.Overlay.Run

/-!
# Fresh data is shown, stale data is not

What a tick shows is right at the moment of that tick, also when the clock has gone back since the
ticks before and the cache holds frames with stamps that lie ahead. Nothing here leans on the order
of the moments: the frames that a tick applies have its own moment as their stamp, so its sweep
spares them, and they are the first in the order of use (`Cache.isPrefix_applyAll`).

**Invariant (`Tidy`).** The cache has the limits that the overlay was made with, its two halves are in
step, and it is empty while the gate is idle.

**Results.**
* `turns_current`: along every run of a new overlay, at any moments and whatever the surroundings
  answer, every tick shows its own frames first and nothing stale (`Turn.Current`).
-/
namespace CanScope

open History

namespace Overlay

variable {σ : Type}

/-- The cache between the drain of a tick and its sweep. -/
def Turn.filled (t : Turn σ) : Cache := t.found.cache.applyAll t.received

/-- The frames that the sweep of a tick removes; there is no sweep in a tick that ends idle. -/
def Turn.swept (t : Turn σ) : List Frame :=
  if t.left.isActive then
    t.filled.store.frames.filter (·.isStale t.input.now t.filled.staleTimeout)
  else []

/-- What a tick may be relied on to show, and to leave. -/
structure Turn.Current (t : Turn σ) (settings : Settings) : Prop where
  rows_fresh : ∀ r ∈ t.report.snapshot.rows, r.style ≠ .stale
  left_fresh : ∀ f ∈ t.left.cache.store.frames,
    f.isStale t.input.now settings.staleTimeout = false
  applied : t.report.applied = t.received.length
  reaped : t.report.reaped = t.swept.length
  /-- A frame is reaped only if it was held before the tick, and the tick applied none of its key. -/
  spared : ∀ f ∈ t.swept, f ∈ t.found.cache.store.frames ∧ f.key ∉ t.received.map (·.key)
  /-- Of the keys that the tick applied frames of, as many as there are rows come first, each with its
  last frame. -/
  first : let shown := min (used t.received).length settings.rows
    t.report.snapshot.rows.take shown =
      (((used t.received).take shown).filterMap (last? t.received)).map fun f =>
        ⟨f, if f.valid then .fresh else .invalid⟩

/-! ## One tick -/

theorem refresh_counts (o : Overlay σ) (now : Instant) (transition : Transition)
    (drained : Except BusError (List Event)) :
    (o.refresh now transition drained).report.applied = (delivered now drained).length ∧
      (o.refresh now transition drained).report.reaped =
        (o.cache.applyAll (delivered now drained)).staleCount now := by
  rw [← Cache.ingest_cache]
  refine ⟨?_, rfl⟩
  simp only [refresh]
  rcases o.cache.result_cases now drained with all | ⟨none, e, failed⟩
  · rw [all]
  · rw [none, failed]
    rfl

namespace Turn

theorem received_of_idle {t : Turn σ} (idle : t.left.isActive = false) : t.received = [] := by
  rw [Overlay.isActive, Gate.isActive, Option.isSome_eq_false_iff, Option.isNone_iff_eq_none] at idle
  rw [received, idle]

theorem report_of_idle {t : Turn σ} (idle : t.left.isActive = false) :
    t.report = ⟨t.report.transition, 0, 0, none, .empty⟩ := by
  rw [report_transition]
  rw [isActive_left, Gate.isActive, Option.isSome_eq_false_iff, Option.isNone_iff_eq_none] at idle
  show (t.found.finish t.input.now t.poll t.input.drain).report = _
  simp only [finish, afterPoll, idle]
  rfl

theorem report_of_held {t : Turn σ} {s : σ} (held : t.poll.gate.subscription = some s) :
    t.report = ((t.found.afterPoll t.poll).refresh t.input.now t.poll.transition
      (t.input.drain s)).report := by
  have after : (t.found.afterPoll t.poll).gate.subscription = some s := held
  show (t.found.finish t.input.now t.poll t.input.drain).report = _
  simp only [finish, after]

theorem counts_of_active {t : Turn σ} (active : t.left.isActive = true) :
    t.report.applied = t.received.length ∧ t.report.reaped = t.filled.staleCount t.input.now := by
  have kept : t.poll.transition ≠ .deactivated := by
    rw [← report_transition, transition_eq, active]
    cases t.found.isActive <;> decide
  rw [isActive_left, Gate.isActive, Option.isSome_iff_exists] at active
  obtain ⟨s, held⟩ := active
  have came : t.received = delivered t.input.now (t.input.drain s) := by
    rw [received, left_gate, held]
  have before : (t.found.afterPoll t.poll).cache = t.found.cache := if_neg kept
  rw [report_of_held held, filled, came, ← before]
  exact refresh_counts _ _ _ _

end Turn

/-! ## The invariant -/

/-- What an overlay keeps through ticks at any moments. -/
structure Tidy (settings : Settings) (o : Overlay σ) : Prop where
  limited : Limited settings o.cache
  inStep : o.cache.InStep
  empty : o.isActive = false → o.cache.recency.order = []

theorem tidy_new (settings : Settings) : Tidy settings (new settings : Overlay σ) :=
  ⟨limited_new settings, Cache.inStep_new _ _, fun _ => rfl⟩

theorem Tidy.filled {settings : Settings} {t : Turn σ} (h : Tidy settings t.found) :
    Limited settings t.filled ∧ t.filled.InStep :=
  ⟨h.limited.applyAll t.received, h.inStep.applyAll t.received⟩

/-- A tick that ends idle clears the cache, or was idle before and leaves it alone. -/
theorem Turn.cleared_or_kept {t : Turn σ} (idle : t.left.isActive = false) :
    t.left.cache = t.found.cache.clear ∨
      t.found.isActive = false ∧ t.left.cache = t.found.cache := by
  rw [cache_of_idle idle, t.transition_eq, idle]
  cases t.found.isActive with
  | true => exact .inl rfl
  | false => exact .inr ⟨rfl, rfl⟩

theorem Tidy.step {settings : Settings} {t : Turn σ} (h : Tidy settings t.found) :
    Tidy settings t.left := by
  cases active : t.left.isActive with
  | true =>
    have cache : t.left.cache = t.filled.sweep t.input.now := (Turn.cache_of_active active).1
    obtain ⟨limited, inStep⟩ := h.filled
    refine ⟨?_, ?_, fun idle => ?_⟩
    · rw [cache]
      exact limited.sweep t.input.now
    · rw [cache]
      exact inStep.sweep t.input.now
    · rw [active] at idle
      cases idle
  | false =>
    obtain cleared | ⟨was, kept⟩ := Turn.cleared_or_kept active
    · refine ⟨?_, ?_, fun _ => ?_⟩
      · rw [cleared]
        exact h.limited.clear
      · rw [cleared]
        exact h.inStep.clear
      · rw [cleared]
        rfl
    · refine ⟨?_, ?_, fun _ => ?_⟩
      · rw [kept]
        exact h.limited
      · rw [kept]
        exact h.inStep
      · rw [kept]
        exact h.empty was

/-! ## What is held and what is shown -/

theorem isStale_of_stamp {f : Frame} {now : Instant} (h : f.stamp = now) (timeout : Span) :
    f.isStale now timeout = false := by
  rw [Bool.eq_false_iff, ne_eq, Frame.isStale_iff, h]
  omega

/-- An idle overlay holds nothing, and the sweep of an active one leaves nothing stale. -/
theorem Tidy.left_fresh {settings : Settings} {t : Turn σ} (h : Tidy settings t.found) :
    ∀ f ∈ t.left.cache.store.frames, f.isStale t.input.now settings.staleTimeout = false := by
  intro f hf
  cases active : t.left.isActive with
  | true =>
    have cache : t.left.cache = t.filled.sweep t.input.now := (Turn.cache_of_active active).1
    rw [cache] at hf
    obtain ⟨entry, held, rfl⟩ := List.mem_map.1 hf
    have fresh := List.of_mem_filter held
    rw [h.filled.1.staleTimeout, Bool.not_eq_true'] at fresh
    exact fresh
  | false =>
    have keys := h.step.inStep.same
    rw [h.step.empty active, List.perm_nil, Store.keys, List.map_eq_nil_iff] at keys
    rw [Store.frames, keys] at hf
    cases hf

theorem frame_of_row {c : Cache} (h : c.InStep) {now : Instant} {n : Nat} {r : Row}
    (hr : r ∈ (c.snapshot now n).rows) :
    r.frame ∈ c.store.frames ∧ r.style = r.frame.style now c.staleTimeout := by
  obtain ⟨f, shown, rfl⟩ := List.mem_map.1 hr
  obtain ⟨k, -, held⟩ := List.mem_filterMap.1 (List.mem_of_mem_take shown)
  refine ⟨(h.mem_frames_iff f).2 ?_, rfl⟩
  rw [h.key_of_get? held]
  exact held

theorem Tidy.rows_fresh {settings : Settings} {t : Turn σ} (h : Tidy settings t.found) :
    ∀ r ∈ t.report.snapshot.rows, r.style ≠ .stale := by
  intro r hr
  cases active : t.left.isActive with
  | true =>
    rw [(Turn.cache_of_active active).2] at hr
    obtain ⟨held, style⟩ := frame_of_row h.step.inStep hr
    rw [style, ne_eq, Frame.style_eq_stale_iff, h.step.limited.staleTimeout, h.left_fresh _ held]
    exact Bool.false_ne_true
  | false =>
    rw [Turn.report_of_idle active] at hr
    cases hr

/-- What a sweep removes was in the cache before the tick, since the frames of the tick are new. -/
theorem Tidy.spared {settings : Settings} {t : Turn σ} (h : Tidy settings t.found) :
    ∀ f ∈ t.swept, f ∈ t.found.cache.store.frames ∧ f.key ∉ t.received.map (·.key) := by
  intro f hf
  unfold Turn.swept at hf
  split at hf
  · obtain ⟨held, stale⟩ := List.mem_filter.1 hf
    have inStep := h.filled.2
    have got : t.filled.get? f.key = some f := (inStep.mem_frames_iff f).1 held
    have tracked : f.key ∈ t.filled.recency.order := by
      rw [inStep.mem_order_iff, Store.contains, Option.isSome_iff_exists]
      exact ⟨_, got⟩
    rw [Turn.filled, Cache.get?_applyAll h.inStep _ tracked, Option.or_eq_some_iff] at got
    rcases got with applied | ⟨other, old⟩
    · rw [isStale_of_stamp (stamp_of_mem_received (mem_of_last? applied))] at stale
      cases stale
    · refine ⟨(h.inStep.mem_frames_iff f).2 old, fun mem => ?_⟩
      have used : f.key ∈ used t.received :=
        List.mem_reverse.2 (List.mem_dedup.2 mem)
      rw [mem_used_iff, other] at used
      cases used
  · cases hf

/-! ## The frames of the tick come first -/

theorem shown_le_capacity (settings : Settings) (log : List Frame) :
    min (used log).length settings.rows ≤ settings.capacity := by
  have few := length_used_le log
  rw [Settings.capacity]
  omega

/-- The keys of the tick are the first of the order, before the sweep and after it. -/
theorem Tidy.front {settings : Settings} {t : Turn σ} (h : Tidy settings t.found)
    (active : t.left.isActive = true) :
    (used t.received).take settings.capacity <+: t.left.cache.recency.order ∧
      ∀ k ∈ (used t.received).take settings.capacity,
        t.left.cache.get? k = last? t.received k := by
  have cache : t.left.cache = t.filled.sweep t.input.now := (Turn.cache_of_active active).1
  have front := Cache.isPrefix_applyAll h.inStep t.received
  rw [h.limited.capacity] at front
  have held : ∀ k ∈ (used t.received).take settings.capacity,
      t.left.cache.get? k = last? t.received k := by
    intro k hk
    obtain ⟨f, last⟩ := Option.isSome_iff_exists.1
      ((mem_used_iff _ k).1 (List.mem_of_mem_take hk))
    have new := isStale_of_stamp (stamp_of_mem_received (mem_of_last? last))
      t.filled.staleTimeout
    rw [cache, Cache.get?_sweep h.filled.2, Turn.filled,
      Cache.get?_applyAll h.inStep _ (front.subset hk), last, Option.some_or, Option.filter_some,
      ← Turn.filled, new]
    rfl
  refine ⟨?_, held⟩
  have stays : ((used t.received).take settings.capacity).filter
      (t.filled.sweep t.input.now).store.contains = (used t.received).take settings.capacity := by
    refine List.filter_eq_self.2 fun k hk => ?_
    have got := held k hk
    rw [cache] at got
    show ((t.filled.sweep t.input.now).get? k).isSome = true
    rw [got]
    exact (mem_used_iff _ k).1 (List.mem_of_mem_take hk)
  rw [cache, ← stays]
  exact front.filter _

theorem Tidy.first {settings : Settings} {t : Turn σ} (h : Tidy settings t.found) :
    let shown := min (used t.received).length settings.rows
    t.report.snapshot.rows.take shown =
      (((used t.received).take shown).filterMap (last? t.received)).map fun f =>
        ⟨f, if f.valid then .fresh else .invalid⟩ := by
  intro shown
  cases active : t.left.isActive with
  | true =>
    obtain ⟨front, held⟩ := h.front active
    have fits : shown ≤ settings.capacity := shown_le_capacity settings t.received
    have few : shown ≤ settings.rows := Nat.min_le_right _ _
    have first : t.left.cache.recency.order.take shown = (used t.received).take shown := by
      have begins := (front.take shown).eq_of_length_le
      rw [List.take_take, Nat.min_eq_left fits] at begins
      refine (begins ?_).symm
      rw [List.length_take, List.length_take]
      omega
    have present : ∀ k ∈ t.left.cache.recency.order, (t.left.cache.get? k).isSome := fun k hk =>
      (h.step.inStep.mem_order_iff k).1 hk
    have looked : ((used t.received).take shown).filterMap t.left.cache.get? =
        ((used t.received).take shown).filterMap (last? t.received) := by
      refine List.filterMap_congr fun k hk => held k ?_
      rw [← Nat.min_eq_left fits, ← List.take_take] at hk
      exact List.mem_of_mem_take hk
    rw [(Turn.cache_of_active active).2, Overlay.snapshot, h.step.limited.displayLimit,
      Cache.snapshot, ← List.map_take, List.take_take, Nat.min_eq_left few,
      take_filterMap _ present, first, looked]
    refine List.map_congr_left fun f hf => ?_
    obtain ⟨k, -, last⟩ := List.mem_filterMap.1 hf
    rw [Frame.style_of_not_stale (isStale_of_stamp (stamp_of_mem_received (mem_of_last? last)) _)]
  | false =>
    have none : t.received = [] := Turn.received_of_idle active
    have bare : used [] = [] := rfl
    rw [Turn.report_of_idle active, none, bare, List.take_nil]
    exact List.take_nil

/-! ## Whole runs -/

theorem Tidy.current {settings : Settings} {t : Turn σ} (h : Tidy settings t.found) :
    t.Current settings := by
  refine ⟨h.rows_fresh, h.left_fresh, ?_, ?_, h.spared, h.first⟩
  · cases active : t.left.isActive with
    | true => exact (Turn.counts_of_active active).1
    | false => rw [Turn.report_of_idle active, Turn.received_of_idle active]; rfl
  · cases active : t.left.isActive with
    | true =>
      rw [(Turn.counts_of_active active).2, Turn.swept, if_pos active]
      exact t.filled.store.length_keysWhere _
    | false =>
      rw [Turn.report_of_idle active, Turn.swept, if_neg (by rw [active]; exact Bool.false_ne_true)]
      rfl

theorem turns_tidy {settings : Settings} {calls : List (Call σ)} {before after : List (Turn σ)}
    {t : Turn σ} (cut : (new settings).turns calls = before ++ t :: after) : Tidy settings t.found :=
  trace_invariant (fun _ o => Tidy settings o) (fun _ _ tidy => tidy.step) (tidy_new settings) cut

/-- **Fresh data is shown, stale data is not.** Along every run of a new overlay, at any moments and
whatever the surroundings answer, no tick shows or leaves a frame that is stale at its moment, or
reaps a frame that it applied, and the keys of the frames that it applied come first in what it shows,
the one that came in last in front, each with its last frame. -/
theorem turns_current (settings : Settings) (calls : List (Call σ)) :
    ∀ t ∈ (new settings).turns calls, t.Current settings := by
  intro t member
  obtain ⟨before, after, cut⟩ := List.append_of_mem member
  exact (turns_tidy cut).current

/-! One row, room for two keys: the clock goes back, and then three new keys come in at once. The frame
of the first tick, which is evicted, lies ahead by then. -/

def clockBack : List (Call Unit) :=
  [⟨⟨90000000000⟩, ⟨.ok (some true), .ok ()⟩, fun _ => .ok [.ofFrames [⟨0, 1, []⟩]]⟩,
    ⟨⟨10000000000⟩, ⟨.ok none, .ok ()⟩, fun _ =>
      .ok [.ofFrames [⟨0, 2, []⟩, ⟨0, 3, []⟩], .ofFrames [⟨0, 4, []⟩]]⟩]

theorem turns_current_clockBack :
    ∃ t ∈ (new oneRow).turns clockBack, t.Current oneRow ∧ t.input.now = ⟨10000000000⟩ ∧
      (t.report.applied, t.report.reaped, t.report.snapshot.total) = (3, 0, 2) ∧
      t.report.snapshot.rows = [⟨⟨⟨0, 4⟩, [], ⟨10000000000⟩, true⟩, .fresh⟩] := by
  have last : ((new oneRow).turns clockBack)[1] ∈ (new oneRow).turns clockBack :=
    List.getElem_mem (by decide)
  exact ⟨_, last, turns_current oneRow clockBack _ last, by decide, by decide, by decide⟩

end Overlay

end CanScope
