import CanScope.Proofs.Cache.Mirror
import CanScope.Proofs.Overlay.Log

/-!
# The overlay refines its log

Gate, drain, eviction and sweeps go on side by side over a run of any length. What the cache holds
after a tick that ends active is nevertheless one formula over the log of the run, without any of
the state in between: the keys that `History.kept` names, each with its last frame.

**Invariant (`Follows`).** The limits of the cache are those the overlay was made with. While the gate
is active the cache mirrors the log as it was swept last, and while it is idle the cache is empty.

**Results.**
* `tick_refines_log`: along every run in which time does not go back, the overlay and its report
  after a tick that ends active are what the log says (`Turn.Refines`).
-/
namespace CanScope

open History

namespace Overlay

variable {σ : Type}

/-- The rows that an overlay with these settings shows. -/
def Settings.rows (settings : Settings) : Nat := max 1 settings.displayLimit

/-- The keys that it tracks. -/
def Settings.capacity (settings : Settings) : Nat := min (2 * settings.rows) Cache.maxCount

/-- The keys that it should hold at `now` by the log of its run. -/
def Settings.kept (settings : Settings) (log : List Frame) (now : Instant) : List Key :=
  History.kept log settings.capacity settings.staleTimeout now

/-- After the tick, the overlay and the report are what `log` says. -/
structure Turn.Refines (t : Turn σ) (settings : Settings) (log : List Frame) : Prop where
  order : t.left.cache.recency.order = settings.kept log t.input.now
  held : ∀ k, t.left.cache.get? k =
    if k ∈ settings.kept log t.input.now then last? log k else none
  keys : t.left.cache.store.keys.Perm (settings.kept log t.input.now)
  total : t.report.snapshot.total = (settings.kept log t.input.now).length
  rows : t.report.snapshot.rows =
    (((settings.kept log t.input.now).take settings.rows).filterMap (last? log)).map fun f =>
      ⟨f, if f.valid then .fresh else .invalid⟩

/-! ## What a cache shows -/

/-- Frames that are all there may be cut off before or after they are looked up. -/
theorem take_filterMap {α β : Type} (f : α → Option β) {l : List α} (h : ∀ a ∈ l, (f a).isSome)
    (n : Nat) : (l.filterMap f).take n = (l.take n).filterMap f := by
  induction l generalizing n with
  | nil => simp
  | cons a rest ih =>
    obtain ⟨b, hb⟩ := Option.isSome_iff_exists.1 (h a List.mem_cons_self)
    cases n with
    | zero => rfl
    | succ n =>
      rw [List.filterMap_cons_some hb, List.take_succ_cons, List.take_succ_cons,
        List.filterMap_cons_some hb, ih fun a ha => h a (List.mem_cons_of_mem _ ha)]

theorem style_of_recent {log : List Frame} {timeout : Span} {now : Instant} {k : Key} {f : Frame}
    (hk : recent log timeout now k = true) (hf : last? log k = some f) :
    f.style now timeout = if f.valid then .fresh else .invalid := by
  rw [recent, hf, Option.any_some, ← not_isStale, Bool.not_eq_true'] at hk
  exact Frame.style_of_not_stale hk

/-- A cache that holds nothing stale shows the last frames of its first keys. -/
theorem rows_of_mirrors {c : Cache} {log : List Frame} {now : Instant} (h : c.Mirrors log now)
    (fresh : ∀ k ∈ c.recency.order, recent log c.staleTimeout now k = true) (n : Nat) :
    (c.snapshot now n).rows = ((c.recency.order.take n).filterMap (last? log)).map fun f =>
      ⟨f, if f.valid then .fresh else .invalid⟩ := by
  have present : ∀ k ∈ c.recency.order, (last? log k).isSome := fun k hk =>
    Option.isSome_of_any (fresh k hk)
  have looked : c.recency.order.filterMap c.get? = c.recency.order.filterMap (last? log) :=
    List.filterMap_congr h.held
  simp only [Cache.snapshot]
  rw [looked, take_filterMap _ present]
  refine List.map_congr_left fun f hf => ?_
  obtain ⟨k, hk, last⟩ := List.mem_filterMap.1 hf
  rw [style_of_recent (fresh k (List.mem_of_mem_take hk)) last]

/-! ## The invariant -/

/-- A cache with the limits of these settings. -/
structure Limited (settings : Settings) (c : Cache) : Prop where
  displayLimit : c.displayLimit = settings.rows
  staleTimeout : c.staleTimeout = settings.staleTimeout
  capacity : c.recency.capacity = settings.capacity

theorem limited_new (settings : Settings) :
    Limited settings (Cache.new settings.displayLimit settings.staleTimeout) where
  displayLimit := Nat.max_comm _ _
  staleTimeout := rfl
  capacity := by
    have room : 1 ≤ Cache.maxCount := by decide
    simp only [Cache.new, Recency.withCapacity, Cache.capacityFor, Settings.capacity,
      Settings.rows]
    omega

theorem Limited.applyAll {settings : Settings} {c : Cache} (h : Limited settings c)
    (frames : List Frame) : Limited settings (c.applyAll frames) := by
  induction frames generalizing c with
  | nil => exact h
  | cons f rest ih => exact ih ⟨h.displayLimit, h.staleTimeout, h.capacity⟩

theorem Limited.sweep {settings : Settings} {c : Cache} (h : Limited settings c) (now : Instant) :
    Limited settings (c.sweep now) := ⟨h.displayLimit, h.staleTimeout, h.capacity⟩

theorem Limited.clear {settings : Settings} {c : Cache} (h : Limited settings c) :
    Limited settings c.clear := ⟨h.displayLimit, h.staleTimeout, h.capacity⟩

/-- What an overlay that ticked as in `past` holds. -/
structure Follows (settings : Settings) (past : List (Turn σ)) (o : Overlay σ) : Prop where
  limited : Limited settings o.cache
  mirrors : o.cache.Mirrors (if o.isActive then history past else []) (clock past)

theorem follows_new (settings : Settings) : Follows settings [] (new settings : Overlay σ) :=
  ⟨limited_new settings, Cache.mirrors_nil (Cache.inStep_new _ _) rfl _⟩

/-- An activation starts the log anew, and an idle overlay has an empty cache. -/
theorem Follows.applied {settings : Settings} {past : List (Turn σ)} {t : Turn σ}
    (h : Follows settings past t.found) (active : t.left.isActive = true) :
    (t.found.cache.applyAll t.received).Mirrors (history (past ++ [t])) (clock past) := by
  have log : history (past ++ [t]) =
      (if t.found.isActive then history past else []) ++ t.received := by
    rw [history_append, t.transition_eq, active]
    cases t.found.isActive <;> rfl
  rw [log]
  exact h.mirrors.applyAll t.received

theorem Follows.idle {settings : Settings} {past : List (Turn σ)} {t : Turn σ}
    (h : Follows settings past t.found) (idle : t.left.isActive = false) :
    Limited settings t.left.cache ∧ t.left.cache.InStep ∧ t.left.cache.recency.order = [] := by
  rw [Turn.cache_of_idle idle, t.transition_eq, idle]
  cases was : t.found.isActive with
  | true =>
    exact ⟨h.limited.clear, h.mirrors.inStep.clear, rfl⟩
  | false =>
    have front := h.mirrors.front
    rw [was] at front
    exact ⟨h.limited, h.mirrors.inStep, List.prefix_nil.1 front⟩

theorem Follows.step {settings : Settings} {past : List (Turn σ)} {t : Turn σ}
    (h : Follows settings past t.found) (timed : Timed ((past ++ [t]).map (·.input))) :
    Follows settings (past ++ [t]) t.left := by
  cases active : t.left.isActive with
  | true =>
    have cache := (Turn.cache_of_active active).1
    have mirrors := (h.applied active).sweep (clock_le timed) (ordered_history timed)
    constructor
    · rw [cache]
      exact (h.limited.applyAll t.received).sweep t.input.now
    · rw [cache, active, clock_append]
      exact mirrors
  | false =>
    obtain ⟨limited, inStep, empty⟩ := h.idle active
    refine ⟨limited, ?_⟩
    rw [active]
    exact Cache.mirrors_nil inStep empty _

/-! ## Whole runs -/

theorem turns_follow {settings : Settings} {calls : List (Call σ)} {before after : List (Turn σ)}
    {t : Turn σ} (cut : (new settings).turns calls = before ++ t :: after)
    (timed : Timed (before.map (·.input))) : Follows settings before t.found := by
  refine trace_invariant (fun past o => Timed (past.map (·.input)) → Follows settings past o)
    (fun past t follows timed => ?_) (fun _ => follows_new settings) cut timed
  have sooner : Timed (past.map (·.input)) := by
    rw [List.map_append] at timed
    exact timed.sublist (List.sublist_append_left _ _)
  exact (follows sooner).step timed

theorem Follows.refines {settings : Settings} {past : List (Turn σ)} {t : Turn σ}
    (h : Follows settings past t.found) (timed : Timed ((past ++ [t]).map (·.input)))
    (active : t.left.isActive = true) : t.Refines settings (history (past ++ [t])) := by
  obtain ⟨cache, snapshot⟩ := Turn.cache_of_active active
  have limited := h.limited.applyAll t.received
  have applied := h.applied active
  have order : t.left.cache.recency.order =
      settings.kept (history (past ++ [t])) t.input.now := by
    rw [cache, Cache.order_sweep applied (clock_le timed), limited.capacity, limited.staleTimeout]
    rfl
  have mirrors : t.left.cache.Mirrors (history (past ++ [t])) t.input.now := by
    rw [cache]
    exact applied.sweep (clock_le timed) (ordered_history timed)
  have left := (h.step timed).limited
  refine ⟨order, fun k => ?_, ?_, ?_, ?_⟩
  · rw [← order]
    split
    · exact mirrors.held k ‹_›
    · exact mirrors.inStep.get?_of_notMem ‹_›
  · rw [← order]
    exact mirrors.inStep.same
  · rw [snapshot, ← order]
    exact mirrors.inStep.size_eq
  · have fresh : ∀ k ∈ t.left.cache.recency.order,
        recent (history (past ++ [t])) t.left.cache.staleTimeout t.input.now k = true := by
      intro k hk
      rw [order] at hk
      rw [left.staleTimeout]
      exact List.of_mem_filter hk
    rw [snapshot, Overlay.snapshot, rows_of_mirrors mirrors fresh, left.displayLimit, order]

/-- **The overlay refines its log.** Along every run of a new overlay in which time does not go back,
whatever its polls and drains give, a tick that ends active leaves and reports what the frames
delivered since the last activation say. -/
theorem tick_refines_log {settings : Settings} {calls : List (Call σ)}
    {before after : List (Turn σ)} {t : Turn σ}
    (cut : (new settings).turns calls = before ++ t :: after) (timed : Timed calls)
    (active : t.left.isActive = true) : t.Refines settings (history (before ++ [t])) := by
  have all : (before ++ t :: after).map (·.input) = calls := by
    rw [← cut]
    exact map_input_trace _ _ _
  have ticked : Timed ((before ++ [t]).map (·.input)) := by
    rw [← all, List.append_cons, List.map_append] at timed
    exact timed.sublist (List.sublist_append_left _ _)
  have past : Timed (before.map (·.input)) := by
    rw [List.map_append] at ticked
    exact ticked.sublist (List.sublist_append_left _ _)
  exact (turns_follow cut past).refines ticked active

/-! A run with one row and room for two keys: three keys come in and the oldest is evicted, the next
tick brings that key back, and at the last one a drain fails and the others are too old. -/

def oneRow : Settings := ⟨1, .ofSeconds 2, .default⟩

def threeKeys : Turn Unit :=
  ⟨new oneRow, ⟨10000000000⟩, ⟨.ok (some true), .ok ()⟩, fun _ =>
    .ok [.ofFrames [⟨0, 1, [1]⟩, ⟨0, 2, [2]⟩], ⟨.sendcan [⟨0, 7, [7]⟩], true, 0⟩,
      .ofFrames [⟨1, 1, [3]⟩]]⟩

def keyReturns : Turn Unit :=
  ⟨threeKeys.left, ⟨11000000000⟩, ⟨.error (.unreadable "ShowDebugInfo" .notText), .ok ()⟩, fun _ =>
    .ok [⟨.can [⟨0, 1, [4]⟩], false, 0⟩]⟩

def drainFails : Turn Unit :=
  ⟨keyReturns.left, ⟨12500000000⟩, ⟨.ok (some true), .ok ()⟩, fun _ => .error (.lagged "can" 3)⟩

theorem tick_refines_log_drainFails :
    (Timed [threeKeys.input, keyReturns.input, drainFails.input] ∧
      drainFails.left.isActive = true) ∧
      drainFails.Refines oneRow (history ([threeKeys, keyReturns] ++ [drainFails])) := by
  have cut : (new oneRow).turns [threeKeys.input, keyReturns.input, drainFails.input] =
      [threeKeys, keyReturns] ++ drainFails :: [] := rfl
  have timed : Timed [threeKeys.input, keyReturns.input, drainFails.input] := by decide
  have active : drainFails.left.isActive = true := by decide
  exact ⟨⟨timed, active⟩, tick_refines_log cut timed active⟩

/-- The row that is left is that of the last frame, which was sent as invalid. -/
example : drainFails.report.snapshot =
    ⟨[⟨⟨⟨0, 1⟩, [4], ⟨11000000000⟩, false⟩, .invalid⟩], 1⟩ := by decide

end Overlay

end CanScope
