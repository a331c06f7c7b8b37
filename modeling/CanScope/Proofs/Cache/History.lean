import CanScope.Frame.Basic
import Mathlib.Data.List.Dedup
import Mathlib.Data.List.Infix

/-!
# A log of frames

The reference for what a cache should hold: a plain list of all frames applied, oldest first, with
no bound and nothing ever taken out. `History.used` are its keys, each once, the one used last first;
`History.last?` is the last frame of a key; `History.kept` are the first so many keys of `used`, less
those whose last frame is older than a time-out.

If the stamps of a log never go back, neither do those of the last frames along `used`
(`pairwise_used`), so what is too old is always at the end of `used`.
-/
namespace CanScope.History

/-- The keys of a log, each once, the one used last first. -/
def used (log : List Frame) : List Key := (log.map (·.key)).dedup.reverse

/-- The last frame of a key. -/
def last? (log : List Frame) (k : Key) : Option Frame := (log.filter (·.key = k)).getLast?

/-- Whether the last frame of `k` is at most `timeout` old. -/
def recent (log : List Frame) (timeout : Span) (now : Instant) (k : Key) : Bool :=
  (last? log k).any fun f => decide (now.since f.stamp ≤ timeout)

/-- Of the first `capacity` keys by use, those whose last frame is at most `timeout` old. -/
def kept (log : List Frame) (capacity : Nat) (timeout : Span) (now : Instant) : List Key :=
  ((used log).take capacity).filter (recent log timeout now)

/-- The stamps never go back. -/
def Ordered (log : List Frame) : Prop := log.Pairwise fun f g => f.stamp.nanos ≤ g.stamp.nanos

/-! ## One more frame -/

theorem dedup_append_singleton (keys : List Key) (k : Key) :
    (keys ++ [k]).dedup = keys.dedup.filter (· ≠ k) ++ [k] := by
  induction keys with
  | nil => rfl
  | cons a rest ih =>
    rw [List.cons_append]
    by_cases ha : a = k
    · subst ha
      rw [List.dedup_cons_of_mem (by simp), ih]
      by_cases hr : a ∈ rest
      · rw [List.dedup_cons_of_mem hr]
      · rw [List.dedup_cons_of_notMem hr, List.filter_cons_of_neg (by simp)]
    · by_cases hr : a ∈ rest
      · rw [List.dedup_cons_of_mem (by simp [hr]), List.dedup_cons_of_mem hr, ih]
      · rw [List.dedup_cons_of_notMem (by simp [hr, ha]), List.dedup_cons_of_notMem hr, ih,
          List.filter_cons_of_pos (by simpa using ha), List.cons_append]

theorem used_append (log : List Frame) (f : Frame) :
    used (log ++ [f]) = f.key :: (used log).filter (· ≠ f.key) := by
  simp [used, dedup_append_singleton]

theorem last?_append (log : List Frame) (f : Frame) (k : Key) :
    last? (log ++ [f]) k = if k = f.key then some f else last? log k := by
  by_cases hk : k = f.key
  · simp [last?, List.filter_append, hk]
  · have hk' : f.key ≠ k := fun e => hk e.symm
    simp [last?, List.filter_append, hk, hk']

theorem recent_append {log : List Frame} {f : Frame} {k : Key} (hk : k ≠ f.key) (timeout : Span)
    (now : Instant) : recent (log ++ [f]) timeout now k = recent log timeout now k := by
  simp [recent, last?_append, hk]

theorem nodup_used (log : List Frame) : (used log).Nodup :=
  List.nodup_reverse.2 (List.nodup_dedup _)

theorem mem_used_iff (log : List Frame) (k : Key) : k ∈ used log ↔ (last? log k).isSome = true := by
  simp [used, last?]

theorem mem_of_last? {log : List Frame} {k : Key} {f : Frame} (h : last? log k = some f) :
    f ∈ log := List.mem_of_mem_filter (List.mem_of_getLast? h)

/-! ## Time -/

theorem not_isStale (f : Frame) (now : Instant) (timeout : Span) :
    (!f.isStale now timeout) = decide (now.since f.stamp ≤ timeout) := by
  rw [Frame.isStale, ← decide_not]
  simp only [Frame.age, Span.lt_def, Span.le_def, Nat.not_lt]

/-- What is too old stays so. -/
theorem recent_anti (log : List Frame) (timeout : Span) {past now : Instant}
    (h : past.nanos ≤ now.nanos) {k : Key} (hk : recent log timeout now k = true) :
    recent log timeout past k = true := by
  simp only [recent, Option.any_eq_true, decide_eq_true_eq, Span.le_def, Instant.since_nanos] at hk ⊢
  obtain ⟨f, hf, ht⟩ := hk
  exact ⟨f, hf, by omega⟩

theorem Ordered.of_append {log new : List Frame} (h : Ordered (log ++ new)) : Ordered log :=
  (List.pairwise_append.1 h).1

/-- Along the keys by use the last frames get older. -/
theorem pairwise_used {log : List Frame} (h : Ordered log) :
    (used log).Pairwise fun a b => ∀ f g, last? log a = some f → last? log b = some g →
      g.stamp.nanos ≤ f.stamp.nanos := by
  induction log using List.reverseRecOn with
  | nil => exact .nil
  | append_singleton log f ih =>
    have hall : ∀ g ∈ log, g.stamp.nanos ≤ f.stamp.nanos := fun g hg =>
      (List.pairwise_append.1 h).2.2 g hg f (by simp)
    rw [used_append, List.pairwise_cons]
    constructor
    · -- the new frame is the last of all
      intro b hb f' g hf hg
      have hne : b ≠ f.key := by simpa using List.of_mem_filter hb
      rw [last?_append, if_pos rfl, Option.some.injEq] at hf
      rw [last?_append, if_neg hne] at hg
      subst hf
      exact hall g (mem_of_last? hg)
    · refine ((ih h.of_append).filter _).imp_of_mem fun ha hb hab f' g hf hg => ?_
      have hna := List.of_mem_filter ha
      have hnb := List.of_mem_filter hb
      simp only [ne_eq, decide_eq_true_eq] at hna hnb
      rw [last?_append, if_neg hna] at hf
      rw [last?_append, if_neg hnb] at hg
      exact hab f' g hf hg

theorem isPrefix_filter {p : Key → Bool} {keys : List Key}
    (h : keys.Pairwise fun a b => p b = true → p a = true) : keys.filter p <+: keys := by
  induction keys with
  | nil => exact List.prefix_rfl
  | cons a rest ih =>
    rw [List.pairwise_cons] at h
    by_cases ha : p a = true
    · rw [List.filter_cons_of_pos ha, List.prefix_cons_inj]
      exact ih h.2
    · have hr : rest.filter p = [] := List.filter_eq_nil_iff.2 fun b hb hpb => ha (h.1 b hb hpb)
      rw [List.filter_cons_of_neg ha, hr]
      exact List.nil_prefix

/-- What is recent stands in front of what is too old. -/
theorem isPrefix_filter_recent {log : List Frame} (h : Ordered log) (timeout : Span) (now : Instant)
    {keys : List Key} (hkeys : keys <+: used log) :
    keys.filter (recent log timeout now) <+: keys := by
  refine isPrefix_filter (((pairwise_used h).sublist hkeys.sublist).imp_of_mem fun ha _ hab hb => ?_)
  obtain ⟨f, hf⟩ := Option.isSome_iff_exists.1 ((mem_used_iff log _).1 (hkeys.subset ha))
  simp only [recent, Option.any_eq_true, decide_eq_true_eq, Span.le_def, Instant.since_nanos] at hb ⊢
  obtain ⟨g, hg, ht⟩ := hb
  have := hab f g hf hg
  exact ⟨f, hf, by omega⟩

end CanScope.History
