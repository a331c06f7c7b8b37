import CanScope.Cache.Recency
import Mathlib.Data.List.Nodup

/-!
# What a touch does

`Recency.Sound`: no key is tracked twice, no more keys than the capacity, and there is room for one.
`touch_cases` says all that a touch can do to a sound order of use; the other facts about `touch`
follow from it.
-/
namespace CanScope.Recency

structure Sound (r : Recency) : Prop where
  nodup : r.order.Nodup
  bounded : r.size ≤ r.capacity
  room : 0 < r.capacity

theorem sound_withCapacity (capacity : Nat) : (withCapacity capacity).Sound :=
  ⟨by simp [withCapacity], by simp [withCapacity, size], by simp only [withCapacity]; omega⟩

theorem contains_iff (r : Recency) (k : Key) : r.contains k = true ↔ k ∈ r.order := by
  simp [contains]

theorem filter_ne_of_notMem {order : List Key} {k : Key} (h : k ∉ order) :
    order.filter (· ≠ k) = order :=
  List.filter_eq_self.2 fun _ hx => decide_eq_true fun e => h (e ▸ hx)

/-- Taking out a tracked key makes room for one. -/
theorem length_filter_ne {order : List Key} (hn : order.Nodup) {k : Key} (h : k ∈ order) :
    (order.filter (· ≠ k)).length + 1 = order.length := by
  have he : order.filter (· ≠ k) = order.erase k := by
    rw [hn.erase_eq_filter]
    exact List.filter_congr fun x _ => by simp [bne, Bool.beq_eq_decide_eq]
  rw [he, List.length_erase_of_mem h]
  exact Nat.succ_pred_eq_of_pos (List.length_pos_of_mem h)

/-- Of what is left without one key, the first `n` are found among the first `n + 1`. -/
theorem take_filter_take {order : List Key} (hn : order.Nodup) (k : Key) (n : Nat) :
    ((order.take (n + 1)).filter (· ≠ k)).take n = (order.filter (· ≠ k)).take n := by
  induction order generalizing n with
  | nil => rfl
  | cons a rest ih =>
    rw [List.nodup_cons] at hn
    rw [List.take_succ_cons]
    by_cases ha : a = k
    · subst ha
      have absent : a ∉ rest.take n := fun h => hn.1 (List.mem_of_mem_take h)
      rw [List.filter_cons_of_neg (by simp), List.filter_cons_of_neg (by simp),
        filter_ne_of_notMem absent, filter_ne_of_notMem hn.1, List.take_take, Nat.min_self]
    · rw [List.filter_cons_of_pos (by simpa using ha), List.filter_cons_of_pos (by simpa using ha)]
      cases n with
      | zero => rfl
      | succ n => rw [List.take_succ_cons, List.take_succ_cons, ih hn.2 n]

/-- A touch moves a tracked key to the front, puts a new key in front of the others, or, if the order
is full, puts a new key in front and lets go of the key at the back. -/
theorem touch_cases {r : Recency} (h : r.Sound) (k : Key) :
    (k ∈ r.order ∧ r.evicts k = none ∧ (r.touch k).order = k :: r.order.filter (· ≠ k)) ∨
    (k ∉ r.order ∧ r.size < r.capacity ∧ r.evicts k = none ∧ (r.touch k).order = k :: r.order) ∨
    (∃ front oldest, k ∉ r.order ∧ r.size = r.capacity ∧ r.order = front ++ [oldest] ∧
      r.evicts k = some oldest ∧ (r.touch k).order = k :: front) := by
  have hb := h.bounded
  have hroom := h.room
  by_cases hk : k ∈ r.order
  · left
    have hl := length_filter_ne h.nodup hk
    refine ⟨hk, by simp [evicts, contains, hk], ?_⟩
    simp only [touch, size] at hb ⊢
    rw [List.take_of_length_le]
    simp only [List.length_cons]
    omega
  · right
    have ht : (r.touch k).order = (k :: r.order).take r.capacity := by
      simp only [touch, filter_ne_of_notMem hk]
    by_cases hfull : r.capacity ≤ r.size
    · right
      have hsize : r.size = r.capacity := Nat.le_antisymm hb hfull
      have hne : r.order ≠ [] := by
        intro he
        simp only [size, he, List.length_nil] at hsize
        omega
      refine ⟨r.order.dropLast, r.order.getLast hne, hk, hsize,
        (List.dropLast_append_getLast hne).symm, ?_, ?_⟩
      · simp [evicts, contains, hk, hfull, List.getLast?_eq_some_getLast hne]
      · obtain ⟨n, hn⟩ : ∃ n, r.capacity = n + 1 := ⟨r.capacity - 1, by omega⟩
        have hlen : r.order.length = n + 1 := hsize.trans hn
        rw [ht, hn, List.take_succ_cons, List.dropLast_eq_take, hlen, Nat.add_sub_cancel]
    · left
      refine ⟨hk, by omega, by simp [evicts, contains, hk, hfull], ?_⟩
      rw [ht, List.take_of_length_le]
      simp only [size, List.length_cons] at hfull ⊢
      omega

theorem Sound.touch {r : Recency} (h : r.Sound) (k : Key) : (r.touch k).Sound where
  nodup := by
    refine List.Nodup.sublist (List.take_sublist _ _) ?_
    rw [List.nodup_cons]
    exact ⟨by simp, h.nodup.filter _⟩
  bounded := r.size_touch_le k
  room := h.room

theorem Sound.retain {r : Recency} (h : r.Sound) (p : Key → Bool) : (r.retain p).Sound where
  nodup := h.nodup.filter _
  bounded := Nat.le_trans (List.length_filter_le _ _) h.bounded
  room := h.room

theorem Sound.erase {r : Recency} (h : r.Sound) (k : Key) : (r.erase k).Sound := h.retain _

theorem Sound.clear {r : Recency} (h : r.Sound) : r.clear.Sound :=
  ⟨by simp [Recency.clear], Nat.zero_le _, h.room⟩

/-- After a touch the key stands in front of the others, less the evicted one. -/
theorem order_touch {r : Recency} (h : r.Sound) (k : Key) :
    (r.touch k).order =
      (k :: r.order.filter (· ≠ k)).filter fun x => r.evicts k ≠ some x := by
  rcases touch_cases h k with ⟨-, he, ho⟩ | ⟨hk, -, he, ho⟩ | ⟨front, oldest, hk, -, hr, he, ho⟩
  · simp [he, ho]
  · rw [filter_ne_of_notMem hk]
    simp [he, ho]
  · have hn := h.nodup
    rw [hr] at hn
    have hold : oldest ≠ k := fun e => hk (by simp [hr, e])
    have hfront : front.filter (fun x => some oldest ≠ some x) = front :=
      List.filter_eq_self.2 fun x hx => decide_eq_true fun e => by
        cases e
        exact List.disjoint_of_nodup_append hn hx (List.mem_singleton_self _)
    rw [filter_ne_of_notMem hk, he, ho, hr, List.filter_cons_of_pos (by simpa using hold),
      List.filter_append, hfront]
    simp

/-- A touch admits a key unless it was tracked, and evicts at most one. -/
theorem size_touch {r : Recency} (h : r.Sound) (k : Key) :
    (r.touch k).size + (if (r.evicts k).isSome then 1 else 0) =
      r.size + (if r.contains k then 0 else 1) := by
  rcases touch_cases h k with ⟨hk, he, ho⟩ | ⟨hk, -, he, ho⟩ | ⟨front, oldest, hk, -, hr, he, ho⟩
  · have hl := length_filter_ne h.nodup hk
    simp only [size, ho, he, (r.contains_iff k).2 hk, List.length_cons, Option.isSome_none,
      Bool.false_eq_true, if_false, if_true]
    omega
  · simp [size, ho, he, contains, hk]
  · simp [size, ho, he, hr, contains, hr ▸ hk]

end CanScope.Recency
