import CanScope.Proofs.Cache.Recency
import Mathlib.Data.List.Induction

/-!
# The order of use is a bounded stack

Any sequence of calls on an order of use. What "least recently used" means is said of the calls alone
(`TouchedLater`): which of two keys was touched after the other was for the last time. Keys that are
forgotten and come back, and retained parts, make no difference to that.

**The invariant.** `Ranked`: the tracked keys stand in the order of their last touches. A touch puts its
key in front, and every other call only takes keys out.

**Two capacities.** The shorter of two orders evicts more often, but what it lets go of stands too far
back in the longer one to be among its first keys (`order_touch_take`). So it is always the front part of
the longer one, as long as keys are only touched.

**Results.**
* `run_stack`: no key twice, never too many, only the least recently touched key is evicted, the others
  keep their order, and a smaller capacity shows the front part of a larger one.
-/
namespace CanScope.Recency

/-- A call that changes an order of use. -/
inductive Op where
  | touch (k : Key)
  | erase (k : Key)
  | retain (p : Key → Bool)
  | clear

def perform (r : Recency) : Op → Recency
  | .touch k => r.touch k
  | .erase k => r.erase k
  | .retain p => r.retain p
  | .clear => r.clear

def run (r : Recency) (ops : List Op) : Recency := ops.foldl perform r

theorem run_append (r : Recency) (ops more : List Op) : r.run (ops ++ more) = (r.run ops).run more :=
  List.foldl_append

theorem withCapacity_capacity (capacity : Nat) : (withCapacity capacity).capacity = max 1 capacity :=
  Nat.max_comm capacity 1

theorem capacity_run (r : Recency) (ops : List Op) : (r.run ops).capacity = r.capacity := by
  induction ops generalizing r with
  | nil => rfl
  | cons op ops ih =>
    have hstep : (r.perform op).capacity = r.capacity := by cases op <;> rfl
    exact (ih (r.perform op)).trans hstep

/-! ## Which key was touched later -/

/-- Both keys were touched, and `a` again after `b` was for the last time. -/
def TouchedLater (ops : List Op) (a b : Key) : Prop :=
  ∃ before after, ops = before ++ .touch a :: after ∧ .touch b ∈ before ∧ .touch b ∉ after

/-- `e` is the tracked key whose last touch is the earliest. -/
structure LeastRecent (ops : List Op) (r : Recency) (e : Key) : Prop where
  tracked : e ∈ r.order
  earliest : ∀ k ∈ r.order, k ≠ e → TouchedLater ops k e

theorem eq_or_mem_of_cons_eq {x y : Op} {after between after' : List Op}
    (h : x :: after = between ++ y :: after') : x = y ∨ y ∈ after := by
  cases between with
  | nil => exact .inl (List.cons.inj h).1
  | cons z between =>
    rw [List.cons_append] at h
    rw [(List.cons.inj h).2]
    exact .inr (by simp)

theorem TouchedLater.asymm {ops : List Op} {a b : Key} (hne : a ≠ b) (h : TouchedLater ops a b) :
    ¬TouchedLater ops b a := by
  obtain ⟨before, after, hops, -, hb⟩ := h
  rintro ⟨before', after', hops', -, ha⟩
  rw [hops, List.append_eq_append_iff] at hops'
  rcases hops' with ⟨between, -, hrest⟩ | ⟨between, -, hrest⟩
  · rcases eq_or_mem_of_cons_eq hrest with heq | hmem
    · exact hne (Op.touch.inj heq)
    · exact hb hmem
  · rcases eq_or_mem_of_cons_eq hrest with heq | hmem
    · exact hne (Op.touch.inj heq).symm
    · exact ha hmem

/-- One more call changes nothing, unless it touches the key that was touched earlier. -/
theorem TouchedLater.append {ops : List Op} {a b : Key} (h : TouchedLater ops a b) {op : Op}
    (hop : op ≠ .touch b) : TouchedLater (ops ++ [op]) a b := by
  obtain ⟨before, after, rfl, hb, hafter⟩ := h
  refine ⟨before, after ++ [op], by simp, hb, ?_⟩
  rw [List.mem_append, List.mem_singleton, not_or]
  exact ⟨hafter, hop.symm⟩

theorem touchedLater_touch {ops : List Op} {a b : Key} (hb : .touch b ∈ ops) :
    TouchedLater (ops ++ [.touch a]) a b :=
  ⟨ops, [], rfl, hb, by simp⟩

/-! ## The tracked keys stand in the order of their last touches -/

structure Ranked (ops : List Op) (r : Recency) : Prop where
  sound : r.Sound
  touched : ∀ k ∈ r.order, .touch k ∈ ops
  later : r.order.Pairwise (TouchedLater ops)

theorem ranked_withCapacity (capacity : Nat) : Ranked [] (withCapacity capacity) :=
  ⟨sound_withCapacity capacity, by simp [withCapacity], .nil⟩

theorem Ranked.touch {ops : List Op} {r : Recency} (h : Ranked ops r) (k : Key) :
    Ranked (ops ++ [.touch k]) (r.touch k) := by
  -- a touch may evict a key besides, which only makes the order shorter
  have hsub : (r.touch k).order.Sublist (k :: r.order.filter (· ≠ k)) := List.take_sublist _ _
  have hold : ∀ x ∈ r.order.filter (· ≠ k), .touch x ∈ ops ∧ Op.touch k ≠ .touch x := by
    intro x hx
    rw [List.mem_filter, decide_eq_true_eq] at hx
    exact ⟨h.touched x hx.1, fun heq => hx.2 (Op.touch.inj heq).symm⟩
  refine ⟨h.sound.touch k, fun x hx => ?_, ?_⟩
  · rcases List.mem_cons.mp (hsub.subset hx) with rfl | hx
    · simp
    · exact List.mem_append_left _ (hold x hx).1
  · refine List.Pairwise.sublist hsub (List.pairwise_cons.mpr ⟨fun x hx => ?_, ?_⟩)
    · exact touchedLater_touch (hold x hx).1
    · exact (h.later.filter _).imp_of_mem fun _ hb hab => hab.append (hold _ hb).2

/-- A call that touches nothing and adds no key. -/
theorem Ranked.sublist {ops : List Op} {r r' : Recency} (h : Ranked ops r) {op : Op}
    (hop : ∀ k, op ≠ .touch k) (sound : r'.Sound) (hsub : r'.order.Sublist r.order) :
    Ranked (ops ++ [op]) r' where
  sound := sound
  touched k hk := List.mem_append_left _ (h.touched k (hsub.subset hk))
  later := (h.later.sublist hsub).imp fun hab => hab.append (hop _)

theorem Ranked.perform {ops : List Op} {r : Recency} (h : Ranked ops r) (op : Op) :
    Ranked (ops ++ [op]) (r.perform op) := by
  cases op with
  | touch k => exact h.touch k
  | erase k => exact h.sublist (by simp) (h.sound.erase k) List.filter_sublist
  | retain p => exact h.sublist (by simp) (h.sound.retain p) List.filter_sublist
  | clear => exact h.sublist (by simp) h.sound.clear (List.nil_sublist _)

theorem ranked_run (capacity : Nat) (ops : List Op) :
    Ranked ops ((withCapacity capacity).run ops) := by
  induction ops using List.reverseRecOn with
  | nil => exact ranked_withCapacity capacity
  | append_singleton ops op ih =>
    rw [run_append]
    exact ih.perform op

/-! ## What a touch gives back -/

/-- The key at the back, and no other, is the least recently touched one. -/
theorem Ranked.leastRecent_iff {ops : List Op} {r : Recency} (h : Ranked ops r) {front : List Key}
    {oldest : Key} (horder : r.order = front ++ [oldest]) (e : Key) :
    LeastRecent ops r e ↔ e = oldest := by
  have hlater := h.later
  rw [horder, List.pairwise_append] at hlater
  have hfront : ∀ k ∈ front, TouchedLater ops k oldest :=
    fun k hk => hlater.2.2 k hk oldest (List.mem_singleton_self oldest)
  have htail : oldest ∈ r.order := by simp [horder]
  constructor
  · intro hleast
    by_contra hne
    have he : e ∈ front := by
      have := hleast.tracked
      rw [horder, List.mem_append, List.mem_singleton] at this
      exact this.resolve_right hne
    exact (hfront e he).asymm hne (hleast.earliest oldest htail (Ne.symm hne))
  · rintro rfl
    refine ⟨htail, fun k hk hne => hfront k ?_⟩
    rw [horder, List.mem_append, List.mem_singleton] at hk
    exact hk.resolve_right hne

theorem Ranked.evicts_iff {ops : List Op} {r : Recency} (h : Ranked ops r) (k e : Key) :
    r.evicts k = some e ↔ k ∉ r.order ∧ r.size = r.capacity ∧ LeastRecent ops r e := by
  rcases touch_cases h.sound k with ⟨hk, he, -⟩ | ⟨-, hroom, he, -⟩ | ⟨front, oldest, hk, hfull, hr, he, -⟩
  · simp [he, hk]
  · simp [he, Nat.ne_of_lt hroom]
  · simp [he, hk, hfull, h.leastRecent_iff hr, eq_comm]

theorem isSome_evicts_iff {r : Recency} (h : r.Sound) (k : Key) :
    (r.evicts k).isSome = true ↔ k ∉ r.order ∧ r.size = r.capacity := by
  rcases touch_cases h k with ⟨hk, he, -⟩ | ⟨-, hroom, he, -⟩ | ⟨front, oldest, hk, hfull, -, he, -⟩
  · simp [he, hk]
  · simp [he, Nat.ne_of_lt hroom]
  · simp [he, hk, hfull]

theorem evicts_ne_self (r : Recency) (k : Key) : r.evicts k ≠ some k := by
  unfold evicts
  split
  · simp
  · next hk =>
    rw [contains_iff] at hk
    split
    · exact fun hlast => hk (List.mem_of_getLast? hlast)
    · simp

/-- What a touch does to an order of use that `ops` have led to, of which at most `limit` keys are
tracked. -/
structure StackTouch (limit : Nat) (ops : List Op) (r : Recency) (k : Key) : Prop where
  evicts : (r.evicts k).isSome = true ↔ k ∉ r.order ∧ r.size = limit
  evicted : ∀ e, r.evicts k = some e → LeastRecent ops r e ∧ e ∉ (r.touch k).order
  order : (r.touch k).order = k :: r.order.filter fun x => x ≠ k ∧ r.evicts k ≠ some x

theorem Ranked.stackTouch {ops : List Op} {r : Recency} (h : Ranked ops r) (k : Key) :
    StackTouch r.capacity ops r k := by
  have horder : (r.touch k).order = k :: r.order.filter fun x => x ≠ k ∧ r.evicts k ≠ some x := by
    rw [order_touch h.sound, List.filter_cons_of_pos (by simpa using r.evicts_ne_self k),
      List.filter_filter]
    congr 1
    exact List.filter_congr fun x _ => by simp [Bool.and_comm]
  refine ⟨isSome_evicts_iff h.sound k, fun e he => ⟨((h.evicts_iff k e).mp he).2.2, ?_⟩, horder⟩
  have hne : e ≠ k := fun heq => r.evicts_ne_self k (heq ▸ he)
  simp [horder, hne, he]

/-! ## Two capacities -/

theorem order_touch_take {small large : Recency} (hsmall : small.Sound) (hlarge : large.Sound)
    (hle : small.capacity ≤ large.capacity)
    (h : small.order = large.order.take small.capacity) (k : Key) :
    (small.touch k).order = (large.touch k).order.take small.capacity := by
  obtain ⟨n, hn⟩ : ∃ n, small.capacity = n + 1 := ⟨small.capacity - 1, by have := hsmall.room; omega⟩
  calc (small.touch k).order
      = (k :: (large.order.take (n + 1)).filter (· ≠ k)).take (n + 1) := by rw [touch, h, hn]
    _ = (k :: large.order.filter (· ≠ k)).take (n + 1) := by
        rw [List.take_succ_cons, List.take_succ_cons, take_filter_take hlarge.nodup]
    _ = (large.touch k).order.take small.capacity := by
        rw [touch, List.take_take, hn, Nat.min_eq_left (hn ▸ hle)]

theorem order_touches_take {c₁ c₂ : Nat} (hle : c₁ ≤ c₂) (keys : List Key) :
    ((withCapacity c₁).run (keys.map .touch)).order =
      ((withCapacity c₂).run (keys.map .touch)).order.take (max 1 c₁) := by
  have hcap (c : Nat) (keys : List Key) :
      ((withCapacity c).run (keys.map .touch)).capacity = max 1 c := by
    rw [capacity_run, withCapacity_capacity]
  induction keys using List.reverseRecOn with
  | nil => simp [run, withCapacity]
  | append_singleton keys k ih =>
    rw [List.map_append, run_append, run_append, ← hcap c₁ keys]
    refine order_touch_take (ranked_run c₁ _).sound (ranked_run c₂ _).sound ?_ ?_ k
    · rw [hcap, hcap]
      omega
    · rw [hcap, ih]

/-! ## All of it -/

/-- **A bounded stack.** After any calls no key is tracked twice and not more than the capacity. A touch
evicts exactly if its key is new and the order is full, and then the least recently touched key, which is
no longer tracked; its own key comes to the front, and the others keep their order. Of the same touches a
smaller capacity shows the front part of what a larger one shows. -/
theorem run_stack {c₁ c₂ : Nat} (hle : c₁ ≤ c₂) (ops : List Op) (keys : List Key) :
    let r := (withCapacity c₁).run ops
    r.order.Nodup ∧ r.size ≤ max 1 c₁ ∧ (∀ k, StackTouch (max 1 c₁) ops r k) ∧
      ((withCapacity c₁).run (keys.map .touch)).order =
        ((withCapacity c₂).run (keys.map .touch)).order.take (max 1 c₁) := by
  intro r
  have h : Ranked ops r := ranked_run c₁ ops
  have hcap : r.capacity = max 1 c₁ := (capacity_run _ ops).trans (withCapacity_capacity c₁)
  refine ⟨h.sound.nodup, hcap ▸ h.sound.bounded, fun k => ?_, order_touches_take hle keys⟩
  rw [← hcap]
  exact h.stackTouch k

/-! The key touched first is touched again, so that a third key evicts the second. -/

theorem run_stack_evicting :
    let a : Key := ⟨0, 1⟩
    let b : Key := ⟨0, 2⟩
    let c : Key := ⟨1, 1⟩
    let ops : List Op := [.touch a, .touch b, .touch a]
    let r := (withCapacity 2).run ops
    2 ≤ 3 ∧ r.order = [a, b] ∧ r.evicts c = some b ∧ StackTouch (max 1 2) ops r c ∧
      ((withCapacity 3).run ([a, b, a, c].map .touch)).order = [c, a, b] ∧
      ((withCapacity 2).run ([a, b, a, c].map .touch)).order =
        ((withCapacity 3).run ([a, b, a, c].map .touch)).order.take (max 1 2) := by
  intro a b c ops r
  have hle : 2 ≤ 3 := by decide
  have stack := run_stack hle ops [a, b, a, c]
  exact ⟨hle, rfl, rfl, stack.2.2.1 c, rfl, stack.2.2.2⟩

end CanScope.Recency
