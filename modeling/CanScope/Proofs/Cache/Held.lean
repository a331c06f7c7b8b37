import CanScope.Proofs.Cache.Store
import Mathlib.Data.List.Induction

/-!
# What a store holds after any calls

The calls `insert`, `erase`, `eraseWhere` and `clear` in any sequence, on a store that is empty at first.
What the store should hold is said of the calls alone: `Standing calls k f` says that `f` is the last frame
inserted for `k` and that no later call dropped it.

**Dropping by predicate.** `eraseWhere` filters the entries. It comes to the same if the keys are first
collected from the frames themselves and then erased one by one (`eraseAll_keysOf`), because in every
store that calls lead to each frame stands under its own key (`Sound`).

**Results.**
* `run_faithful`: the view, the membership test, the count and the keys are those of the standing frames;
  a call gives back the frame that it displaces, or each of the keys that it drops, once.
-/
namespace CanScope.Store

/-- A call that changes a store. -/
inductive Op where
  | insert (f : Frame)
  | erase (k : Key)
  | eraseWhere (p : Frame → Bool)
  | clear

def perform (s : Store) : Op → Store
  | .insert f => s.insert f
  | .erase k => s.erase k
  | .eraseWhere p => s.eraseWhere p
  | .clear => empty

def run (s : Store) (calls : List Op) : Store := calls.foldl perform s

/-- What a call gives back. -/
inductive Answer where
  /-- The frame that was held of the key. -/
  | held (f? : Option Frame)
  /-- The keys whose frames were dropped. -/
  | dropped (keys : List Key)
  | nothing

def answer (s : Store) : Op → Answer
  | .insert f => .held (s.get? f.key)
  | .erase k => .held (s.get? k)
  | .eraseWhere p => .dropped (s.keysWhere p)
  | .clear => .nothing

/-! ## What should be held -/

/-- The call takes the frame `f` of `k` away, be it for another one or for none. -/
def Op.Displaces (k : Key) (f : Frame) : Op → Prop
  | .insert g => g.key = k
  | .erase j => j = k
  | .eraseWhere p => p f = true
  | .clear => True

/-- `f` is the last frame inserted for `k`, and no later call dropped it. -/
def Standing (calls : List Op) (k : Key) (f : Frame) : Prop :=
  ∃ before after, calls = before ++ .insert f :: after ∧ f.key = k ∧ ∀ op ∈ after, ¬op.Displaces k f

theorem not_standing_nil (k : Key) (f : Frame) : ¬Standing [] k f := by
  rintro ⟨before, after, h, -⟩
  simp at h

theorem standing_append {calls : List Op} {op : Op} {k : Key} {f : Frame} :
    Standing (calls ++ [op]) k f ↔
      (op = .insert f ∧ f.key = k) ∨ (Standing calls k f ∧ ¬op.Displaces k f) := by
  constructor
  · rintro ⟨before, after, hcalls, hkey, hafter⟩
    rcases List.eq_nil_or_concat after with rfl | ⟨after, last, rfl⟩
    · obtain ⟨-, hop⟩ := List.append_inj' hcalls rfl
      exact .inl ⟨List.singleton_inj.mp hop, hkey⟩
    · rw [List.concat_eq_append, ← List.cons_append, ← List.append_assoc] at hcalls
      obtain ⟨rfl, hop⟩ := List.append_inj' hcalls rfl
      obtain rfl : op = last := List.singleton_inj.mp hop
      refine .inr ⟨⟨before, after, rfl, hkey, fun op' hop' => hafter op' ?_⟩, hafter op ?_⟩ <;> simp [*]
  · rintro (⟨rfl, hkey⟩ | ⟨⟨before, after, rfl, hkey, hafter⟩, hop⟩)
    · exact ⟨calls, [], rfl, hkey, by simp⟩
    · refine ⟨before, after ++ [op], by simp, hkey, List.forall_mem_append.mpr ⟨hafter, ?_⟩⟩
      simpa using hop

/-! ## What is held -/

theorem Sound.perform {s : Store} (h : s.Sound) (op : Op) : (s.perform op).Sound := by
  cases op with
  | insert f => exact h.insert f
  | erase k => exact h.erase k
  | eraseWhere p => exact h.eraseWhere p
  | clear => exact sound_empty

/-- One call: the frame inserted is held, and of the others those that it does not displace. -/
theorem Sound.get?_perform {s : Store} (h : s.Sound) (op : Op) (k : Key) (f : Frame) :
    (s.perform op).get? k = some f ↔
      (op = .insert f ∧ f.key = k) ∨ (s.get? k = some f ∧ ¬op.Displaces k f) := by
  cases op with
  | insert g =>
    simp only [Store.perform, get?_insert, Op.Displaces, Op.insert.injEq]
    by_cases hk : k = g.key
    · grind
    · have hk' : g.key ≠ k := Ne.symm hk
      grind
  | erase j =>
    simp only [Store.perform, get?_erase, Op.Displaces, reduceCtorEq, false_and, false_or]
    grind
  | eraseWhere p =>
    simp [Store.perform, h.get?_eraseWhere, Op.Displaces, Option.filter_eq_some_iff]
  | clear => simp [Store.perform, Op.Displaces]

theorem sound_run (calls : List Op) : (empty.run calls).Sound := by
  induction calls using List.reverseRecOn with
  | nil => exact sound_empty
  | append_singleton calls op ih =>
    rw [run, List.foldl_append]
    exact ih.perform op

theorem get?_run (calls : List Op) (k : Key) (f : Frame) :
    (empty.run calls).get? k = some f ↔ Standing calls k f := by
  induction calls using List.reverseRecOn with
  | nil => simp [run, not_standing_nil]
  | append_singleton calls op ih =>
    rw [standing_append, ← ih, run, List.foldl_append]
    exact (sound_run calls).get?_perform op k f

/-! ## Dropping by predicate -/

/-- The keys that the frames satisfying `p` bear themselves. -/
def keysOf (s : Store) (p : Frame → Bool) : List Key := (s.frames.filter p).map (·.key)

def eraseAll (s : Store) (keys : List Key) : Store := keys.foldl erase s

theorem entries_eraseAll (s : Store) (keys : List Key) :
    (s.eraseAll keys).entries = s.entries.filter (·.1 ∉ keys) := by
  induction keys generalizing s with
  | nil => simp [eraseAll]
  | cons k keys ih =>
    have hstep : (s.eraseAll (k :: keys)).entries = (s.erase k).entries.filter (·.1 ∉ keys) :=
      ih (s.erase k)
    rw [hstep, erase, List.filter_filter]
    refine List.filter_congr fun e _ => ?_
    simp [Bool.and_comm]

theorem Sound.mem_keysWhere_iff {s : Store} (h : s.Sound) (p : Frame → Bool) (k : Key) :
    k ∈ s.keysWhere p ↔ ∃ f, s.get? k = some f ∧ p f = true := by
  simp only [keysWhere, List.mem_map, List.mem_filter, h.get?_eq_some_iff]
  constructor
  · rintro ⟨e, ⟨he, hp⟩, rfl⟩
    exact ⟨e.2, he, hp⟩
  · rintro ⟨f, hf, hp⟩
    exact ⟨(k, f), ⟨hf, hp⟩, rfl⟩

theorem Sound.nodup_keysWhere {s : Store} (h : s.Sound) (p : Frame → Bool) :
    (s.keysWhere p).Nodup :=
  (List.filter_sublist.map _).nodup h.nodup

theorem Sound.keysOf_eq {s : Store} (h : s.Sound) (p : Frame → Bool) :
    s.keysOf p = s.keysWhere p := by
  rw [keysOf, frames, keysWhere, List.filter_map, List.map_map]
  exact List.map_congr_left fun e he => h.own e (List.mem_of_mem_filter he)

/-- To erase the keys that the frames bear is to drop the frames. -/
theorem Sound.eraseAll_keysOf {s : Store} (h : s.Sound) (p : Frame → Bool) :
    s.eraseAll (s.keysOf p) = s.eraseWhere p := by
  have hentries : (s.eraseAll (s.keysOf p)).entries = (s.eraseWhere p).entries := by
    rw [entries_eraseAll, h.keysOf_eq, Store.eraseWhere]
    refine List.filter_congr fun e he => ?_
    have hget : s.get? e.1 = some e.2 := (h.get?_eq_some_iff e.1 e.2).mpr he
    simp [h.mem_keysWhere_iff, hget]
  exact congrArg Store.mk hentries

/-! ## All of it -/

/-- `s` holds the standing frames of `calls`, and tells so in every way. -/
structure HoldsStanding (calls : List Op) (s : Store) : Prop where
  own : ∀ e ∈ s.entries, e.2.key = e.1
  view : ∀ k f, s.get? k = some f ↔ Standing calls k f
  contains : ∀ k, s.contains k = true ↔ ∃ f, Standing calls k f
  keys : s.keys.Nodup ∧ ∀ k, k ∈ s.keys ↔ ∃ f, Standing calls k f
  size : s.size = s.keys.length
  empty : s.isEmpty = true ↔ ∀ k f, ¬Standing calls k f

/-- What the next call on `s` gives back after `calls`. -/
structure GivesBack (calls : List Op) (s : Store) : Prop where
  inserted : ∀ f, ∃ f?, s.answer (.insert f) = .held f? ∧ ∀ g, f? = some g ↔ Standing calls f.key g
  erased : ∀ k, ∃ f?, s.answer (.erase k) = .held f? ∧ ∀ g, f? = some g ↔ Standing calls k g
  dropped : ∀ p, ∃ keys, s.answer (.eraseWhere p) = .dropped keys ∧ keys.Nodup ∧
    ∀ k, k ∈ keys ↔ ∃ f, Standing calls k f ∧ p f = true
  left : ∀ p k f, (s.eraseWhere p).get? k = some f ↔ Standing calls k f ∧ p f = false
  /-- The keys are those that the frames bear, and erasing them one by one drops the same frames. -/
  byKeys : ∀ p, s.answer (.eraseWhere p) = .dropped (s.keysOf p) ∧
    s.eraseAll (s.keysOf p) = s.eraseWhere p

/-- **The latest frame of each key.** After any calls on an empty store it holds exactly the last frame
inserted for each key that no later call dropped, under its own key, and each call gives back exactly what
it takes away. -/
theorem run_faithful (calls : List Op) :
    let s := empty.run calls
    HoldsStanding calls s ∧ GivesBack calls s := by
  intro s
  have h : s.Sound := sound_run calls
  have hview : ∀ k f, s.get? k = some f ↔ Standing calls k f := get?_run calls
  have hkeys : ∀ k, k ∈ s.keys ↔ ∃ f, Standing calls k f := by
    intro k
    rw [← contains_iff, Store.contains, Option.isSome_iff_exists]
    exact exists_congr fun f => hview k f
  constructor
  · refine ⟨h.own, hview, fun k => (s.contains_iff k).trans (hkeys k), ⟨h.nodup, hkeys⟩, s.size_eq, ?_⟩
    have hempty : s.isEmpty = true ↔ ∀ k, k ∉ s.keys := by
      rw [isEmpty, List.isEmpty_iff, ← List.eq_nil_iff_forall_not_mem, keys, List.map_eq_nil_iff]
    simp only [hempty, hkeys, not_exists]
  · refine ⟨fun f => ⟨_, rfl, hview f.key⟩, fun k => ⟨_, rfl, hview k⟩, fun p => ?_, fun p k f => ?_,
      fun p => ⟨?_, h.eraseAll_keysOf p⟩⟩
    · refine ⟨s.keysWhere p, rfl, h.nodup_keysWhere p, fun k => ?_⟩
      simp only [h.mem_keysWhere_iff, hview]
    · rw [h.get?_eraseWhere, Option.filter_eq_some_iff, hview]
      simp
    · rw [h.keysOf_eq]
      rfl

end CanScope.Store
