import CanScope.Cache.Store
import CanScope.Proofs.Lookup
import Mathlib.Data.List.Perm.Basic

/-!
# A sound store

`Store.Sound`: every frame stands under its own key, and no key has two entries. Each operation
keeps it, and on a sound store the view `get?` is exactly membership in `entries`, so that a sweep
(`eraseWhere`) can be read off the view.
-/
namespace CanScope.Store

/-- Every frame stands under its own key, and no key has two entries. -/
structure Sound (s : Store) : Prop where
  own : ∀ e ∈ s.entries, e.2.key = e.1
  nodup : s.keys.Nodup

theorem sound_empty : empty.Sound := ⟨by simp [empty], by simp [keys, empty]⟩

/-! ## The view after each operation -/

@[simp] theorem get?_empty (k : Key) : empty.get? k = none := rfl

theorem get?_erase (s : Store) (k k' : Key) :
    (s.erase k).get? k' = if k' = k then none else s.get? k' :=
  lookup_filter_ne s.entries k' k

theorem get?_insert (s : Store) (f : Frame) (k : Key) :
    (s.insert f).get? k = if k = f.key then some f else s.get? k := by
  show List.lookup k ((f.key, f) :: (s.erase f.key).entries) = _
  rw [List.lookup_cons]
  by_cases same : k = f.key
  · rw [same, beq_self_eq_true, if_pos rfl]
  · have other : (k == f.key) = false := by simpa using same
    rw [other, if_neg same]
    exact (get?_erase s f.key k).trans (if_neg same)

/-! ## The keys after each operation -/

theorem contains_iff (s : Store) (k : Key) : s.contains k = true ↔ k ∈ s.keys := by
  simp only [contains, get?, keys, List.lookup_isSome_iff, List.mem_map, beq_iff_eq]
  constructor
  · rintro ⟨e, he, hk⟩
    exact ⟨e, he, hk.symm⟩
  · rintro ⟨e, he, hk⟩
    exact ⟨e, he, hk.symm⟩

theorem size_eq (s : Store) : s.size = s.keys.length := by simp [size, keys]

theorem keys_erase (s : Store) (k : Key) : (s.erase k).keys = s.keys.filter (· ≠ k) := by
  simp only [keys, erase, List.filter_map]
  rfl

theorem keys_insert (s : Store) (f : Frame) :
    (s.insert f).keys = f.key :: s.keys.filter (· ≠ f.key) := by
  rw [← keys_erase]
  rfl

theorem keys_eraseWhere_sublist (s : Store) (p : Frame → Bool) :
    (s.eraseWhere p).keys.Sublist s.keys :=
  List.filter_sublist.map _

/-- What a sweep drops and what it leaves make up the store. -/
theorem size_eraseWhere (s : Store) (p : Frame → Bool) :
    (s.eraseWhere p).size + (s.keysWhere p).length = s.size := by
  simp only [size, eraseWhere, keysWhere, List.length_map]
  rw [Nat.add_comm]
  exact (List.length_eq_length_filter_add fun e : Key × Frame => p e.2).symm

theorem length_keysWhere (s : Store) (p : Frame → Bool) :
    (s.keysWhere p).length = (s.frames.filter p).length := by
  rw [keysWhere, frames, List.filter_map, List.length_map, List.length_map]
  rfl

theorem eraseWhere_eraseWhere (s : Store) (p q : Frame → Bool) :
    (s.eraseWhere p).eraseWhere q = s.eraseWhere fun f => p f || q f := by
  simp only [eraseWhere, List.filter_filter, mk.injEq]
  refine List.filter_congr ?_
  intro e _
  rw [Bool.not_or, Bool.and_comm]

theorem contains_of_eraseWhere {s : Store} {p : Frame → Bool} {k : Key}
    (h : (s.eraseWhere p).contains k = true) : s.contains k = true := by
  rw [contains_iff] at h ⊢
  exact (s.keys_eraseWhere_sublist p).subset h

/-! ## Soundness is kept -/

theorem Sound.erase {s : Store} (h : s.Sound) (k : Key) : (s.erase k).Sound where
  own e he := h.own e (List.mem_of_mem_filter he)
  nodup := by rw [keys_erase]; exact h.nodup.filter _

theorem Sound.insert {s : Store} (h : s.Sound) (f : Frame) : (s.insert f).Sound where
  own e he := by
    rcases List.mem_cons.1 he with rfl | he
    · rfl
    · exact (h.erase f.key).own e he
  nodup := by
    rw [keys_insert, List.nodup_cons]
    exact ⟨by simp, h.nodup.filter _⟩

theorem Sound.eraseWhere {s : Store} (h : s.Sound) (p : Frame → Bool) : (s.eraseWhere p).Sound where
  own e he := h.own e (List.mem_of_mem_filter he)
  nodup := (s.keys_eraseWhere_sublist p).nodup h.nodup

/-! ## The view of a sound store -/

theorem Sound.get?_eq_some_iff {s : Store} (h : s.Sound) (k : Key) (f : Frame) :
    s.get? k = some f ↔ (k, f) ∈ s.entries :=
  lookup_eq_some_iff_mem h.nodup k f

/-- A sweep hides exactly the frames that satisfy `p`. -/
theorem Sound.get?_eraseWhere {s : Store} (h : s.Sound) (p : Frame → Bool) (k : Key) :
    (s.eraseWhere p).get? k = (s.get? k).filter fun f => !p f := by
  ext f
  rw [(h.eraseWhere p).get?_eq_some_iff, Option.filter_eq_some_iff, h.get?_eq_some_iff]
  simp [Store.eraseWhere]

end CanScope.Store
