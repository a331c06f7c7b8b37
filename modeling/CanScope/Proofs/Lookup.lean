import Mathlib.Data.List.Nodup

/-!
# Dictionaries as lists of pairs

What the operations on a list of keys with their values do to its `lookup`. Where no key stands
twice, looking up is membership.
-/
namespace CanScope

variable {κ β : Type} [DecidableEq κ]

theorem lookup_map_snd (entries : List (κ × β)) (f : κ → β → β) (k : κ) :
    (entries.map fun entry => (entry.1, f entry.1 entry.2)).lookup k =
      (entries.lookup k).map (f k) := by
  induction entries with
  | nil => rfl
  | cons entry rest ih =>
    rw [List.map_cons, List.lookup_cons, List.lookup_cons]
    cases same : k == entry.1 with
    | true => rw [eq_of_beq same]; rfl
    | false => exact ih

theorem lookup_filter_ne (entries : List (κ × β)) (k k' : κ) :
    (entries.filter (·.1 ≠ k')).lookup k = if k = k' then none else entries.lookup k := by
  induction entries with
  | nil => simp
  | cons entry rest ih =>
    obtain ⟨a, b⟩ := entry
    by_cases ha : a = k'
    · rw [List.filter_cons_of_neg (by simpa using ha), ih, List.lookup_cons]
      by_cases hk : k = k'
      · rw [if_pos hk, if_pos hk]
      · have other : (k == a) = false := by rw [ha]; simpa using hk
        rw [other]
    · rw [List.filter_cons_of_pos (by simpa using ha), List.lookup_cons, List.lookup_cons, ih]
      cases same : k == a with
      | true =>
        rw [eq_of_beq same]
        simp only [if_neg ha]
      | false => rfl

theorem lookup_eq_some_iff_mem {entries : List (κ × β)} (nodup : (entries.map (·.1)).Nodup) (k : κ)
    (b : β) : entries.lookup k = some b ↔ (k, b) ∈ entries := by
  induction entries with
  | nil => simp
  | cons entry rest ih =>
    obtain ⟨a, c⟩ := entry
    rw [List.map_cons, List.nodup_cons] at nodup
    by_cases hk : k = a
    · subst hk
      simp only [List.lookup_cons_self, Option.some.injEq, List.mem_cons, Prod.mk.injEq, true_and]
      constructor
      · exact fun hb => .inl hb.symm
      · rintro (hb | hb)
        · exact hb.symm
        · exact absurd (List.mem_map.2 ⟨_, hb, rfl⟩) nodup.1
    · have other : (k == a) = false := by simpa using hk
      rw [List.lookup_cons, other]
      simp [hk, ih nodup.2]

end CanScope
