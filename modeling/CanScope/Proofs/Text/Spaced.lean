import CanScope.Proofs.Text.Digits
import CanScope.Proofs.Text.Fields

/-!
# Bytes set apart by spaces

`spacedHex` writes each byte as two digits with one space between neighbours. Each pair of digits is a
word, so `fields` gives the pairs back, and each of them is read as the byte it was. This holds for any
number of bytes; no bytes at all give an empty text, which has no fields.

**Results.**
* `fields_spacedHex`: cutting at the spaces gives back the digits of each byte.
* `spacedHex_injective`: hence the bytes.
-/
namespace CanScope.Text

theorem word_of_natural? {base n : Nat} {cs : List Char} (h : natural? base cs = some n) : Word cs where
  ne_nil := ne_nil_of_natural? h
  solid c hc := not_isBlank_of_digit? (isSome_digit?_of_natural? h c hc)

theorem hexByte_injective : Function.Injective hexByte := by
  intro a b h
  have hread : some a.toNat = some b.toNat := by
    rw [← natural?_hexByte a, h, natural?_hexByte]
  exact UInt8.toNat_inj.mp (Option.some.inj hread)

theorem joined_intersperse (w : List Char) (words : List (List Char)) :
    Joined (w :: words) ((w :: words).intersperse [' ']).flatten := by
  induction words generalizing w with
  | nil =>
    have hone : ([w].intersperse [' ']).flatten = w := by simp
    rw [hone]
    exact .last w
  | cons w' words ih =>
    have hmore : ((w :: w' :: words).intersperse [' ']).flatten =
        w ++ [' '] ++ ((w' :: words).intersperse [' ']).flatten := by simp
    rw [hmore]
    exact .before w [' '] (by decide) (by decide) (ih w')

theorem fields_spacedHex (data : List UInt8) : fields (spacedHex data).toList = data.map hexByte := by
  unfold spacedHex
  rw [String.toList_ofList]
  cases data with
  | nil => rfl
  | cons b data =>
    refine fields_of_joined (joined_intersperse _ _) ?_
    intro w hw
    obtain ⟨x, -, rfl⟩ := List.mem_map.mp hw
    exact word_of_natural? (natural?_hexByte x)

/-- Between the words stand spaces and no other blanks. -/
theorem mem_flatten_intersperse {words : List (List Char)} {c : Char}
    (h : c ∈ (words.intersperse [' ']).flatten) : c = ' ' ∨ ∃ w ∈ words, c ∈ w := by
  induction words with
  | nil => simp at h
  | cons w words ih =>
    cases words with
    | nil => right; simpa using h
    | cons w' words =>
      simp only [List.intersperse_cons_cons, List.flatten_cons, List.mem_append, List.mem_singleton] at h
      rcases h with hc | hc | hc
      · exact .inr ⟨w, List.mem_cons_self, hc⟩
      · exact .inl hc
      · refine (ih hc).imp_right ?_
        intro ⟨v, hv, hcv⟩
        exact ⟨v, List.mem_cons_of_mem _ hv, hcv⟩

theorem mem_spacedHex {data : List UInt8} {c : Char} (h : c ∈ (spacedHex data).toList) :
    c = ' ' ∨ (digit? 16 c).isSome := by
  unfold spacedHex at h
  rw [String.toList_ofList] at h
  refine (mem_flatten_intersperse h).imp_right ?_
  intro ⟨w, hw, hc⟩
  obtain ⟨x, -, rfl⟩ := List.mem_map.mp hw
  exact isSome_digit?_of_natural? (natural?_hexByte x) c hc

theorem spacedHex_injective : Function.Injective spacedHex := by
  intro data data' h
  have hwords : data.map hexByte = data'.map hexByte := by
    rw [← fields_spacedHex, h, fields_spacedHex]
  exact (List.map_inj_right fun _ _ hbyte => hexByte_injective hbyte).mp hwords

end CanScope.Text
