import CanScope.Proofs.Capture.Accepted

/-!
# Lines with flexible data rate

Such a line is `address##flags data`, where the flags are meant to be one hexadecimal digit. What is read
as its data should be what the classic line `address#data` holds, and a line without such flags be refused.

**Where it fails.** One character behind the second `#` is passed over whatever it is, and there need not
be one. If it is not ASCII then nothing that follows it is looked at: `1##é11` is a record without data.

**Results.**
* `flexible_iff`: a line with flexible data rate is read as it should be exactly if there is a digit for
  its flags, or it is rejected anyway. An accepted one has the record of a classic line all the same.
* `flags_hide_data`: a line whose data is lost.
-/
namespace CanScope.Capture

open CanScope.Text

/-- Behind the second `#` there is a hexadecimal digit. -/
def BeginsHex (rest : List Char) : Prop := ∃ flags ∈ rest.head?, isHexDigit flags = true

/-- The frame is decoded from what follows one hexadecimal digit of flags in `rest`, like that of the
classic line with the same address and these data. -/
def FromFlags (number : Nat) (address rest : List Char) (f : CanFrame) : Prop :=
  ∃ flags more, rest = flags :: more ∧ isHexDigit flags = true ∧ payload? more = .ok f.data ∧
    parseLine number (address ++ '#' :: more) = .ok (some ⟨none, ⟨0, f.address, f.data⟩⟩)

/-- How a line with flexible data rate should be read. -/
structure Faithful (number : Nat) (text address rest : List Char) : Prop where
  decoded : ∀ r, parseLine number text = .ok (some r) → FromFlags number address rest r.frame
  refused : ¬BeginsHex rest → ∃ e, parseLine number text = .error e

variable {text a rest more : List Char} {head : List (List Char)} {number : Nat} {r : Record}

/-! ## Characters of what is taken -/

theorem mem_dropSign {c : Char} {cs : List Char} (h : c ∈ cs) : c = '+' ∨ c ∈ dropSign cs := by
  unfold dropSign
  split
  · simpa using h
  · exact .inr h

theorem mem_zeroSigns {c : Char} {cs : List Char} (h : c ∈ cs) : c = '+' ∨ c ∈ zeroSigns cs := by
  fun_induction zeroSigns cs with
  | case1 a b rest ih => grind
  | case2 cs => exact .inr h

theorem AddressTaken.mem {address : UInt32} (h : AddressTaken address text) :
    ∀ c ∈ text, c = '+' ∨ (digit? 16 c).isSome :=
  fun _ hc => (mem_dropSign hc).imp_right (WritesAddress.isSome_digit? h _)

theorem DataTaken.mem {data : List UInt8} (h : DataTaken data text) :
    ∀ c ∈ text, c = '.' ∨ c = '+' ∨ (digit? 16 c).isSome := by
  intro c hc
  by_cases hpoint : c = '.'
  · exact .inl hpoint
  · right
    have hfilter : c ∈ text.filter (· != '.') := List.mem_filter.mpr ⟨hc, by simpa using hpoint⟩
    exact (mem_zeroSigns hfilter).imp_right (isSome_digit?_of_flatMap h c)

theorem AddressTaken.ne_nil {address : UInt32} (h : AddressTaken address text) : text ≠ [] := by
  rintro rfl
  exact WritesAddress.ne_nil h rfl

/-! ## Lines of one field -/

/-- An address that is taken may begin a line. -/
theorem AddressTaken.opens {address : UInt32} (h : AddressTaken address text) : Opens text :=
  opens_of_mem h.ne_nil h.mem

theorem Opens.layout {w : List Char} (h : Opens w) (hw : w = a ++ '#' :: rest) (ha : '#' ∉ a) :
    Layout w [] a rest where
  not_remark := by rw [h.trim_eq, h.not_remark]
  fields_eq := by rw [h.trim_eq, h.fields_eq, hw]; rfl
  not_mem := ha

/-- The frame by itself is the line for a record without time on bus zero. -/
theorem Taken.bare (h : Taken head a rest r) (ha : '#' ∉ a)
    (hmore : dataText rest = more) (hclassic : dataText more = more)
    (hsolid : ∀ c ∈ more, isBlank c = false) (number : Nat) :
    parseLine number (a ++ '#' :: more) = .ok (some ⟨none, ⟨0, r.frame.address, r.frame.data⟩⟩) := by
  have hopens : Opens (a ++ '#' :: more) :=
    h.address.opens.append (List.forall_mem_cons.mpr ⟨by decide, hsolid⟩) (by simp)
  refine (hopens.layout rfl ha).accepted_iff.mpr ⟨rfl, h.address, ?_, h.wellFormed⟩
  rw [hclassic, ← hmore]
  exact h.data

/-! ## Flags -/

theorem afterFlags_of_hex {flags : Char} (h : isHexDigit flags = true) (more : List Char) :
    afterFlags (flags :: more) = more := dataText_flexible h more

theorem dataText_of_not_mem (h : '#' ∉ more) : dataText more = more := by
  unfold dataText
  split
  · simp at h
  · rfl

/-- The record of a line with flexible data rate is that of a classic line. -/
theorem Layout.classic (h : Layout text head a ('#' :: rest))
    (haccepted : parseLine number text = .ok (some r)) :
    payload? (afterFlags rest) = .ok r.frame.data ∧
      parseLine number (a ++ '#' :: afterFlags rest) =
        .ok (some ⟨none, ⟨0, r.frame.address, r.frame.data⟩⟩) := by
  have htaken := h.accepted_iff.mp haccepted
  have hhash : '#' ∉ afterFlags rest := fun hc => absurd (htaken.data.mem '#' hc) (by decide)
  have hsolid : ∀ c ∈ afterFlags rest, isBlank c = false := by
    intro c hc
    have hrest : c ∈ '#' :: rest := mem_of_mem_dataText hc
    exact h.solid c (List.mem_append_right a (List.mem_cons_of_mem _ hrest))
  exact ⟨(payload?_eq_ok_iff h.not_space).mpr ⟨htaken.wellFormed.2, htaken.data⟩,
    htaken.bare h.not_mem rfl (dataText_of_not_mem hhash) hsolid number⟩

theorem afterFlags_of_not_ascii (h : ∀ flags ∈ rest.head?, ¬flags.toNat < 128) :
    afterFlags rest = [] := by
  cases rest with
  | nil => rfl
  | cons flags more => exact if_neg (h flags rfl)

/-- Behind a digit of flags there is the data of the line. -/
theorem Layout.fromFlags (h : Layout text head a ('#' :: rest))
    (haccepted : parseLine number text = .ok (some r)) (hhex : BeginsHex rest) :
    FromFlags number a rest r.frame := by
  obtain ⟨flags, hfirst, hflags⟩ := hhex
  obtain ⟨more, rfl⟩ := List.head?_eq_some_iff.mp hfirst
  have hclassic := h.classic haccepted
  rw [afterFlags_of_hex hflags] at hclassic
  exact ⟨flags, more, rfl, hflags, hclassic⟩

/-- **Flags that are no digit.** A line with flexible data rate is read as it should be exactly if its
flags are a hexadecimal digit or it is not taken for a record at all. In any case an accepted one has the
record of the classic line with the data behind its flags. Those are lost if the flags are not ASCII. -/
theorem flexible_iff (number : Nat) (layout : Layout text head a ('#' :: rest)) :
    (Faithful number text a rest ↔ BeginsHex rest ∨ ¬∃ r, Taken head a ('#' :: rest) r) ∧
    ∀ r, parseLine number text = .ok (some r) →
      payload? (afterFlags rest) = .ok r.frame.data ∧
      parseLine number (a ++ '#' :: afterFlags rest) =
        .ok (some ⟨none, ⟨0, r.frame.address, r.frame.data⟩⟩) ∧
      ((∀ flags ∈ rest.head?, ¬flags.toNat < 128) → r.frame.data = []) := by
  refine ⟨⟨fun hfaithful => ?_, fun hcases => ?_⟩, fun r haccepted => ?_⟩
  · by_contra hboth
    obtain ⟨hhex, htaken⟩ := not_or.mp hboth
    obtain ⟨e, herror⟩ := hfaithful.refused hhex
    obtain ⟨r, htaken⟩ := not_not.mp htaken
    rw [layout.accepted_iff.mpr htaken] at herror
    cases herror
  · rcases hcases with hhex | hnone
    · exact ⟨fun r haccepted => layout.fromFlags haccepted hhex, fun hother => absurd hhex hother⟩
    · refine ⟨fun r haccepted => absurd ⟨r, layout.accepted_iff.mp haccepted⟩ hnone, fun _ => ?_⟩
      have hrejected : Rejected number text head := layout.rejected_iff.mpr hnone
      exact hrejected.imp fun _ => And.left
  · obtain ⟨hdata, hclassic⟩ := layout.classic haccepted
    refine ⟨hdata, hclassic, fun hwide => ?_⟩
    rw [afterFlags_of_not_ascii hwide] at hdata
    have hnothing : payload? [] = .ok [] := rfl
    exact Except.ok.inj (hdata.symm.trans hnothing)

/-! A line with a digit of flags, and one whose flags are two bytes long. -/

theorem flexible_iff_digit :
    Layout "can0 7E8##1AABB".toList ["can0".toList] "7E8".toList "#1AABB".toList ∧
    BeginsHex "1AABB".toList ∧ Faithful 3 "can0 7E8##1AABB".toList "7E8".toList "1AABB".toList ∧
    parseLine 3 "can0 7E8##1AABB".toList = .ok (some ⟨none, ⟨0, 0x7E8, [0xAA, 0xBB]⟩⟩) ∧
    parseLine 3 "7E8#AABB".toList = .ok (some ⟨none, ⟨0, 0x7E8, [0xAA, 0xBB]⟩⟩) := by
  have layout : Layout "can0 7E8##1AABB".toList ["can0".toList] "7E8".toList "#1AABB".toList :=
    ⟨by decide, by decide, by decide⟩
  have digit : BeginsHex "1AABB".toList := ⟨'1', rfl, by decide⟩
  have accepted : parseLine 3 "can0 7E8##1AABB".toList =
      .ok (some ⟨none, ⟨0, 0x7E8, [0xAA, 0xBB]⟩⟩) := by rfl
  have flexible := flexible_iff 3 layout
  exact ⟨layout, digit, flexible.1.mpr (.inl digit), accepted, (flexible.2 _ accepted).2.1⟩

/-- Data behind flags of two bytes is lost. -/
theorem flags_hide_data :
    ¬∀ (number : Nat) (text : List Char) (head : List (List Char)) (a rest : List Char),
      Layout text head a ('#' :: rest) → Faithful number text a rest := by
  intro faithful
  have layout : Layout "1##é11".toList [] "1".toList "#é11".toList :=
    ⟨by decide, by decide, by decide⟩
  have accepted : parseLine 1 "1##é11".toList = .ok (some ⟨none, ⟨0, 1, []⟩⟩) := by rfl
  obtain ⟨flags, more, split, digit, -⟩ := (faithful 1 _ _ _ _ layout).decoded _ accepted
  cases split
  exact absurd digit (by decide)

end CanScope.Capture
