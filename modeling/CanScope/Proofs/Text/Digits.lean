import CanScope.Number.Decimal
import CanScope.Text.Blank
import Mathlib.Data.List.Induction
import Mathlib.Data.List.TakeWhile
import Mathlib.Data.Nat.Basic

/-!
# Digits read back

Numbers are written by `Nat.toDigits`, and read by `natural?`. A text may have more zeros in front than
its number needs, and its letters in either case; what it is read as stays the same.

**What a digit is not.** Every character of a text that reads as a number is an ASCII letter or digit,
so none is a blank, a sign, a point or a separator. The same holds of a decimal literal, but for its
signs and its point.

**Results.**
* `natural?_toDigits`: a number that is written in a base is read back in that base.
* `natural?_map_toUpper`: the case of letters does not matter.
* `natural?_eq_some_iff`: nothing else is read as that number.
* `natural?_hexByte`, `length_hexByte`: a byte is two digits, and they are read back.
* `Decimal.not_isBlank_of_read?`: a decimal literal has no blank.
-/
namespace CanScope.Text

/-! ## A character as a digit -/

theorem toNat_toUpper (c : Char) :
    c.toUpper.toNat = if 97 ≤ c.toNat ∧ c.toNat ≤ 122 then c.toNat - 32 else c.toNat := by
  unfold Char.toUpper
  by_cases h : 97 ≤ c.toNat ∧ c.toNat ≤ 122
  · have hv : 'a'.val ≤ c.val ∧ c.val ≤ 'z'.val := h
    rw [dif_pos hv, if_pos h]
    -- the difference of the two cases wraps around
    change (c.val + ('A'.val - 'a'.val)).toNat = c.toNat - 32
    rw [UInt32.toNat_add]
    change (c.toNat + 4294967264) % 2 ^ 32 = _
    omega
  · have hv : ¬('a'.val ≤ c.val ∧ c.val ≤ 'z'.val) := h
    rw [dif_neg hv, if_neg h]

theorem toNat_toLower (c : Char) :
    c.toLower.toNat = if 65 ≤ c.toNat ∧ c.toNat ≤ 90 then c.toNat + 32 else c.toNat := by
  unfold Char.toLower
  by_cases h : 65 ≤ c.toNat ∧ c.toNat ≤ 90
  · have hv : 'A'.val ≤ c.val ∧ c.val ≤ 'Z'.val := h
    rw [dif_pos hv, if_pos h]
    change (c.val + ('a'.val - 'A'.val)).toNat = c.toNat + 32
    rw [UInt32.toNat_add]
    change (c.toNat + 32) % 2 ^ 32 = _
    omega
  · have hv : ¬('A'.val ≤ c.val ∧ c.val ≤ 'Z'.val) := h
    rw [dif_neg hv, if_neg h]

theorem toUpper_toUpper (c : Char) : c.toUpper.toUpper = c.toUpper := by
  apply Char.toNat_inj.mp
  rw [toNat_toUpper c.toUpper, toNat_toUpper]
  grind

/-- A digit by its code point. -/
theorem digit?_eq (base : Nat) (c : Char) :
    digit? base c =
      (if 48 ≤ c.toNat ∧ c.toNat ≤ 57 then some (c.toNat - 48)
        else if 97 ≤ c.toNat ∧ c.toNat ≤ 122 then some (c.toNat - 87)
        else if 65 ≤ c.toNat ∧ c.toNat ≤ 90 then some (c.toNat - 55)
        else none).filter (· < base) := by
  have le (a b : Char) : a ≤ b ↔ a.toNat ≤ b.toNat := Iff.rfl
  simp only [digit?, le, Char.reduceToNat]
  grind

theorem digit?_toUpper (base : Nat) (c : Char) : digit? base c.toUpper = digit? base c := by
  rw [digit?_eq, digit?_eq, toNat_toUpper]
  congr 1
  grind

theorem digit?_digitChar {base d : Nat} (hd : d < base) (hbase : base ≤ 16) :
    digit? base (Nat.digitChar d) = some d := by
  have hvalue : ∀ d < 16, digit? 16 (Nat.digitChar d) = some d := by decide
  have h := hvalue d (by omega)
  rw [digit?, Option.filter_eq_some_iff] at h ⊢
  exact ⟨h.1, by simpa using hd⟩

theorem toNat_of_isSome_digit? {base : Nat} {c : Char} (h : (digit? base c).isSome) :
    48 ≤ c.toNat ∧ c.toNat ≤ 57 ∨ 97 ≤ c.toNat ∧ c.toNat ≤ 122 ∨ 65 ≤ c.toNat ∧ c.toNat ≤ 90 := by
  rw [digit?_eq] at h
  grind

theorem not_isBlank_of_toNat {c : Char} (h : 33 ≤ c.toNat) (h' : c.toNat ≤ 126) :
    isBlank c = false := by
  simp only [isBlank, blankRanges, List.any_cons, List.any_nil, Bool.or_false, Bool.or_eq_false_iff,
    Bool.and_eq_false_iff, decide_eq_false_iff_not]
  omega

theorem not_isBlank_of_digit? {base : Nat} {c : Char} (h : (digit? base c).isSome) :
    isBlank c = false := by
  have := toNat_of_isSome_digit? h
  exact not_isBlank_of_toNat (by omega) (by omega)

theorem isSome_digit?_of_le {base base' : Nat} (hle : base ≤ base') {c : Char}
    (h : (digit? base c).isSome) : (digit? base' c).isSome := by
  simp only [digit?, Option.isSome_filter, Option.any_eq_true, decide_eq_true_eq] at h ⊢
  obtain ⟨d, hd, hlt⟩ := h
  exact ⟨d, hd, by omega⟩

theorem isDecimalDigit_of_digit? {c : Char} (h : (digit? 10 c).isSome) :
    isDecimalDigit c = true := by
  have hle : '0' ≤ c ∧ c ≤ '9' := by
    change 48 ≤ c.toNat ∧ c.toNat ≤ 57
    rw [digit?_eq] at h
    grind
  simpa [isDecimalDigit] using hle

/-- A run of characters that satisfy `p` ends where another one follows, or nothing. -/
theorem split_run {p : Char → Bool} {run rest : List Char} (hrun : ∀ c ∈ run, p c = true)
    (hrest : ∀ c ∈ rest.head?, p c = false) :
    (run ++ rest).takeWhile p = run ∧ (run ++ rest).dropWhile p = rest := by
  rw [List.takeWhile_append_of_pos hrun, List.dropWhile_append_of_pos hrun]
  cases rest with
  | nil => simp
  | cons c rest =>
    have hc := hrest c rfl
    simp [hc]

/-! ## Reading what was written -/

theorem digitsFrom?_map_toUpper (base start : Nat) (cs : List Char) :
    digitsFrom? base start (cs.map Char.toUpper) = digitsFrom? base start cs := by
  induction cs generalizing start with
  | nil => rfl
  | cons c cs ih => simp only [List.map_cons, digitsFrom?, digit?_toUpper, ih]

theorem natural?_of_ne_nil {base : Nat} {cs : List Char} (h : cs ≠ []) :
    natural? base cs = digitsFrom? base 0 cs := by
  cases cs with
  | nil => contradiction
  | cons => rfl

theorem natural?_map_toUpper (base : Nat) (cs : List Char) :
    natural? base (cs.map Char.toUpper) = natural? base cs := by
  cases cs with
  | nil => rfl
  | cons c cs => exact digitsFrom?_map_toUpper base 0 (c :: cs)

theorem digitsFrom?_toDigits {base : Nat} (hlow : 1 < base) (hhigh : base ≤ 16) (n : Nat) :
    digitsFrom? base 0 (Nat.toDigits base n) = some n := by
  induction n using Nat.strongRecOn with
  | ind n ih =>
    by_cases h : n < base
    · rw [Nat.toDigits_of_lt_base h]
      simp [digitsFrom?, digit?_digitChar h hhigh]
    · have hdiv : n / base < n := Nat.div_lt_self (by omega) hlow
      have hmod : n % base < base := Nat.mod_lt _ (by omega)
      rw [Nat.toDigits_of_base_le hlow (by omega), digitsFrom?_append, ih _ hdiv]
      simp [digitsFrom?, digit?_digitChar hmod hhigh, Nat.div_add_mod']

theorem digitsFrom?_zeros_append {base : Nat} (hbase : 0 < base) (zeros : Nat) (cs : List Char) :
    digitsFrom? base 0 (List.replicate zeros '0' ++ cs) = digitsFrom? base 0 cs := by
  have hzero : digit? base '0' = some 0 := by simpa [digit?] using hbase
  induction zeros with
  | zero => rfl
  | succ zeros ih => simpa [List.replicate_succ, digitsFrom?, hzero] using ih

theorem natural?_toDigits {base : Nat} (hlow : 1 < base) (hhigh : base ≤ 16) (zeros n : Nat) :
    natural? base (List.replicate zeros '0' ++ Nat.toDigits base n) = some n := by
  rw [natural?_of_ne_nil (by simp), digitsFrom?_zeros_append (by omega),
    digitsFrom?_toDigits hlow hhigh]

theorem natural?_hexDigits (zeros n : Nat) :
    natural? 16 (List.replicate zeros '0' ++ hexDigits n) = some n := by
  have hmap : List.replicate zeros '0' ++ hexDigits n =
      (List.replicate zeros '0' ++ Nat.toDigits 16 n).map Char.toUpper := by
    simp [hexDigits, List.map_replicate]
  rw [hmap, natural?_map_toUpper, natural?_toDigits (by decide) (by decide)]

theorem isSome_digit?_of_digitsFrom? {base start n : Nat} {cs : List Char}
    (h : digitsFrom? base start cs = some n) : ∀ c ∈ cs, (digit? base c).isSome := by
  induction cs generalizing start with
  | nil => simp
  | cons c cs ih =>
    obtain ⟨d, hd, hrest⟩ := Option.bind_eq_some_iff.mp h
    simpa [hd] using ih hrest

theorem isSome_digit?_of_natural? {base n : Nat} {cs : List Char} (h : natural? base cs = some n) :
    ∀ c ∈ cs, (digit? base c).isSome := by
  cases cs with
  | nil => simp
  | cons c cs => exact isSome_digit?_of_digitsFrom? h

theorem ne_nil_of_natural? {base n : Nat} {cs : List Char} (h : natural? base cs = some n) :
    cs ≠ [] := by
  rintro rfl
  simp [natural?] at h

/-- A sign is no digit, so a text of digits reads the same where a sign may stand. -/
theorem signless?_of_natural? {base n : Nat} {cs : List Char} (h : natural? base cs = some n) :
    signless? base cs = some n := by
  unfold signless?
  split
  · have hplus := toNat_of_isSome_digit? (isSome_digit?_of_natural? h '+' List.mem_cons_self)
    simp at hplus
  · exact h

/-! ## What is read was written -/

/-- A digit is the character of its value, in one case or the other. -/
theorem toUpper_of_digit? {base d : Nat} {c : Char} (hbase : base ≤ 16) (h : digit? base c = some d) :
    d < base ∧ c.toUpper = (Nat.digitChar d).toUpper := by
  rw [digit?_eq, Option.filter_eq_some_iff] at h
  obtain ⟨hvalue, hlt⟩ := h
  have hd : d < base := by simpa using hlt
  have hchar : ∀ d < 16, (Nat.digitChar d).toUpper.toNat = if d < 10 then d + 48 else d + 55 := by
    decide
  refine ⟨hd, Char.toNat_inj.mp ?_⟩
  rw [hchar d (by omega), toNat_toUpper]
  grind

/-- A text that reads as a number is that number as it is written, up to zeros in front and the case of
letters. -/
theorem exists_zeros_of_natural? {base n : Nat} (hlow : 1 < base) (hhigh : base ≤ 16)
    {cs : List Char} (h : natural? base cs = some n) :
    ∃ zeros, cs.map Char.toUpper =
      (List.replicate zeros '0' ++ Nat.toDigits base n).map Char.toUpper := by
  induction cs using List.reverseRecOn generalizing n with
  | nil => cases h
  | append_singleton cs c ih =>
    rw [natural?_of_ne_nil (by simp), digitsFrom?_append] at h
    obtain ⟨m, hm, hlast⟩ := Option.bind_eq_some_iff.mp h
    obtain ⟨d, hd, hn⟩ := Option.bind_eq_some_iff.mp hlast
    obtain ⟨hlt, hc⟩ := toUpper_of_digit? hhigh hd
    obtain rfl : m * base + d = n := Option.some.inj hn
    by_cases hzero : m = 0
    · -- only zeros so far
      subst hzero
      have hdigits : Nat.toDigits base (0 * base + d) = [Nat.digitChar d] := by
        rw [Nat.zero_mul, Nat.zero_add, Nat.toDigits_of_lt_base hlt]
      have hfront : ∃ zeros, cs.map Char.toUpper = (List.replicate zeros '0').map Char.toUpper := by
        cases cs with
        | nil => exact ⟨0, rfl⟩
        | cons a cs =>
          obtain ⟨zeros, hzeros⟩ := ih hm
          exact ⟨zeros + 1, by rw [hzeros, List.replicate_succ', Nat.toDigits_zero]⟩
      obtain ⟨zeros, hzeros⟩ := hfront
      exact ⟨zeros, by rw [List.map_append, hzeros, hdigits, List.map_append, List.map_singleton, hc, List.map_singleton]⟩
    · have hcs : cs ≠ [] := by
        rintro rfl
        exact hzero (Option.some.inj hm).symm
      obtain ⟨zeros, hzeros⟩ := ih ((natural?_of_ne_nil hcs).trans hm)
      have hge : base ≤ m * base + d :=
        (Nat.le_mul_of_pos_left base (Nat.pos_of_ne_zero hzero)).trans (Nat.le_add_right _ _)
      have hdiv : (m * base + d) / base = m := by
        rw [Nat.mul_comm, Nat.mul_add_div (by omega), Nat.div_eq_of_lt hlt, Nat.add_zero]
      have hmod : (m * base + d) % base = d := by
        rw [Nat.mul_add_mod_self_right, Nat.mod_eq_of_lt hlt]
      refine ⟨zeros, ?_⟩
      rw [Nat.toDigits_of_base_le hlow hge, hdiv, hmod, List.map_append, hzeros, List.map_singleton, hc]
      simp

theorem natural?_eq_some_iff {base n : Nat} (hlow : 1 < base) (hhigh : base ≤ 16) {cs : List Char} :
    natural? base cs = some n ↔ ∃ zeros, cs.map Char.toUpper =
      (List.replicate zeros '0' ++ Nat.toDigits base n).map Char.toUpper := by
  refine ⟨exists_zeros_of_natural? hlow hhigh, fun ⟨zeros, hcs⟩ => ?_⟩
  rw [← natural?_map_toUpper, hcs, natural?_map_toUpper, natural?_toDigits hlow hhigh]

theorem natural?_sixteen_iff {n : Nat} {cs : List Char} : natural? 16 cs = some n ↔
    ∃ zeros, cs.map Char.toUpper = List.replicate zeros '0' ++ hexDigits n := by
  rw [natural?_eq_some_iff (by decide) (by decide)]
  simp [hexDigits, List.map_replicate]

/-- One plus sign less, if there is one in front. -/
def dropSign : List Char → List Char
  | '+' :: cs => cs
  | cs => cs

theorem signless?_eq (base : Nat) (cs : List Char) : signless? base cs = natural? base (dropSign cs) := by
  fun_cases dropSign cs with
  | case1 cs => rfl
  | case2 =>
    rename_i hplus
    exact signless?.eq_2 base cs hplus

theorem dropSign_of_head? {cs : List Char} (h : cs.head? ≠ some '+') : dropSign cs = cs := by
  unfold dropSign
  split
  · simp at h
  · rfl

/-! ## Bytes -/

theorem map_toUpper_hexDigits (n : Nat) : (hexDigits n).map Char.toUpper = hexDigits n := by
  rw [hexDigits, List.map_map]
  exact List.map_congr_left fun c _ => toUpper_toUpper c

theorem map_toUpper_hexByte (b : UInt8) : (hexByte b).map Char.toUpper = hexByte b := by
  simp [hexByte, padStart, map_toUpper_hexDigits, List.map_replicate]

theorem length_hexByte (b : UInt8) : (hexByte b).length = 2 := by
  have hlen : (hexDigits b.toNat).length ≤ 2 := by
    rw [hexDigits, List.length_map, Nat.length_toDigits_le_iff (by decide) (by decide)]
    exact b.toNat_lt
  simp only [hexByte, padStart, List.length_append, List.length_replicate]
  omega

theorem natural?_hexByte (b : UInt8) : natural? 16 (hexByte b) = some b.toNat :=
  natural?_hexDigits _ _

/-- Two digits are the byte of their value. -/
theorem hexByte_of_natural? {a b : Char} {n : Nat} (h : natural? 16 [a, b] = some n) :
    [a, b].map Char.toUpper = hexByte (UInt8.ofNat n) := by
  obtain ⟨zeros, hab⟩ := natural?_sixteen_iff.mp h
  have hlen : zeros + (hexDigits n).length = 2 := by
    have := congrArg List.length hab
    simpa [eq_comm] using this
  have hn : n < 16 ^ 2 := by
    rw [← Nat.length_toDigits_le_iff (by decide) (by decide)]
    simp only [hexDigits, List.length_map] at hlen
    omega
  have hbyte : (UInt8.ofNat n).toNat = n := by
    rw [UInt8.toNat_ofNat']
    exact Nat.mod_eq_of_lt hn
  rw [hab, hexByte, hbyte, padStart]
  congr 2
  omega

end CanScope.Text

namespace CanScope.Number.Decimal

open CanScope.Text

/-! ## Decimal literals -/

theorem not_isBlank_of_isDecimalDigit {c : Char} (h : isDecimalDigit c = true) :
    isBlank c = false := by
  have hle : '0' ≤ c ∧ c ≤ '9' := by simpa [isDecimalDigit] using h
  change 48 ≤ c.toNat ∧ c.toNat ≤ 57 at hle
  exact not_isBlank_of_toNat (by omega) (by omega)

theorem not_isBlank_of_mem_takeWhile {cs : List Char} :
    ∀ c ∈ cs.takeWhile isDecimalDigit, isBlank c = false :=
  fun _ hc => not_isBlank_of_isDecimalDigit (List.mem_takeWhile_imp hc)

theorem not_isBlank_of_sign {cs : List Char} (h : ∀ c ∈ (sign cs).2, isBlank c = false) :
    ∀ c ∈ cs, isBlank c = false := by
  unfold sign at h
  split at h
  · exact List.forall_mem_cons.mpr ⟨by decide, h⟩
  · exact List.forall_mem_cons.mpr ⟨by decide, h⟩
  · exact h

theorem not_isBlank_of_exponent? {cs : List Char} {e : Int} (h : exponent? cs = some e) :
    ∀ c ∈ cs, isBlank c = false := by
  obtain ⟨_, hn, -⟩ := Option.map_eq_some_iff.mp h
  obtain ⟨n, hn, -⟩ := Option.bind_eq_some_iff.mp hn
  exact not_isBlank_of_sign fun c hc => not_isBlank_of_digit? (isSome_digit?_of_natural? hn c hc)

theorem not_isBlank_of_exponentPart? {cs : List Char} {e : Int} (h : exponentPart? cs = some e) :
    ∀ c ∈ cs, isBlank c = false := by
  cases cs with
  | nil => simp
  | cons c cs =>
    rw [exponentPart?] at h
    split at h
    · next hletter =>
      refine List.forall_mem_cons.mpr ⟨?_, not_isBlank_of_exponent? h⟩
      rcases hletter with rfl | rfl <;> decide
    · contradiction

theorem not_isBlank_of_number? {negative : Bool} {cs : List Char} {d : Decimal}
    (h : number? negative cs = some d) : ∀ c ∈ cs, isBlank c = false := by
  suffices hrest : ∀ c ∈ cs.dropWhile isDecimalDigit, isBlank c = false by
    rw [← List.takeWhile_append_dropWhile (p := isDecimalDigit) (l := cs)]
    exact List.forall_mem_append.mpr ⟨not_isBlank_of_mem_takeWhile, hrest⟩
  obtain ⟨_, -, h⟩ := Option.bind_eq_some_iff.mp h
  obtain ⟨_, he, -⟩ := Option.map_eq_some_iff.mp h
  have hpart := not_isBlank_of_exponentPart? he
  split at hpart
  · next more hdrop =>
    rw [hdrop, ← List.takeWhile_append_dropWhile (p := isDecimalDigit) (l := more)]
    exact List.forall_mem_cons.mpr
      ⟨by decide, List.forall_mem_append.mpr ⟨not_isBlank_of_mem_takeWhile, hpart⟩⟩
  · exact hpart

theorem not_isBlank_of_toLower {c : Char} (h : 97 ≤ c.toLower.toNat ∧ c.toLower.toNat ≤ 122) :
    isBlank c = false := by
  rw [toNat_toLower] at h
  split at h <;> exact not_isBlank_of_toNat (by omega) (by omega)

theorem not_isBlank_of_word? {negative : Bool} {cs : List Char} {d : Decimal}
    (h : word? negative cs = some d) : ∀ c ∈ cs, isBlank c = false := by
  suffices hletters : ∀ l ∈ cs.map Char.toLower, 97 ≤ l.toNat ∧ l.toNat ≤ 122 from
    fun c hc => not_isBlank_of_toLower (hletters _ (List.mem_map_of_mem hc))
  simp only [word?] at h
  split at h
  · next hword => rcases hword with hword | hword <;> simp [hword]
  · split at h
    · next hword => simp [hword]
    · contradiction

/-- What reads as a number has no blank in it. -/
theorem not_isBlank_of_read? {cs : List Char} {d : Decimal} (h : read? cs = some d) :
    ∀ c ∈ cs, isBlank c = false := by
  apply not_isBlank_of_sign
  rcases Option.or_eq_some_iff.mp h with h | ⟨-, h⟩
  · exact not_isBlank_of_number? h
  · exact not_isBlank_of_word? h

end CanScope.Number.Decimal
