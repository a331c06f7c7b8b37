import CanScope.Proofs.Number.Binary
import CanScope.Proofs.Text.Digits
import CanScope.Time.Seconds
import Mathlib.Data.Nat.Digits.Defs

/-!
# Seconds as they are written

A `PlainDecimal` is what a clock writes: digits, and digits behind a point. Its `value` is the rational it
stands for. What `ofSecondsText?` makes of its text is that value rounded twice, to 64 bits of floating
point and to nanoseconds (`ofSecondsText?_spec`). Both roundings keep the order, so their sequence does.

How far the two move a value depends on its size. Below `2 ^ 32` seconds the floating point numbers are at
most `2 ^ -21` seconds apart, which is less than half a microsecond; half of that and half a nanosecond
are what can be lost (`ofSecondsText?_close`). So values a microsecond apart stay apart.

**Results.**
* `PlainDecimal.read?_text`: the digits are read exactly.
* `ofSecondsText?_mono`: an earlier value gives an earlier time, and is accepted if the later one is.
* `ofSecondsText?_close`: below `2 ^ 32` seconds all values are accepted, with less than 500 ns lost.
-/
namespace CanScope.Number

open CanScope.Text

/-- The characters of some digits. -/
def spell (ds : List (Fin 10)) : List Char := ds.map fun d : Fin 10 => Nat.digitChar d

@[simp] theorem spell_nil : spell [] = [] := rfl

@[simp] theorem spell_append (ds es : List (Fin 10)) : spell (ds ++ es) = spell ds ++ spell es :=
  List.map_append

@[simp] theorem length_spell (ds : List (Fin 10)) : (spell ds).length = ds.length :=
  List.length_map _

/-- A number as it is written without sign and exponent: digits, and behind a point, if there is one, more
digits. One side of the point may be empty. -/
structure PlainDecimal where
  whole : List (Fin 10)
  fraction? : Option (List (Fin 10))
  written : whole ++ fraction?.getD [] ≠ []

namespace PlainDecimal

def fraction (p : PlainDecimal) : List (Fin 10) := p.fraction?.getD []

def digits (p : PlainDecimal) : List (Fin 10) := p.whole ++ p.fraction

def text (p : PlainDecimal) : List Char :=
  spell p.whole ++ (p.fraction?.map fun ds => '.' :: spell ds).getD []

/-- The number that all digits spell, were there no point. -/
def number (p : PlainDecimal) : Nat := Nat.ofDigits 10 (p.digits.map Fin.val).reverse

def value (p : PlainDecimal) : ℚ := p.number / 10 ^ p.fraction.length

theorem value_nonneg (p : PlainDecimal) : 0 ≤ p.value := by
  rw [value]
  positivity

/-- Of two different numbers with equally many digits behind the point, the greater is ahead by one unit of
the last digit. -/
theorem value_add_unit_le {p q : PlainDecimal} {places : Nat} (hp : p.fraction.length = places)
    (hq : q.fraction.length = places) (h : p.value < q.value) : p.value + 1 / 10 ^ places ≤ q.value := by
  rw [value, value, hp, hq] at h ⊢
  have hlt : p.number < q.number := by
    rw [div_lt_div_iff_of_pos_right (by positivity)] at h
    exact_mod_cast h
  rw [← add_div, div_le_div_iff_of_pos_right (by positivity)]
  exact_mod_cast hlt

end PlainDecimal

/-! ## The digits are read -/

theorem isDecimalDigit_digitChar (d : Fin 10) : isDecimalDigit (Nat.digitChar d) = true := by
  revert d
  decide

theorem isDecimalDigit_of_mem_spell (ds : List (Fin 10)) : ∀ c ∈ spell ds, isDecimalDigit c = true := by
  intro c hc
  obtain ⟨d, -, rfl⟩ := List.mem_map.mp hc
  exact isDecimalDigit_digitChar d

theorem digitsFrom?_spell (ds : List (Fin 10)) :
    digitsFrom? 10 0 (spell ds) = some (Nat.ofDigits 10 (ds.map Fin.val).reverse) := by
  induction ds using List.reverseRecOn with
  | nil => rfl
  | append_singleton ds d ih =>
    rw [spell_append, digitsFrom?_append, ih]
    simp [spell, digitsFrom?, digit?_digitChar d.isLt, Nat.ofDigits_cons, Nat.add_comm, Nat.mul_comm]

namespace PlainDecimal

theorem natural?_digits (p : PlainDecimal) : natural? 10 (spell p.digits) = some p.number := by
  have hne : spell p.digits ≠ [] := by
    rw [spell, Ne, List.map_eq_nil_iff]
    exact p.written
  rw [natural?_of_ne_nil hne, digitsFrom?_spell, number]

theorem number?_text (p : PlainDecimal) :
    Decimal.number? false p.text = some (.finite false p.number (-p.fraction.length)) := by
  have hread : natural? 10 (spell p.whole ++ spell p.fraction) = some p.number := by
    rw [← spell_append]
    exact p.natural?_digits
  have hnothing : ∀ c ∈ ([] : List Char).head?, isDecimalDigit c = false := by simp
  cases hfraction : p.fraction? with
  | none =>
    have htext : p.text = spell p.whole ++ [] := by rw [text, hfraction]; rfl
    have hnone : p.fraction = [] := by rw [fraction, hfraction]; rfl
    obtain ⟨htake, hdrop⟩ := split_run (isDecimalDigit_of_mem_spell p.whole) hnothing
    rw [hnone, spell_nil] at hread
    simp only [Decimal.number?, htext, htake, hdrop, hread]
    simp [hnone, Decimal.exponentPart?]
  | some ds =>
    have htext : p.text = spell p.whole ++ '.' :: spell ds := by rw [text, hfraction]; rfl
    have hsome : p.fraction = ds := by rw [fraction, hfraction]; rfl
    have hpoint : ∀ c ∈ ('.' :: spell ds).head?, isDecimalDigit c = false := by simp [isDecimalDigit]
    obtain ⟨htake, hdrop⟩ := split_run (isDecimalDigit_of_mem_spell p.whole) hpoint
    obtain ⟨htake', hdrop'⟩ := split_run (isDecimalDigit_of_mem_spell ds) hnothing
    rw [List.append_nil] at htake' hdrop'
    rw [hsome] at hread
    simp only [Decimal.number?, htext, htake, hdrop, htake', hdrop', hread]
    simp [hsome, Decimal.exponentPart?]

/-- Every character is a digit or the point. -/
theorem mem_text {p : PlainDecimal} {c : Char} (hc : c ∈ p.text) : c = '.' ∨ isDecimalDigit c = true := by
  rw [text, List.mem_append] at hc
  rcases hc with hc | hc
  · exact .inr (isDecimalDigit_of_mem_spell _ c hc)
  · cases hfraction : p.fraction? with
    | none => simp [hfraction] at hc
    | some ds =>
      rw [hfraction] at hc
      rcases List.mem_cons.mp hc with rfl | hc
      · exact .inl rfl
      · exact .inr (isDecimalDigit_of_mem_spell _ c hc)

theorem read?_text (p : PlainDecimal) :
    Decimal.read? p.text = some (.finite false p.number (-p.fraction.length)) := by
  have hsign : Decimal.sign p.text = (false, p.text) := by
    unfold Decimal.sign
    split
    · next rest htext =>
      have hminus := mem_text (p := p) (c := '-') (by simp [htext])
      simp [isDecimalDigit] at hminus
    · next rest htext =>
      have hplus := mem_text (p := p) (c := '+') (by simp [htext])
      simp [isDecimalDigit] at hplus
    · rfl
  rw [Decimal.read?, hsign]
  simp [number?_text]

end PlainDecimal

end CanScope.Number

namespace CanScope.Span

open CanScope.Number

/-! ## The two roundings -/

theorem ofMagnitude?_spec (m : Magnitude) :
    ∃ s : Span, IsNearest (m.value * 10 ^ 9) s.nanos ∧
      ofMagnitude? m = if m.value < 2 ^ 64 then some s else none := by
  refine ⟨⟨nearest (m.num * perSecond) m.den⟩, ?_, ?_⟩
  · have hnearest := isNearest_nearest (m.num * perSecond) m.den_pos
    rw [Nat.cast_mul, mul_div_right_comm, ← m.value_eq_div] at hnearest
    have hsecond : ((perSecond : Nat) : ℚ) = 10 ^ 9 := by norm_num [perSecond]
    rwa [hsecond] at hnearest
  · simp only [ofMagnitude?, m.value_lt_iff]

/-- **What a plain decimal is read as.** The value is rounded to a floating point number, and that to
nanoseconds; only what does not fit is refused. -/
theorem ofSecondsText?_spec (p : PlainDecimal) :
    ∃ (x : ℚ) (s : Span), Format.binary64.Rounds p.value x ∧ IsNearest (x * 10 ^ 9) s.nanos ∧
      ofSecondsText? p.text = if x < 2 ^ 64 then some s else none := by
  obtain ⟨m, hm, hdecimal⟩ :=
    Format.ofDecimal_spec (f := .binary64) (by decide) p.number (-p.fraction.length)
  obtain ⟨s, hs, hseconds⟩ := ofMagnitude?_spec m
  refine ⟨m.value, s, ?_, hs, ?_⟩
  · rw [PlainDecimal.value, div_eq_mul_inv, ← zpow_natCast, ← zpow_neg]
    exact hm
  · rw [ofSecondsText?, p.read?_text, Option.bind_some, ofDecimal?, hdecimal]
    by_cases hrange : m.value < 2 ^ Format.binary64.top
    · simpa [hrange] using hseconds
    · have hlarge : (2 : ℚ) ^ 64 ≤ m.value :=
        (pow_le_pow_right₀ (by norm_num) (by decide)).trans (not_lt.mp hrange)
      simp [hrange, not_lt.mpr hlarge]

/-- **Reading keeps the order**, and what lies before something that is accepted is accepted. -/
theorem ofSecondsText?_mono {p q : PlainDecimal} (h : p.value ≤ q.value) {t : Span}
    (ht : ofSecondsText? q.text = some t) : ∃ s, ofSecondsText? p.text = some s ∧ s ≤ t := by
  obtain ⟨x, s, hx, hs, hp⟩ := ofSecondsText?_spec p
  obtain ⟨y, t', hy, ht', hq⟩ := ofSecondsText?_spec q
  have hxy : x ≤ y := hx.mono hy p.value_nonneg h
  rw [hq, Option.ite_none_right_eq_some] at ht
  obtain ⟨hlt, ht⟩ := ht
  obtain rfl := Option.some.inj ht
  refine ⟨s, ?_, hs.mono ht' (by gcongr)⟩
  rw [hp, if_pos (hxy.trans_lt hlt)]

/-- Below `2 ^ 32` the unit of rounding is at most `2 ^ -21`. -/
theorem place_le {v : ℚ} (hv : 0 ≤ v) (h : v < 2 ^ 32) : Format.binary64.place v ≤ -21 := by
  have hlog : Int.log 2 v < 32 := by
    rcases hv.eq_or_lt with rfl | hv
    · simp
    · rw [← Int.lt_zpow_iff_log_lt (by norm_num) hv]
      exact_mod_cast h
  simp only [Format.place, Format.binary64]
  omega

/-- **Below `2 ^ 32` seconds reading loses less than 500 ns.** -/
theorem ofSecondsText?_close {p : PlainDecimal} (h : p.value < 2 ^ 32) :
    ∃ s, ofSecondsText? p.text = some s ∧ |(s.nanos : ℚ) - p.value * 10 ^ 9| < 500 := by
  obtain ⟨x, s, hx, hs, hp⟩ := ofSecondsText?_spec p
  have hfloat : |x - p.value| ≤ 1 / 2 ^ 22 := by
    calc |x - p.value| ≤ 2 ^ Format.binary64.place p.value / 2 := hx.error
      _ ≤ 2 ^ (-21 : Int) / 2 := by
          gcongr
          · norm_num
          · exact place_le p.value_nonneg h
      _ = 1 / 2 ^ 22 := by norm_num
  have hnanos := hs.close
  rw [abs_le] at hfloat hnanos
  refine ⟨s, ?_, ?_⟩
  · rw [hp, if_pos]
    linarith
  · rw [abs_lt]
    constructor <;> linarith

end CanScope.Span
