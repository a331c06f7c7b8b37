import CanScope.Capture.Line
import CanScope.Proofs.Time.Seconds

/-!
# The times of a capture keep their order

A time stands in parentheses, as many as there are, and the number in them is read in floating point. The
numbers of a capture have six digits behind the point, and today's are so large that neighbouring floating
point numbers are a quarter of a microsecond apart. Two roundings could then bring two times together, or
change their places.

They do neither (`times_in_order`). No rounding changes the order of any two plain numbers, whatever their
digits. And below `2 ^ 32` seconds, a count that lasts until the year 2106, what is lost of a time is less
than half a microsecond, so times written with six digits are told apart.
-/
namespace CanScope.Capture

open CanScope.Number

/-- A field that shows a number, with any parentheses around it. -/
def Shows (p : PlainDecimal) (field : List Char) : Prop :=
  ∃ opens closes, field = List.replicate opens '(' ++ p.text ++ List.replicate closes ')'

/-- A number of seconds with six digits behind the point, below `2 ^ 32`. -/
structure IsMicros (p : PlainDecimal) : Prop where
  six : p.fraction.length = 6
  small : p.value < 2 ^ 32

theorem dropWhile_replicate_append {c : Char} (n : Nat) {body : List Char} (h : c ∉ body) :
    (List.replicate n c ++ body).dropWhile (· == c) = body := by
  refine (Text.split_run (by simp +contextual) fun d hd => ?_).2
  have hne : d ≠ c := fun heq => h (heq ▸ List.mem_of_mem_head? hd)
  simpa using hne

theorem timeBody_enclosed {body : List Char} (hopen : '(' ∉ body) (hclose : ')' ∉ body)
    (opens closes : Nat) :
    timeBody (List.replicate opens '(' ++ body ++ List.replicate closes ')') = body := by
  have hfront : '(' ∉ body ++ List.replicate closes ')' := by simp [hopen]
  rw [timeBody, List.append_assoc, dropWhile_replicate_append opens hfront, List.reverse_append,
    List.reverse_replicate, dropWhile_replicate_append closes (by simpa using hclose),
    List.reverse_reverse]

theorem Shows.timeBody_eq {p : PlainDecimal} {field : List Char} (h : Shows p field) :
    timeBody field = p.text := by
  obtain ⟨opens, closes, rfl⟩ := h
  apply timeBody_enclosed
  · intro hopen
    have hdigit := PlainDecimal.mem_text hopen
    simp [Text.isDecimalDigit] at hdigit
  · intro hclose
    have hdigit := PlainDecimal.mem_text hclose
    simp [Text.isDecimalDigit] at hdigit

theorem Shows.time?_eq_ok_iff {p : PlainDecimal} {field : List Char} (h : Shows p field) (s : Span) :
    time? field = .ok s ↔ Span.ofSecondsText? p.text = some s := by
  rw [time?, h.timeBody_eq]
  cases Span.ofSecondsText? p.text <;> simp

/-- Times that lie less than half a microsecond from values a microsecond apart are in the order of
these. -/
theorem lt_of_close {s t : Span} {v w : ℚ} (hs : |(s.nanos : ℚ) - v * 10 ^ 9| < 500)
    (ht : |(t.nanos : ℚ) - w * 10 ^ 9| < 500) (h : v + 1 / 10 ^ 6 ≤ w) : s < t := by
  rw [abs_lt] at hs ht
  have hlt : (s.nanos : ℚ) < t.nanos := by linarith
  rw [Span.lt_def]
  exact_mod_cast hlt

/-- **The times of a capture keep their order and their microseconds.** Of two plain numbers the greater is
never read as an earlier time. With six digits behind the point and below `2 ^ 32`, a number is accepted and
read to within 500 ns, and so different numbers are read as different times. -/
theorem times_in_order {p q : PlainDecimal} {first second : List Char} (hp : Shows p first)
    (hq : Shows q second) :
    (p.value ≤ q.value → ∀ s t, time? first = .ok s → time? second = .ok t → s ≤ t) ∧
      (IsMicros p → ∃ s, time? first = .ok s ∧ |(s.nanos : ℚ) - p.value * 10 ^ 9| < 500) ∧
      (IsMicros p → IsMicros q → p.value < q.value →
        ∃ s t, time? first = .ok s ∧ time? second = .ok t ∧ s < t) := by
  simp only [hp.time?_eq_ok_iff, hq.time?_eq_ok_iff]
  refine ⟨?_, ?_, ?_⟩
  · intro hle s t hs ht
    obtain ⟨s', hs', hst⟩ := Span.ofSecondsText?_mono hle ht
    obtain rfl := Option.some.inj (hs.symm.trans hs')
    exact hst
  · intro hmicros
    exact Span.ofSecondsText?_close hmicros.small
  · intro hpm hqm hlt
    obtain ⟨s, hs, hclose⟩ := Span.ofSecondsText?_close hpm.small
    obtain ⟨t, ht, hclose'⟩ := Span.ofSecondsText?_close hqm.small
    exact ⟨s, t, hs, ht, lt_of_close hclose hclose' (PlainDecimal.value_add_unit_le hpm.six hqm.six hlt)⟩

/-- A second of the year 2015, and the digits behind the point. -/
def stamp (micros : List (Fin 10)) : PlainDecimal :=
  ⟨[1, 4, 3, 6, 5, 0, 9, 0, 5, 2], some micros, by simp⟩

theorem times_in_order_neighbours :
    let p := stamp [2, 4, 9, 7, 1, 3]
    let q := stamp [2, 4, 9, 7, 1, 4]
    Shows p "(1436509052.249713)".toList ∧ Shows q "(1436509052.249714)".toList ∧
      IsMicros p ∧ IsMicros q ∧ p.value < q.value ∧
      ∃ s t, time? "(1436509052.249713)".toList = .ok s ∧
        time? "(1436509052.249714)".toList = .ok t ∧ s < t := by
  intro p q
  have first : Shows p "(1436509052.249713)".toList := ⟨1, 1, by decide⟩
  have second : Shows q "(1436509052.249714)".toList := ⟨1, 1, by decide⟩
  have earlier : p.value = 1436509052249713 / 10 ^ 6 := rfl
  have later : q.value = 1436509052249714 / 10 ^ 6 := rfl
  have hp : IsMicros p := ⟨rfl, by rw [earlier]; norm_num⟩
  have hq : IsMicros q := ⟨rfl, by rw [later]; norm_num⟩
  have order : p.value < q.value := by rw [earlier, later]; norm_num
  exact ⟨first, second, hp, hq, order, (times_in_order first second).2.2 hp hq order⟩

end CanScope.Capture
