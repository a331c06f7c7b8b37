import CanScope.Proofs.Text.Fields
import Mathlib.Data.List.TakeWhile

/-!
# Lines that end in a carriage return

A text may come from a system that ends lines with two characters. `withReturns` is such a text with the
same lines. Each line but the last then carries a return, which is a blank, and `lines` takes one of them
off; either way the line is the same once it is trimmed.

**Results.**
* `trim_append_blanks`, `trim_eq_nil_iff`: blanks at the end of a text do not show once it is trimmed, and
  nothing is left of blanks alone.
* `trimmed_lines_withReturns`: nor do the returns.
-/
namespace CanScope.Text

/-- The text with a carriage return in front of every line feed. -/
def withReturns (text : List Char) : List Char :=
  text.flatMap fun c => if c = '\n' then ['\r', '\n'] else [c]

theorem trimEnd_append_blanks {back : List Char} (h : Blanks back) (cs : List Char) :
    trimEnd (cs ++ back) = trimEnd cs := by
  rw [trimEnd, List.reverse_append, List.dropWhile_append_of_pos (by simpa [Blanks] using h), trimEnd]

theorem trim_append_blanks {back : List Char} (h : Blanks back) (cs : List Char) :
    trim (cs ++ back) = trim cs := by
  rw [trim, trim, trimStart, List.dropWhile_append]
  split
  · next hall =>
    have hnone : trimStart cs = [] := List.isEmpty_iff.mp hall
    have hback : back.dropWhile isBlank = [] := List.dropWhile_eq_nil_iff.mpr h
    rw [hnone, hback]
  · exact trimEnd_append_blanks h _

theorem trim_dropReturn (line : List Char) : trim (dropReturn line) = trim line := by
  unfold dropReturn
  split
  · next hlast =>
    obtain ⟨line, rfl⟩ := List.getLast?_eq_some_iff.mp hlast
    rw [List.dropLast_concat, trim_append_blanks (by decide)]
  · rfl

theorem trim_eq_nil_iff (cs : List Char) : trim cs = [] ↔ Blanks cs := by
  have hend : trim cs = [] ↔ Blanks (trimStart cs) := by
    simp [trim, trimEnd, List.dropWhile_eq_nil_iff, Blanks]
  rw [hend]
  refine ⟨fun h c hc => ?_, fun h c hc => h c ((List.dropWhile_suffix isBlank).subset hc)⟩
  rw [← List.takeWhile_append_dropWhile (p := isBlank) (l := cs), List.mem_append] at hc
  rcases hc with hc | hc
  · exact List.mem_takeWhile_imp hc
  · exact h c hc

/-! ## The pieces of a line -/

/-- Every piece but the last gets a return at its end. -/
theorem pieces_withReturns (text : List Char) :
    pieces (· == '\n') (withReturns text) =
      (pieces (· == '\n') text).dropLast.map (· ++ ['\r']) ++
        (pieces (· == '\n') text).getLast?.toList := by
  induction text with
  | nil => rfl
  | cons c rest ih =>
    obtain ⟨first, more, hrest⟩ := List.exists_cons_of_ne_nil (pieces_ne_nil (· == '\n') rest)
    rw [hrest] at ih
    by_cases hc : c = '\n'
    · subst hc
      have hcut : withReturns ('\n' :: rest) = '\r' :: '\n' :: withReturns rest := by
        simp [withReturns]
      simp [hcut, pieces, ih, hrest]
    · have hkeep : withReturns (c :: rest) = c :: withReturns rest := by simp [withReturns, hc]
      rw [hkeep]
      cases more with
      | nil => simp_all [pieces]
      | cons second more => simp_all [pieces]

theorem map_trim_lines (text : List Char) :
    (lines text).map trim = (pieces (· == '\n') text).dropLast.map trim ++
      ((pieces (· == '\n') text).getLast?.toList.filter (!·.isEmpty)).map trim := by
  simp [lines, Function.comp_def, trim_dropReturn]

theorem trimmed_lines_withReturns (text : List Char) :
    (lines (withReturns text)).map trim = (lines text).map trim := by
  have hne := pieces_ne_nil (· == '\n') text
  rw [map_trim_lines, map_trim_lines, pieces_withReturns, List.getLast?_eq_some_getLast hne]
  simp [Function.comp_def, trim_append_blanks (by decide : Blanks ['\r'])]

end CanScope.Text
