/-!
# Blanks, comments and line ends in TOML

Blanks are spaces and tabs. A comment runs from a hash to the end of its line and holds no control
characters but tabs. A line ends with a line feed, which a carriage return may precede, or with the
text; a carriage return elsewhere is refused.
-/
namespace CanScope.Toml

def isSpace (c : Char) : Bool := c == ' ' || c == '\t'

def skipSpaces (cs : List Char) : List Char := cs.dropWhile isSpace

/-- Whether a character may stand in a comment or between quotes: no ASCII control but the tab. -/
def isContent (c : Char) : Bool := c == '\t' || (' ' ≤ c && c ≠ '\x7f')

/-- What follows a line end. -/
def newline? : List Char → Option (List Char)
  | '\n' :: rest => some rest
  | '\r' :: '\n' :: rest => some rest
  | _ => none

def skipComment : List Char → List Char
  | '#' :: rest => rest.dropWhile isContent
  | cs => cs

/-- What follows the rest of a line on which nothing but blanks and a comment stands. -/
def endLine? (cs : List Char) : Option (List Char) :=
  match skipComment (skipSpaces cs) with
  | [] => some []
  | rest => newline? rest

theorem length_dropWhile_le (p : Char → Bool) (cs : List Char) :
    (cs.dropWhile p).length ≤ cs.length := by
  induction cs with
  | nil => simp
  | cons c rest ih => by_cases h : p c <;> simp [h]; omega

theorem length_skipComment_le (cs : List Char) : (skipComment cs).length ≤ cs.length := by
  unfold skipComment
  split
  · rename_i rest
    have := length_dropWhile_le isContent rest
    simp only [List.length_cons]; omega
  · exact Nat.le_refl _

theorem length_newline?_lt {cs rest : List Char} (h : newline? cs = some rest) :
    rest.length < cs.length := by
  unfold newline? at h
  split at h
  · injection h with h; subst h; exact Nat.lt_succ_self _
  · injection h with h; subst h; exact Nat.lt_succ_of_lt (Nat.lt_succ_self _)
  · cases h

theorem length_newline?_lt_of_le {cs inner rest : List Char} (h : newline? inner = some rest)
    (hi : inner.length ≤ cs.length) : rest.length < cs.length :=
  Nat.lt_of_lt_of_le (length_newline?_lt h) hi

/-- Skips blanks, comments and line ends. -/
def skipLines (cs : List Char) : List Char :=
  match h : newline? (skipComment (skipSpaces cs)) with
  | some rest =>
    have := length_newline?_lt_of_le h
      (Nat.le_trans (length_skipComment_le _) (length_dropWhile_le isSpace cs))
    skipLines rest
  | none => skipSpaces cs
termination_by cs.length

/-- Skips blanks and line ends. -/
def skipBlankLines (cs : List Char) : List Char :=
  match h : newline? (skipSpaces cs) with
  | some rest =>
    have := length_newline?_lt_of_le h (length_dropWhile_le isSpace cs)
    skipBlankLines rest
  | none => skipSpaces cs
termination_by cs.length

theorem length_skipBlankLines_le (cs : List Char) : (skipBlankLines cs).length ≤ cs.length := by
  fun_induction skipBlankLines cs with
  | case1 cs rest h _ ih =>
    exact Nat.le_trans ih
      (Nat.le_of_lt (length_newline?_lt_of_le h (length_dropWhile_le isSpace cs)))
  | case2 cs h => exact length_dropWhile_le isSpace cs

end CanScope.Toml
