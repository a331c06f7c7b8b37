import CanScope.Text.Digits
import CanScope.Toml.Blank
import CanScope.Toml.Value

/-!
# Text between quotes in TOML

Double quotes allow escapes behind a backslash, single quotes take everything as it stands. Tripled
quotes of either kind enclose several lines: the line end right behind the opening quotes does not
count, every line end becomes a line feed, and one or two more quotes may stand at the end. Between
tripled double quotes a backslash at the end of a line swallows all blanks and line ends after it.
-/
namespace CanScope.Toml

/-- A character given by `count` hexadecimal digits. -/
def codePoint? (count : Nat) (cs : List Char) : Option (Char × List Char) :=
  let digits := cs.take count
  if digits.length = count then
    (CanScope.Text.natural? 16 digits).bind fun n =>
      if n.isValidChar then some (Char.ofNat n, cs.drop count) else none
  else none

/-- The character that an escape stands for, given what follows the backslash. -/
def escape? : List Char → Option (Char × List Char)
  | 'b' :: rest => some ('\x08', rest)
  | 't' :: rest => some ('\t', rest)
  | 'n' :: rest => some ('\n', rest)
  | 'f' :: rest => some ('\x0c', rest)
  | 'r' :: rest => some ('\r', rest)
  | '"' :: rest => some ('"', rest)
  | '\\' :: rest => some ('\\', rest)
  | 'u' :: rest => codePoint? 4 rest
  | 'U' :: rest => codePoint? 8 rest
  | _ => none

/-- Puts a character in front of what is read after it. -/
def push (c : Char) (read : Option (List Char × List Char)) : Option (List Char × List Char) :=
  read.map fun r => (c :: r.1, r.2)

theorem length_escape?_le {cs rest : List Char} {c : Char} (h : escape? cs = some (c, rest)) :
    rest.length ≤ cs.length := by
  have point (n : Nat) (t : List Char) (h : codePoint? n t = some (c, rest)) :
      rest.length ≤ t.length := by
    simp only [codePoint?] at h
    split at h
    · obtain ⟨m, _, h⟩ := Option.bind_eq_some_iff.1 h
      split at h
      · injection h with h
        injection h with _ h
        subst h
        simp
      · cases h
    · cases h
  unfold escape? at h
  split at h
  case h_8 t => have := point 4 t h; simp only [List.length_cons]; omega
  case h_9 t => have := point 8 t h; simp only [List.length_cons]; omega
  case h_10 => cases h
  all_goals (injection h with h; injection h with _ h; subst h; simp)

def basicBody (cs : List Char) : Option (List Char × List Char) :=
  match cs with
  | [] => none
  | '"' :: rest => some ([], rest)
  | '\\' :: rest =>
    match h : escape? rest with
    | some (c, rest') =>
      have := length_escape?_le h
      push c (basicBody rest')
    | none => none
  | c :: rest => if isContent c then push c (basicBody rest) else none
termination_by cs.length

def literalBody (cs : List Char) : Option (List Char × List Char) :=
  let body := cs.takeWhile fun c => isContent c && c != '\''
  match cs.drop body.length with
  | '\'' :: rest => some (body, rest)
  | _ => none

/-- What a closing run of three quotes or more holds: up to two quotes of text. -/
def closing (quote : Char) : List Char → List Char × List Char
  | a :: b :: rest =>
    if a = quote then if b = quote then ([a, b], rest) else ([a], b :: rest) else ([], a :: b :: rest)
  | [a] => if a = quote then ([a], []) else ([], [a])
  | [] => ([], [])

/-- What follows a backslash that ends its line, without the blanks and line ends after it. -/
def continued? (cs : List Char) : Option (List Char) := (newline? (skipSpaces cs)).map skipBlankLines

theorem length_continued?_le {cs rest : List Char} (h : continued? cs = some rest) :
    rest.length ≤ cs.length := by
  simp only [continued?, Option.map_eq_some_iff] at h
  obtain ⟨r, hr, rfl⟩ := h
  have h1 := length_newline?_lt hr
  have h2 := length_dropWhile_le isSpace cs
  have h3 := length_skipBlankLines_le r
  exact Nat.le_trans h3 (Nat.le_of_lt (Nat.lt_of_lt_of_le h1 h2))

def linesBody (cs : List Char) : Option (List Char × List Char) :=
  match cs with
  | [] => none
  | '"' :: '"' :: '"' :: rest => some (closing '"' rest)
  | '\\' :: rest =>
    match h : continued? rest with
    | some rest' =>
      have := length_continued?_le h
      linesBody rest'
    | none =>
      match h' : escape? rest with
      | some (c, rest') =>
        have := length_escape?_le h'
        push c (linesBody rest')
      | none => none
  | '\r' :: '\n' :: rest => push '\n' (linesBody rest)
  | c :: rest => if isContent c || c == '\n' then push c (linesBody rest) else none
termination_by cs.length

def literalLinesBody : List Char → Option (List Char × List Char)
  | [] => none
  | '\'' :: '\'' :: '\'' :: rest => some (closing '\'' rest)
  | '\r' :: '\n' :: rest => push '\n' (literalLinesBody rest)
  | c :: rest => if isContent c || c == '\n' then push c (literalLinesBody rest) else none

/-- The line end right behind opening quotes does not count. -/
def skipFirst (cs : List Char) : List Char := (newline? cs).getD cs

def text? : Reader (List Char)
  | '"' :: '"' :: '"' :: rest => linesBody (skipFirst rest)
  | '\'' :: '\'' :: '\'' :: rest => literalLinesBody (skipFirst rest)
  | '"' :: rest => basicBody rest
  | '\'' :: rest => literalBody rest
  | _ => none

end CanScope.Toml
