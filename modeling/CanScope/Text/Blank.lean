/-!
# Blank characters, and cutting text at them

A blank is a character with the Unicode property `White_Space`: the ASCII blanks, the next-line
control, the no-break space, and the space, line and paragraph separators. Zero-width characters
and the ASCII information separators are not blank.

* `trim`: the text without the blanks at both ends.
* `pieces`: what stands between separators; joining the pieces with separators gives the text back.
* `fields`: the maximal runs of characters that are not blank.
* `lines`: what stands between line feeds, each without one carriage return before its line feed.
-/
namespace CanScope.Text

/-- The code points with the property `White_Space`, as closed ranges in ascending order. -/
def blankRanges : List (Nat × Nat) :=
  [(0x09, 0x0D), (0x20, 0x20), (0x85, 0x85), (0xA0, 0xA0), (0x1680, 0x1680), (0x2000, 0x200A),
   (0x2028, 0x2029), (0x202F, 0x202F), (0x205F, 0x205F), (0x3000, 0x3000)]

def isBlank (c : Char) : Bool := blankRanges.any fun r => r.1 ≤ c.toNat && c.toNat ≤ r.2

def trimStart (cs : List Char) : List Char := cs.dropWhile isBlank

def trimEnd (cs : List Char) : List Char := (cs.reverse.dropWhile isBlank).reverse

def trim (cs : List Char) : List Char := trimEnd (trimStart cs)

/-- What stands between the characters that satisfy `sep`; a text without one is a single piece. -/
def pieces (sep : Char → Bool) : List Char → List (List Char)
  | [] => [[]]
  | c :: rest =>
    if sep c then [] :: pieces sep rest
    else
      match pieces sep rest with
      | [] => [[c]]
      | piece :: more => (c :: piece) :: more

@[simp] theorem pieces_nil (sep : Char → Bool) : pieces sep [] = [[]] := rfl

theorem pieces_ne_nil (sep : Char → Bool) (cs : List Char) : pieces sep cs ≠ [] := by
  cases cs with
  | nil => simp
  | cons c rest =>
    unfold pieces
    split
    · simp
    · split <;> simp

theorem not_sep_of_mem_pieces (sep : Char → Bool) (cs : List Char) :
    ∀ piece ∈ pieces sep cs, ∀ c ∈ piece, sep c = false := by
  induction cs with
  | nil => simp
  | cons d rest ih =>
    unfold pieces
    split
    · intro piece hp
      rcases List.mem_cons.mp hp with rfl | hp
      · simp
      · exact ih piece hp
    · rename_i hd
      split
      · rename_i h
        exact absurd h (pieces_ne_nil sep rest)
      · rename_i first more h
        rw [h] at ih
        intro piece hp c hc
        rcases List.mem_cons.mp hp with rfl | hp
        · rcases List.mem_cons.mp hc with rfl | hc
          · simpa using hd
          · exact ih first List.mem_cons_self c hc
        · exact ih piece (List.mem_cons_of_mem _ hp) c hc

def fields (cs : List Char) : List (List Char) := (pieces isBlank cs).filter (!·.isEmpty)

/-- A carriage return at the end belongs to the line feed after it. -/
def dropReturn (line : List Char) : List Char :=
  if line.getLast? = some '\r' then line.dropLast else line

/-- The last piece has no line feed behind it: it is a line only if it holds something, and it
keeps a carriage return. -/
def lines (cs : List Char) : List (List Char) :=
  let parts := pieces (· == '\n') cs
  parts.dropLast.map dropReturn ++ (parts.getLast?.toList.filter (!·.isEmpty))

end CanScope.Text
