import CanScope.Screen.Snapshot

/-!
# The text surface

A heading with the count, the column titles, and a line for each row. With escape sequences the
headings and the rows that are not fresh are coloured; without them such rows carry a suffix.
-/
namespace CanScope

def heading : String := "CAN Debug"

def columnTitles : String := "Bus  Addr     Data"

/-- How a text surface tells styles apart. -/
structure TextStyle where
  /-- By ANSI colours instead of suffixes. -/
  ansi : Bool
  deriving DecidableEq, Repr

namespace TextStyle

def reset : String := "\x1b[0m"

def title (style : TextStyle) (text : String) : String :=
  if style.ansi then "\x1b[96m" ++ text ++ reset else text

/-- A row's line, marked with its style. -/
def mark (style : TextStyle) (line : String) : Style → String
  | .fresh => line
  | .stale => if style.ansi then "\x1b[90m" ++ line ++ reset else line ++ "  (stale)"
  | .invalid => if style.ansi then "\x1b[91m" ++ line ++ reset else line ++ "  (invalid)"

/-- Clears the screen and moves to its upper left corner. -/
def clearScreen (style : TextStyle) : String := if style.ansi then "\x1b[2J\x1b[H" else ""

end TextStyle

def Snapshot.textLines (s : Snapshot) (style : TextStyle) : List String :=
  (style.title heading ++ "  " ++ s.countLabel) :: style.title columnTitles ::
    s.rows.map fun r => style.mark r.line r.style

/-- The whole screen; each line ends with a line feed. -/
def Snapshot.render (s : Snapshot) (style : TextStyle) : String :=
  String.join ((s.textLines style).map (· ++ "\n"))

end CanScope
