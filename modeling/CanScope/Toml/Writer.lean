import CanScope.Text.Digits

/-!
# Writing texts and sections in TOML

A text is written in the plainest of the four kinds of quotes that can hold it: double quotes where
nothing needs a backslash, then single quotes, then the tripled kinds. Only where none of them can hold
the text as it stands is it escaped. Tripled quotes are for texts with line ends, or with both kinds of
quotes; a line end then follows the opening quotes if the text has one itself.
-/
namespace CanScope.Toml

/-- Whether a character can only be written as an escape: an ASCII control other than tab and line
feed. -/
def needsEscape (c : Char) : Bool := (c < ' ' && c != '\t' && c != '\n') || c == '\x7f'

/-- The length of the longest run of `c`, of which `run` have just been seen. -/
def longestRun (c : Char) (run : Nat) : List Char → Nat
  | [] => run
  | d :: rest => if d = c then longestRun c (run + 1) rest else max run (longestRun c 0 rest)

/-- How many double quotes may stand side by side in tripled quotes. -/
def maxQuotes : Nat := 2

/-- A character other than a quote, as it stands in double quotes. -/
def escaped (isTripled : Bool) (c : Char) : List Char :=
  match c with
  | '\x08' => ['\\', 'b']
  | '\t' => ['\\', 't']
  | '\x0c' => ['\\', 'f']
  | '\r' => ['\\', 'r']
  | '\\' => ['\\', '\\']
  | '\n' => if isTripled then ['\n'] else ['\\', 'n']
  | c => if needsEscape c then ['\\', 'u'] ++ Text.padStart 4 '0' (Text.hexDigits c.toNat) else [c]

/-- The text between double quotes, single or tripled, behind `run` quotes that were written as they
are. -/
def escapedText (isTripled : Bool) (run : Nat) : List Char → List Char
  | [] => []
  | '"' :: rest =>
    if isTripled && run < maxQuotes then '"' :: escapedText isTripled (run + 1) rest
    else '\\' :: '"' :: escapedText isTripled 0 rest
  | c :: rest => escaped isTripled c ++ escapedText isTripled 0 rest

def basic (cs : List Char) : List Char := '"' :: escapedText false 0 cs ++ ['"']

/-- The line end behind opening tripled quotes. -/
def opening (cs : List Char) : List Char := if cs.contains '\n' then ['\n'] else []

def basicLines (cs : List Char) : List Char :=
  ['"', '"', '"'] ++ opening cs ++ escapedText true 0 cs ++ ['"', '"', '"']

def literal (cs : List Char) : List Char := '\'' :: cs ++ ['\'']

def literalLines (cs : List Char) : List Char :=
  ['\'', '\'', '\''] ++ opening cs ++ cs ++ ['\'', '\'', '\'']

def writeText (s : String) : String :=
  let cs := s.toList
  let controls := cs.any needsEscape
  let backslash := cs.contains '\\'
  let newline := cs.contains '\n'
  let doubles := longestRun '"' 0 cs
  let singles := longestRun '\'' 0 cs
  String.ofList <|
    if !controls && !backslash && doubles == 0 && !newline then basic cs
    else if !controls && singles == 0 && !newline then literal cs
    else if !controls && !backslash && decide (doubles ≤ maxQuotes) then basicLines cs
    else if !controls && decide (singles ≤ maxQuotes) then literalLines cs
    else if newline then basicLines cs
    else basic cs

def writeSection (name : String) (entries : List (String × String)) : String :=
  String.join (("[" ++ name ++ "]\n") :: entries.map fun entry => entry.1 ++ " = " ++ entry.2 ++ "\n")

end CanScope.Toml
