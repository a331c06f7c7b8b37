import CanScope.Files.Fault
import CanScope.Text.Blank

/-!
# Flags

A flag is on, off, or not set. It may be stored as a word: `1`, `true`, `on` and `yes` are on; `0`,
`false`, `off`, `no` and nothing at all are off. Blanks around the word and the case of ASCII letters
do not count. Any other word is an error, which shows the word in lower case.
-/
namespace CanScope

inductive FlagError where
  /-- What holds the flag could not be read. -/
  | unreadable (key : String) (fault : Files.Fault)
  /-- The flag is set to a word that is neither on nor off. -/
  | unrecognized (key : String) (value : String)
  /-- The file that lists the flags does not have the form of one. -/
  | malformedFile (path : String) (reason : String)
  deriving DecidableEq, Repr

def FlagError.message : FlagError → String
  | .unreadable key fault => "failed to read flag '" ++ key ++ "': " ++ fault.message
  | .unrecognized key value => "flag '" ++ key ++ "' holds an unrecognized value '" ++ value ++ "'"
  | .malformedFile path reason => "failed to parse flag file " ++ path ++ ": " ++ reason

namespace Flag

/-- What reading a flag gives. -/
abbrev Reading := Except FlagError (Option Bool)

def onWords : List String := ["1", "true", "on", "yes"]

def offWords : List String := ["0", "false", "off", "no", ""]

/-- The word that a text holds: without blanks at its ends, ASCII letters in lower case. -/
def word (text : String) : String := String.ofList ((Text.trim text.toList).map Char.toLower)

/-- The value of the flag `key` stored as `text`. -/
def ofText (key text : String) : Except FlagError Bool :=
  let w := word text
  if w ∈ onWords then .ok true
  else if w ∈ offWords then .ok false
  else .error (.unrecognized key w)

end Flag

/-- Flags held in memory. -/
structure FlagTable where
  entries : List (String × Bool)
  deriving DecidableEq, Repr

namespace FlagTable

def empty : FlagTable := ⟨[]⟩

def get? (t : FlagTable) (key : String) : Option Bool := t.entries.lookup key

def unset (t : FlagTable) (key : String) : FlagTable := ⟨t.entries.filter (·.1 ≠ key)⟩

def set (t : FlagTable) (key : String) (value : Bool) : FlagTable :=
  ⟨(key, value) :: (t.unset key).entries⟩

end FlagTable

end CanScope
