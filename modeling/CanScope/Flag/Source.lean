import CanScope.Files.Tree
import CanScope.Flag.Basic
import CanScope.Flag.File

/-!
# Where flags are kept

Either a directory with a file for each flag, which holds the flag as a word, or one flag file for
all. A file that is missing sets no flag. Files are read anew each time a flag is asked for;
`path` says which file that is and `reading` what its contents mean.
-/
namespace CanScope

inductive FlagSource where
  | directory (root : String)
  | file (path : String) (environment : Option String)
  deriving DecidableEq, Repr

namespace FlagSource

def path (source : FlagSource) (key : String) : String :=
  match source with
  | .directory root => Files.Path.join root key
  | .file path _ => path

/-- What the text of that file says. -/
def ofText (source : FlagSource) (key text : String) : Flag.Reading :=
  match source with
  | .directory _ => (Flag.ofText key text).map some
  | .file path environment =>
    match FlagFile.ofText? text with
    | some f => .ok (f.get? environment key)
    | none => .error (.malformedFile path "not a flag file")

/-- What reading that file gave. -/
def reading (source : FlagSource) (key : String) (contents : Except Files.Fault ByteArray) :
    Flag.Reading :=
  match contents.bind Files.text? with
  | .ok text => source.ofText key text
  | .error .missing => .ok none
  | .error fault => .error (.unreadable key fault)

def read (source : FlagSource) (files : Files.Tree) (key : String) : Flag.Reading :=
  source.reading key (files.read (source.path key))

end FlagSource

/-- Stores a flag as a word in a directory, which is made if it does not exist, even where the word
then cannot be written. -/
def Files.Tree.putFlag (t : Files.Tree) (root key : String) (value : Bool) :
    Option Files.Fault × Files.Tree :=
  match t.makeDirectories root with
  | .error fault => (some fault, t)
  | .ok made =>
    match made.write (Files.Path.join root key) (if value then "1" else "0").toUTF8 with
    | .error fault => (some fault, made)
    | .ok written => (none, written)

end CanScope
