/-!
# Why a file could not be read or written

The wording is the one of the operating system and of the reader of text files.
-/
namespace CanScope.Files

inductive Fault where
  | missing
  /-- The name is taken by something that is no directory. -/
  | alreadyExists
  | notDirectory
  | isDirectory
  | nameTooLong
  | notText
  | nulInName
  | other (text : String)
  deriving DecidableEq, Repr

def Fault.message : Fault → String
  | .missing => "No such file or directory (os error 2)"
  | .alreadyExists => "File exists (os error 17)"
  | .notDirectory => "Not a directory (os error 20)"
  | .isDirectory => "Is a directory (os error 21)"
  | .nameTooLong => "File name too long (os error 36)"
  | .notText => "stream did not contain valid UTF-8"
  | .nulInName => "file name contained an unexpected NUL byte"
  | .other text => text

def text? (contents : ByteArray) : Except Fault String :=
  match String.fromUTF8? contents with
  | some text => .ok text
  | none => .error .notText

end CanScope.Files
