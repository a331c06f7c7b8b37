import CanScope.Files.Fault
import CanScope.Text.Blank

/-!
# A tree of files

The files and directories that a program can see, as names lead to them from its working directory. A
path is followed name by name: what is not there is missing, a file has nothing below it, and a name
has at most 255 bytes. A path that ends in a slash asks for a directory. A path as a whole has fewer
than 4096 bytes and no NUL, which is noticed before anything is looked up.
-/
namespace CanScope.Files

inductive Entry where
  | file (contents : ByteArray)
  | directory

/-- A way from the working directory down, without detours: names, and in front of them as many `..` as
it takes to leave the working directory, or a `/` for the root of everything. -/
abbrev Place := List String

structure Tree where
  entries : List (Place × Entry)

structure Path where
  isAbsolute : Bool
  names : List String
  endsInSlash : Bool

namespace Path

def ofText (text : String) : Path :=
  let cs := text.toList
  ⟨cs.head? == some '/', ((Text.pieces (· == '/') cs).filter (!·.isEmpty)).map String.ofList,
    cs.getLast? == some '/'⟩

def start (p : Path) : Place := if p.isAbsolute then ["/"] else []

def maxName : Nat := 255

/-- A path of this many bytes is too long. -/
def limit : Nat := 4096

/-- What is wrong with a path before anything is looked up. -/
def fault? (text : String) : Option Fault :=
  if text.toList.contains '\x00' then some .nulInName
  else if text.isEmpty then some .missing
  else if limit ≤ text.utf8ByteSize then some .nameTooLong
  else none

def join (root name : String) : String :=
  if name.toList.head? = some '/' || root.isEmpty then name
  else if root.toList.getLast? = some '/' then root ++ name
  else root ++ "/" ++ name

end Path

namespace Tree

def empty : Tree := ⟨[]⟩

/-- Whether a place is the working directory or one above it. -/
def isTop (place : Place) : Bool := place == ["/"] || place.all (· == "..")

def at? (t : Tree) (place : Place) : Option Entry :=
  if isTop place then some .directory else t.entries.lookup place

/-- The place that `name` means inside the directory at `place`. -/
def next (place : Place) (name : String) : Place :=
  if name = "." then place
  else if name = ".." then
    if place = ["/"] then place else if isTop place then place ++ [".."] else place.dropLast
  else place ++ [name]

/-- Follows names from a place at which `entry` stands. -/
def follow (t : Tree) (place : Place) (entry : Entry) : List String → Except Fault (Place × Entry)
  | [] => .ok (place, entry)
  | name :: rest =>
    match entry with
    | .file _ => .error .notDirectory
    | .directory =>
      if Path.maxName < name.utf8ByteSize then .error .nameTooLong
      else
        match t.at? (next place name) with
        | none => .error .missing
        | some entry' => t.follow (next place name) entry' rest

def find (t : Tree) (text : String) : Except Fault (Place × Entry) :=
  match Path.fault? text with
  | some fault => .error fault
  | none =>
    let p := Path.ofText text
    match t.follow p.start .directory p.names with
    | .ok (place, .file contents) =>
      if p.endsInSlash then .error .notDirectory else .ok (place, .file contents)
    | found => found

def read (t : Tree) (text : String) : Except Fault ByteArray :=
  match t.find text with
  | .ok (_, .file contents) => .ok contents
  | .ok (_, .directory) => .error .isDirectory
  | .error fault => .error fault

def put (t : Tree) (place : Place) (entry : Entry) : Tree :=
  ⟨(place, entry) :: t.entries.filter (·.1 ≠ place)⟩

/-- Writes a file, new or not, in a directory that exists. -/
def write (t : Tree) (text : String) (contents : ByteArray) : Except Fault Tree := do
  match Path.fault? text with
  | some fault => throw fault
  | none =>
    let p := Path.ofText text
    let (place, entry) ← t.follow p.start .directory p.names.dropLast
    match entry, p.names.getLast? with
    | .file _, _ => throw .notDirectory
    | _, none => throw .isDirectory
    | .directory, some name =>
      if p.endsInSlash || name = "." || name = ".." then throw .isDirectory
      else if Path.maxName < name.utf8ByteSize then throw .nameTooLong
      else
        match t.at? (next place name) with
        | some .directory => throw .isDirectory
        | _ => return t.put (next place name) (.file contents)

/-- Makes the directories that names lead to from `place`, where they do not exist. -/
def makeFrom (t : Tree) (place : Place) : List String → Except Fault Tree
  | [] => .ok t
  | name :: rest =>
    let place' := next place name
    if Path.maxName < name.utf8ByteSize then .error .nameTooLong
    else
      match t.at? place' with
      | none => (t.put place' .directory).makeFrom place' rest
      | some .directory => t.makeFrom place' rest
      | some (.file _) => .error (if rest.isEmpty then .alreadyExists else .notDirectory)

/-- Makes a directory with all directories above it. The empty path needs none. -/
def makeDirectories (t : Tree) (text : String) : Except Fault Tree :=
  if text.isEmpty then .ok t
  else
    match Path.fault? text with
    | some fault => .error fault
    | none => t.makeFrom (Path.ofText text).start (Path.ofText text).names

/-- Writes a file, and makes the directories above it where they do not exist. -/
def writeDeep (t : Tree) (text : String) (contents : ByteArray) : Except Fault Tree := do
  let t ← t.makeFrom (Path.ofText text).start (Path.ofText text).names.dropLast
  t.write text contents

def remove (t : Tree) (text : String) : Tree :=
  match t.find text with
  | .ok (place, _) => ⟨t.entries.filter fun entry => !place.isPrefixOf entry.1⟩
  | .error _ => t

end Tree

end CanScope.Files
