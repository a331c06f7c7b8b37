import CanScope.Toml.Key
import CanScope.Toml.Layout
import CanScope.Toml.Moment
import CanScope.Toml.Number

/-!
# TOML documents

`document?` reads a whole document. It is a list of lines: a key with a value, a header in brackets
that says to which table the following lines belong, or nothing. A byte order mark may come first.
Values lie at most `depthLimit - 1` deep in arrays and inline tables, which is what readers of values
recurse on; lists of items recurse on the text that is left.
-/
namespace CanScope.Toml

/-! ## Values -/

def word? : Reader Value
  | 't' :: 'r' :: 'u' :: 'e' :: rest => some (.boolean true, rest)
  | 'f' :: 'a' :: 'l' :: 's' :: 'e' :: rest => some (.boolean false, rest)
  | _ => none

/-- A value that holds no others. -/
def scalar? (cs : List Char) : Option (Value × List Char) :=
  (text? cs).map (fun r => (.text (String.ofList r.1), r.2)) <|>
    moment? cs <|> number? cs <|> word? cs

/-- The items of an array up to its closing bracket. Line ends and comments may stand around items, and
a comma may follow the last one. -/
def items? (item : Reader Value) (cs : List Char) : Option (List Value × List Char) :=
  match skipLines cs with
  | ']' :: rest => some ([], rest)
  | start => do
    let (v, rest) ← item start
    match skipLines rest with
    | ']' :: rest' => return ([v], rest')
    | ',' :: rest' =>
      if rest'.length < cs.length then
        let (vs, rest'') ← items? item rest'
        return (v :: vs, rest'')
      else none
    | _ => none
termination_by cs.length

def pair? (item : Reader Value) (cs : List Char) : Option ((List String × Value) × List Char) := do
  let (path, rest) ← path? cs
  match rest with
  | '=' :: rest' =>
    let (v, rest'') ← item (skipSpaces rest')
    return ((path, v), rest'')
  | _ => none

/-- Gives a value to a path of keys, the last of which names it. -/
def Table.assignPath (path : List String) (v : Value) (t : Table) : Option Table :=
  t.assign (path.getLast?.getD "") v path.dropLast

/-- The entries of an inline table up to its closing brace, added to `t`. No comma may follow the last
one, and all stand on one line. -/
def entries? (item : Reader Value) (t : Table) (cs : List Char) : Option (Table × List Char) := do
  let ((path, v), rest) ← pair? item cs
  let t ← t.assignPath path v
  match skipSpaces rest with
  | '\x7d' :: rest' => return (t, rest')
  | ',' :: rest' => if rest'.length < cs.length then entries? item t rest' else none
  | _ => none
termination_by cs.length

/-- A value that holds at most `depth` levels of others. -/
def value? : Nat → Reader Value
  | depth, '[' :: rest =>
    match depth with
    | 0 => none
    | depth + 1 => (items? (value? depth) rest).map fun r => (.array r.1, r.2)
  | depth, '\x7b' :: rest =>
    match depth with
    | 0 => none
    | depth + 1 =>
      match skipSpaces rest with
      | '\x7d' :: rest' => some (.table .inline [], rest')
      | start => (entries? (value? depth) [] start).map fun r => (.table .inline r.1, r.2)
  | _, cs => scalar? cs

/-! ## Lines -/

/-- What is known of a document behind some of its lines: the values, and the path of the header that
the following lines belong to. -/
structure Layout where
  root : Table
  header : List String

def header? (l : Layout) (cs : List Char) : Option (Layout × List Char) := do
  match cs with
  | '[' :: rest =>
    let (path, rest) ← path? rest
    match rest with
    | ']' :: ']' :: rest' =>
      let root ← l.root.alter (Table.openElement (path.getLast?.getD "")) path.dropLast
      return (⟨root, path⟩, ← endLine? rest')
    | _ => none
  | _ =>
    let (path, rest) ← path? cs
    match rest with
    | ']' :: rest' =>
      let root ← l.root.alter (Table.openTable (path.getLast?.getD "")) path.dropLast
      return (⟨root, path⟩, ← endLine? rest')
    | _ => none

def assignment? (l : Layout) (cs : List Char) : Option (Layout × List Char) := do
  let ((path, v), rest) ← pair? (value? (depthLimit - 1)) cs
  let root ← l.root.alter (Table.assignPath path v) l.header
  return ({ l with root }, ← endLine? rest)

/-- One line, which is not empty to the end of the text. -/
def line? (l : Layout) (cs : List Char) : Option (Layout × List Char) :=
  match cs with
  | '[' :: rest => header? l rest
  | cs =>
    match endLine? cs with
    | some rest => some (l, rest)
    | none => assignment? l cs

def lines? (l : Layout) (cs : List Char) : Option Layout :=
  match skipSpaces cs with
  | [] => some l
  | start =>
    match line? l start with
    | some (l', rest) => if rest.length < cs.length then lines? l' rest else none
    | none => none
termination_by cs.length

def skipByteOrderMark : List Char → List Char
  | '\ufeff' :: rest => rest
  | cs => cs

def document? (text : String) : Option Table :=
  (lines? ⟨[], []⟩ (skipByteOrderMark text.toList)).map (·.root)

end CanScope.Toml
