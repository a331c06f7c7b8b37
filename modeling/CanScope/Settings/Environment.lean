import CanScope.Number.Decimal
import CanScope.Text.Blank
import CanScope.Toml.Text

/-!
# Settings from environment variables

A variable whose name begins with `CAN_OVERLAY_`, in any case, gives the setting that the rest of its
name says: two underscores or a point lead from a section to an entry, and letters count as lower case.
Blanks around the name and around that rest do not count. A name with an empty part is none.

The value is a truth value, a number, a quoted text, a character in single quotes, an array in brackets
or a table in braces; all else, and all that goes on behind such a value, is text as it stands. Of a
quoted text with an escape, the part before the first escape is cut to as many bytes as it has
characters, which leaves ASCII text whole.
Variables are taken in the order of their names, and go before what a file says.
-/
namespace CanScope.Environment

open CanScope.Toml

/-! ## Values -/

def isAsciiBlank (c : Char) : Bool := c == ' ' || c == '\t' || c == '\n' || c == '\x0c' || c == '\r'

def skipBlanks (cs : List Char) : List Char := cs.dropWhile isAsciiBlank

def isSeparator (c : Char) : Bool :=
  c == ',' || c == '[' || c == ']' || c == '\x7b' || c == '\x7d'

def isKeyCharacter (c : Char) : Bool := c.isAlphanum || c == '_' || c == '-'

/-- An integer, with an optional sign, that fits 64 bits; only below zero a sign takes one of them. -/
def integer? (cs : List Char) : Option Int :=
  match cs with
  | '-' :: digits =>
    (Text.natural? 10 digits).bind fun n => if n ≤ Nat.pow 2 63 then some (-(n : Int)) else none
  | cs => (Text.signless? 10 cs).bind fun n => if n < Nat.pow 2 64 then some (n : Int) else none

/-- What a value without quotes or brackets is. -/
def bare (cs : List Char) : Value :=
  let real := if cs.contains '.' then Number.Decimal.read? cs else none
  match real, integer? cs with
  | some d, _ => .real d
  | none, some n => .integer n
  | none, none => .text (String.ofList cs)

/-- The characters at the front of `cs` that lie in its first `bytes` bytes. -/
def frontBytes (bytes : Nat) : List Char → List Char
  | [] => []
  | c :: rest => if c.utf8Size ≤ bytes then c :: frontBytes (bytes - c.utf8Size) rest else []

def quotedBody (cs : List Char) : Option (List Char × List Char) :=
  let front := cs.takeWhile fun c => c != '"' && c != '\\'
  (basicBody cs).map fun r =>
    if (cs.drop front.length).head? = some '\\' then
      (frontBytes front.length front ++ r.1.drop front.length, r.2)
    else r

/-- A value; arrays and tables are read by `list` and `table` from behind their brackets on. -/
def value? (list : Reader Value) (table : Reader Value) (cs : List Char) :
    Option (Value × List Char) :=
  let read : Option (Value × List Char) :=
    match skipBlanks cs with
    | 't' :: 'r' :: 'u' :: 'e' :: rest => some (.boolean true, rest)
    | 'f' :: 'a' :: 'l' :: 's' :: 'e' :: rest => some (.boolean false, rest)
    | '\x7b' :: rest => table rest
    | '[' :: rest => list rest
    | '"' :: rest => (quotedBody rest).map fun r => (.text (String.ofList r.1), r.2)
    | '\'' :: c :: '\'' :: rest => some (.text (String.ofList [c]), rest)
    | '\'' :: _ => none
    | start =>
      let word := start.takeWhile (!isSeparator ·)
      some (bare (Text.trim word), start.dropWhile (!isSeparator ·))
  read.map fun r => (r.1, skipBlanks r.2)

/-- The items of an array up to its bracket; a comma may follow the last one. -/
def items? (item : Reader Value) (cs : List Char) : Option (List Value × List Char) :=
  match cs with
  | ']' :: rest => some ([], rest)
  | cs => do
    let (v, rest) ← item cs
    match rest with
    | ']' :: rest' => return ([v], rest')
    | ',' :: rest' =>
      if rest'.length < cs.length then
        let (vs, rest'') ← items? item rest'
        return (v :: vs, rest'')
      else none
    | _ => none
termination_by cs.length

def key? : Reader (List Char)
  | '"' :: rest => quotedBody rest
  | cs =>
    if (cs.takeWhile isKeyCharacter).isEmpty then none
    else some (cs.takeWhile isKeyCharacter, cs.dropWhile isKeyCharacter)

def entry? (item : Reader Value) (cs : List Char) : Option ((String × Value) × List Char) := do
  let (key, rest) ← key? (skipBlanks cs)
  match skipBlanks rest with
  | '=' :: rest' =>
    let (v, rest'') ← item rest'
    return ((String.ofList key, v), rest'')
  | _ => none

/-- The entries of a table up to its brace, added to `t`; of two with one key the later counts. -/
def entries? (item : Reader Value) (t : Table) (cs : List Char) : Option (Table × List Char) :=
  match cs with
  | '\x7d' :: rest => some (t, rest)
  | cs => do
    let ((key, v), rest) ← entry? item cs
    let t := t.put key v
    match rest with
    | '\x7d' :: rest' => return (t, rest')
    | ',' :: rest' => if rest'.length < cs.length then entries? item t rest' else none
    | _ => none
termination_by cs.length

def nested? : Nat → Reader Value
  | 0 => fun _ => none
  | depth + 1 =>
    value?
      (fun cs => (items? (nested? depth) cs).map fun r => (.array r.1, r.2))
      (fun cs => (entries? (nested? depth) [] cs).map fun r => (.table .inline r.1, r.2))

/-- The value of a variable. No value is nested more deeply than its text is long. -/
def read (text : String) : Value :=
  match nested? (text.length + 1) text.toList with
  | some (v, []) => v
  | _ => .text text

/-! ## Names -/

def opening : List Char := "can_overlay_".toList

/-- Writes points for pairs of underscores. -/
def pointed : List Char → List Char
  | '_' :: '_' :: rest => '.' :: pointed rest
  | c :: rest => c :: pointed rest
  | [] => []

/-- The path of the setting that a variable gives. -/
def path? (name : String) : Option (List String) :=
  let cs := (Text.trim name.toList).map Char.toLower
  if opening.isPrefixOf cs then
    let parts := Text.pieces (· == '.') (pointed (Text.trim (cs.drop opening.length)))
    if parts.any (·.isEmpty) then none else some (parts.map String.ofList)
  else none

/-- A value below a path of keys. -/
def nest : List String → Value → Value
  | [], v => v
  | key :: path, v => .table .inline [(key, nest path v)]

end CanScope.Environment
