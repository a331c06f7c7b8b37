import CanScope.Bus.Event
import CanScope.Text.Blank
import CanScope.Time.Seconds

/-!
# Lines of a capture

A line is `(seconds) interface ADDRESS#DATA`, where the time and the interface may be missing, or
`ADDRESS##FDATA` for a frame with flexible data rate, whose flags `F` are passed over. Blank lines
and lines that begin with `;` or `//` hold no record.

The last field is the frame; every field before it is a time if it begins with a parenthesis and an
interface otherwise, and the last of each kind counts. The bus is the number at the end of the
interface's name, zero if there is none. Data is pairs of hexadecimal digits, with points anywhere
among them. Where a number is read, in an address or in a pair, a plus sign may stand in front.

A line with several faults is refused for the first of: a field before the frame, from left to
right; a missing `#`; the address; the data.
-/
namespace CanScope.Capture

open CanScope.Text

inductive Fault where
  | missingSeparator | badAddress | badPayload | badTimestamp | badInterface
  deriving DecidableEq, Repr

/-- A fault, the number of its line, and the text that has it. -/
structure Error where
  fault : Fault
  line : Nat
  text : String
  deriving DecidableEq, Repr

def Error.message (e : Error) : String :=
  let place := "line " ++ toString e.line ++ ": "
  let quoted := "'" ++ e.text ++ "'"
  place ++
    match e.fault with
    | .missingSeparator => "expected ADDR#DATA, got " ++ quoted
    | .badAddress => "bad address " ++ quoted
    | .badPayload => "bad payload " ++ quoted
    | .badTimestamp => "bad timestamp " ++ quoted
    | .badInterface => "bus index of interface " ++ quoted ++ " does not fit a u8"

/-- A recorded frame, with its time if the capture has one. -/
structure Record where
  at? : Option Span
  frame : CanFrame
  deriving DecidableEq, Repr

abbrev Faulty := Fault × List Char

/-- The number at the end of a name. -/
def trailingDigits (name : List Char) : List Char :=
  (name.reverse.takeWhile isDecimalDigit).reverse

def bus? (name : List Char) : Except Faulty UInt8 :=
  match natural? 10 (trailingDigits name) with
  | none => .ok 0
  | some n => if n < 256 then .ok (UInt8.ofNat n) else .error (.badInterface, name)

/-- What the parentheses around a time enclose; one side may be missing, and there may be several. -/
def timeBody (field : List Char) : List Char :=
  ((field.dropWhile (· == '(')).reverse.dropWhile (· == ')')).reverse

def time? (field : List Char) : Except Faulty Span :=
  match Span.ofSecondsText? (timeBody field) with
  | some s => .ok s
  | none => .error (.badTimestamp, field)

def address? (text : List Char) : Except Faulty UInt32 :=
  match signless? 16 text with
  | some n =>
    if n ≤ CanFrame.maxAddress then .ok (UInt32.ofNat n) else .error (.badAddress, text)
  | none => .error (.badAddress, text)

def byte? (a b : Char) : Option UInt8 := (signless? 16 [a, b]).map UInt8.ofNat

def bytes? : List Char → Option (List UInt8)
  | [] => some []
  | [_] => none
  | a :: b :: rest => (byte? a b).bind fun x => (bytes? rest).map (x :: ·)

def payload? (text : List Char) : Except Faulty (List UInt8) :=
  match bytes? (text.filter fun c => c != '.' && c != ' ') with
  | some data =>
    if data.length ≤ CanFrame.maxPayload then .ok data else .error (.badPayload, text)
  | none => .error (.badPayload, text)

/-- The data of a frame with flexible data rate: what follows the flags, which are one character of
the ASCII range; behind any other character nothing counts as data. -/
def afterFlags : List Char → List Char
  | [] => []
  | c :: rest => if c.toNat < 128 then rest else []

/-- The data behind the first `#`. -/
def dataText : List Char → List Char
  | '#' :: rest => afterFlags rest
  | cs => cs

/-- What stands before and behind the first `#`. -/
def splitFrame? (cs : List Char) : Option (List Char × List Char) :=
  match cs.dropWhile (· != '#') with
  | [] => none
  | _ :: rest => some (cs.takeWhile (· != '#'), rest)

/-- The time and the bus that the fields before the frame give. -/
def header? (time : Option Span) (bus : UInt8) : List (List Char) → Except Faulty (Option Span × UInt8)
  | [] => .ok (time, bus)
  | field :: rest =>
    if field.head? = some '(' then do header? (some (← time? field)) bus rest
    else do header? time (← bus? field) rest

/-- The record of a line whose fields are `fields` and `body`; `line` is the whole of it. -/
def record? (line : List Char) (fields : List (List Char)) (body : List Char) :
    Except Faulty Record := do
  let (time, bus) ← header? none 0 fields
  match splitFrame? body with
  | none => throw (.missingSeparator, line)
  | some (addressText, rest) =>
    let address ← address? addressText
    let data ← payload? (dataText rest)
    return ⟨time, ⟨bus, address, data⟩⟩

def isRemark : List Char → Bool
  | [] => true
  | ';' :: _ => true
  | '/' :: '/' :: _ => true
  | _ => false

/-- The record of line `number`, if it holds one. -/
def parseLine (number : Nat) (text : List Char) : Except Error (Option Record) :=
  let line := trim text
  if isRemark line then .ok none
  else
    let parts := fields line
    match record? line parts.dropLast (parts.getLast?.getD []) with
    | .ok r => .ok (some r)
    | .error (fault, culprit) => .error ⟨fault, number, String.ofList culprit⟩

end CanScope.Capture
