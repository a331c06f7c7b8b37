import CanScope.Capture.Line

/-!
# Captures

A capture is read line by line, from line one on, and the first faulty line stops it. Lines without
a record count. Times are then taken relative to the first record that has one; a record before that
time is moved to it.
-/
namespace CanScope.Capture

/-- The records of the lines from number `n` on, as they are written. -/
def recordsFrom (n : Nat) : List (List Char) → Except Error (List Record)
  | [] => .ok []
  | line :: rest => do
    let record ← parseLine n line
    let records ← recordsFrom (n + 1) rest
    return record.toList ++ records

/-- Times relative to the first. -/
def rebase (records : List Record) : List Record :=
  match records.findSome? (·.at?) with
  | none => records
  | some start => records.map fun r => { r with at? := r.at?.map (· - start) }

def parse (text : List Char) : Except Error (List Record) :=
  (recordsFrom 1 (Text.lines text)).map rebase

end CanScope.Capture
