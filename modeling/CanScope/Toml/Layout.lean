import CanScope.Toml.Value

/-!
# Laying out a document

Where the lines of a document put their values. Each of these gives `none` where a line contradicts
an earlier one: a key has one value, a table one header, and a table that was written in braces or
opened by a header is not extended by dotted keys.
-/
namespace CanScope.Toml

namespace Table

/-- Applies `f` to the table at a path. Tables that are missing come into being, implied; on a list of
tables the path goes to the last one. -/
def alter (f : Table → Option Table) : List String → Table → Option Table
  | [], t => f t
  | key :: path, t =>
    match t.lookup key with
    | none => (alter f path []).map fun inner => t.put key (.table .implied inner)
    | some (.table .inline _) => none
    | some (.table origin inner) => (alter f path inner).map fun inner => t.put key (.table origin inner)
    | some (.tables items) =>
      (alter f path (items.getLast?.getD [])).map fun inner =>
        t.put key (.tables (items.dropLast ++ [inner]))
    | some _ => none

def add (key : String) (v : Value) (t : Table) : Option Table :=
  if (t.lookup key).isSome then none else some (t.put key v)

/-- Gives a value to a path of keys from this table on. Tables on the way are made by dotted keys, and
only such a table takes the value; further up, implied tables and lists of tables may lie. -/
def assign (key : String) (v : Value) : List String → Table → Option Table
  | [], t => t.add key v
  | first :: path, t =>
    match t.lookup first with
    | none => (assign key v path []).map fun inner => t.put first (.table .dotted inner)
    | some (.table .dotted inner) =>
      (assign key v path inner).map fun inner => t.put first (.table .dotted inner)
    | some (.table .implied inner) =>
      if path.isEmpty then none
      else (assign key v path inner).map fun inner => t.put first (.table .implied inner)
    | some (.tables items) =>
      if path.isEmpty then none
      else
        (assign key v path (items.getLast?.getD [])).map fun inner =>
          t.put first (.tables (items.dropLast ++ [inner]))
    | some _ => none

/-- Opens the table `key`, which must be new or implied. -/
def openTable (key : String) (t : Table) : Option Table :=
  match t.lookup key with
  | none => some (t.put key (.table .header []))
  | some (.table .implied inner) => some (t.put key (.table .header inner))
  | some _ => none

def openElement (key : String) (t : Table) : Option Table :=
  match t.lookup key with
  | none => some (t.put key (.tables [[]]))
  | some (.tables items) => some (t.put key (.tables (items ++ [[]])))
  | some _ => none

end Table

end CanScope.Toml
