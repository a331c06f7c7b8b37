import CanScope.Toml.Value

/-!
# Wrapped values

A table in the file of the settings may wrap a value: if it has an entry with the name
`Wrapped.valueKey`, that entry's value stands in place of the table, whatever else is in it. The whole
document is no such table. A table with an entry `Wrapped.tagKey` is refused, for its value would have
to be of a kind that a file cannot hold.
-/
namespace CanScope

open CanScope.Toml

/-- The entry that holds a wrapped value. -/
def Wrapped.valueKey : String := "___figment_value_value"

/-- The entry that would tell where a wrapped value comes from. -/
def Wrapped.tagKey : String := "___figment_value_id"

/-- What a table with these entries stands for. -/
def Toml.Table.standsFor? (origin : Origin) (t : Table) : Option Value :=
  if (t.lookup Wrapped.tagKey).isSome then none
  else some ((t.lookup Wrapped.valueKey).getD (.table origin t))

mutual

def Toml.Value.unwrap? : Value → Option Value
  | .array items => (unwrapItems? items).map .array
  | .table origin entries => (unwrapEntries? entries).bind (Toml.Table.standsFor? origin)
  | .tables items => (unwrapTables? items).map .array
  | .text s => some (.text s)
  | .integer n => some (.integer n)
  | .real d => some (.real d)
  | .boolean b => some (.boolean b)
  | .moment s => some (.moment s)

def Toml.Value.unwrapItems? : List Value → Option (List Value)
  | [] => some []
  | v :: rest => do return (← v.unwrap?) :: (← unwrapItems? rest)

/-- The entries with their values unwrapped. -/
def Toml.Value.unwrapEntries? : List (String × Value) → Option Table
  | [] => some []
  | (key, v) :: rest => do return (key, ← v.unwrap?) :: (← unwrapEntries? rest)

def Toml.Value.unwrapTables? : List (List (String × Value)) → Option (List Value)
  | [] => some []
  | entries :: rest => do
    let v ← (← unwrapEntries? entries) |> Toml.Table.standsFor? .header
    return v :: (← unwrapTables? rest)

end

end CanScope
