import CanScope.Settings.Environment
import CanScope.Settings.Failure
import CanScope.Settings.Sections
import CanScope.Settings.Wrapped
import CanScope.Toml.Document

/-!
# Reading the settings

Two layers give the settings: a TOML file, and the environment on top of it. Where both have a table
the tables are joined, entry by entry; otherwise the upper layer's value counts. A file that is not
there gives nothing.
-/
namespace CanScope

open CanScope.Toml

mutual

/-- The value `above` on top of the value `below`. -/
def Toml.Value.onTop (below : Value) : Value → Value
  | .table origin above =>
    match below.entries? with
    | some t => .table origin (Toml.Table.cover t above)
    | none => .table origin above
  | above => above

def Toml.Table.cover (t : Table) : List (String × Value) → Table
  | [] => t
  | (key, v) :: rest =>
    Toml.Table.cover
      (t.put key
        (match t.lookup key with
        | some below => Toml.Value.onTop below v
        | none => v)) rest

end

namespace Settings

/-- What the environment gives, from names and values of its variables. -/
def environmentLayer (environment : List (String × String)) : Table :=
  let inOrder := environment.mergeSort fun a b => !(decide (b.1 < a.1))
  inOrder.foldl
    (fun t entry =>
      match Environment.path? entry.1 with
      | some path =>
        match Environment.nest path (Environment.read entry.2) with
        | .table _ entries => Table.cover t entries
        | _ => t
      | none => t) []

def fileLayer (text : String) : Except Failure Table :=
  match (document? text).bind Value.unwrapEntries? with
  | some t => .ok t
  | none => .error (.unreadableSettings "")

/-- What reading the file of the settings gave: nothing where there is no file, but a file has to hold
text. -/
def contentsLayer (contents : Except Files.Fault ByteArray) : Except Failure Table :=
  match contents.bind Files.text? with
  | .ok text => fileLayer text
  | .error .notText => .error (.unreadableSettings "")
  | .error _ => .ok []

/-- The settings from what reading their file gave, and the environment. -/
def load (contents : Except Files.Fault ByteArray) (environment : List (String × String)) :
    Except Failure Settings := do
  let file ← contentsLayer contents
  match ofTable (Table.cover file (environmentLayer environment)) with
  | .ok s => return s
  | .error path => throw (.unreadableSettings path)

def defaultPath : String := "config/can_overlay.toml"

end Settings

end CanScope
