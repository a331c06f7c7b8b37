import CanScope.Settings.Basic
import CanScope.Time.Readable
import CanScope.Toml.Value

/-!
# Settings from a tree of values

A section is a table whose entries are the settings by name, or an array that gives them in their
order. What is not given keeps its value, and entries with other names do not count. Values must have
the right kind: no number is taken from a text. Entries of a table are read in the order of their
names, and the first that cannot be taken is the fault, named by its dotted path. A date is a table
with one odd entry here.

A setting that is one of some words cannot be a table. If it is one all the same, the fault is found
below its first name.
-/
namespace CanScope

open CanScope.Toml

namespace Toml.Value

/-- The name of the entry that a date has when it is taken for a table. No setting is called so. -/
def momentKey : String := "$__toml_private_datetime"

def entries? : Value → Option Table
  | .table _ entries => some entries
  | .moment s => some [(momentKey, .text s)]
  | _ => none

/-- The items of what counts as an array. -/
def items? : Value → Option (List Value)
  | .array items => some items
  | .tables items => some (items.map (.table .header))
  | _ => none

end Toml.Value

/-- Entries in the order of their names. -/
def Toml.Table.sorted (t : Table) : Table := t.mergeSort fun a b => !(decide (b.1 < a.1))

/-- One of the settings that make up a `σ`. -/
structure Setting (σ : Type) where
  name : String
  /-- Gives the setting a value, or tells which path is at fault; the first argument is its own path. -/
  take : String → Value → σ → Except String σ

namespace Setting

variable {σ : Type}

/-- The path of an entry of what is at `path`. -/
def below (path name : String) : String := if path.isEmpty then name else path ++ "." ++ name

def takeNamed (settings : List (Setting σ)) (path : String) (entries : Table) (s : σ) :
    Except String σ :=
  entries.sorted.foldlM
    (fun s entry =>
      match settings.find? (·.name == entry.1) with
      | some f => f.take (below path entry.1) entry.2 s
      | none => .ok s) s

def takeListed (settings : List (Setting σ)) (path : String) (items : List Value) (s : σ) :
    Except String σ :=
  ((settings.zip items).zipIdx).foldlM
    (fun s item => item.1.1.take (below path (toString item.2)) item.1.2 s) s

def takeAll (settings : List (Setting σ)) (path : String) (v : Value) (s : σ) : Except String σ :=
  match v.entries?, v.items? with
  | some entries, _ => takeNamed settings path entries s
  | none, some items => takeListed settings path items s
  | none, none => .error path

def ofReader {α : Type} (name : String) (read : Value → Option α) (set : α → σ → σ) : Setting σ where
  name
  take path v s :=
    match read v with
    | some a => .ok (set a s)
    | none => .error path

/-- A setting whose value is one of some words. -/
def ofWords {α : Type} (name : String) (words : List (String × α)) (set : α → σ → σ) : Setting σ where
  name
  take path v s :=
    match v with
    | .text word =>
      match words.lookup word with
      | some a => .ok (set a s)
      | none => .error path
    | v =>
      match v.entries?.bind (·.sorted.head?) with
      | some (name, _) => .error (below path name)
      | none => .error path

def ofSection {τ : Type} (name : String) (settings : List (Setting τ)) (get : σ → τ) (set : τ → σ → σ) :
    Setting σ where
  name
  take path v s := (takeAll settings path v (get s)).map (set · s)

end Setting

namespace Settings

open Setting

def text? : Value → Option String
  | .text s => some s
  | _ => none

def boolean? : Value → Option Bool
  | .boolean b => some b
  | _ => none

/-- A count fits 64 bits without a sign. -/
def count? : Value → Option Nat
  | .integer n => if 0 ≤ n ∧ n < Nat.pow 2 64 then some n.toNat else none
  | _ => none

def span? (v : Value) : Option Span := (text? v).bind fun s => Span.read? s.toList

/-- The overlay's settings with the interval of its ticks. -/
structure Timed where
  overlay : Overlay.Settings
  tickInterval : Span

def overlaySection : List (Setting Timed) :=
  let gate := fun (set : Gate.Settings → Gate.Settings) (s : Timed) =>
    { s with overlay := { s.overlay with gate := set s.overlay.gate } }
  [ofReader "flag_key" text? fun v => gate ({ · with flagKey := v }),
   ofReader "channel" text? fun v => gate ({ · with channel := v }),
   ofReader "conflate" boolean? fun v => gate ({ · with conflate := v }),
   ofReader "display_limit" count? fun v s => { s with overlay := { s.overlay with displayLimit := v } },
   ofReader "stale_timeout" span? fun v s => { s with overlay := { s.overlay with staleTimeout := v } },
   ofReader "flag_poll_interval" span? fun v => gate ({ · with pollInterval := v }),
   ofReader "tick_interval" span? fun v s => { s with tickInterval := v }]

def storageWords : List (String × FlagStorage) := [.directory, .file].map fun s => (s.word, s)

def flagSection : List (Setting FlagPlace) :=
  [ofWords "source" storageWords fun v s => { s with storage := v },
   ofReader "path" text? fun v s => { s with path := v }]

def formatWords : List (String × LogFormat) := [.pretty, .compact, .json].map fun f => (f.word, f)

def logSection : List (Setting LogSettings) :=
  [ofReader "level" text? fun v s => { s with level := v },
   ofWords "format" formatWords fun v s => { s with format := v },
   ofReader "ansi" boolean? fun v s => { s with ansi := v }]

def sections : List (Setting Settings) :=
  [ofSection "overlay" overlaySection (fun s => ⟨s.overlay, s.tickInterval⟩)
     fun v s => { s with overlay := v.overlay, tickInterval := v.tickInterval },
   ofSection "params" flagSection (·.flags) fun v s => { s with flags := v },
   ofSection "logging" logSection (·.log) fun v s => { s with log := v }]

/-- The settings that a table gives, or the path that is at fault. -/
def ofTable (t : Table) : Except String Settings := takeNamed sections "" t .default

end Settings

end CanScope
