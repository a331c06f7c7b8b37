import CanScope.Toml.Document

/-!
# Flag files

A TOML document with a table `flags`, whose entries are truth values or tables with a list
`environments`, and a truth value `default_enabled`. A flag with environments is on in those alone;
a flag that is not listed is on if `default_enabled` is, and otherwise not set. Other entries do not
count, but a file with any entry of the wrong form is no flag file.
-/
namespace CanScope

open CanScope.Toml

/-- How a flag is set. -/
inductive FlagSetting where
  | everywhere (value : Bool)
  | inside (environments : List String)
  deriving DecidableEq, Repr

structure FlagFile where
  flags : List (String × FlagSetting)
  defaultEnabled : Bool
  deriving DecidableEq, Repr

namespace FlagSetting

def isOn (s : FlagSetting) (environment : Option String) : Bool :=
  match s with
  | .everywhere value => value
  | .inside environments => environment.any environments.contains

def text? : Value → Option String
  | .text s => some s
  | _ => none

def ofValue? : Value → Option FlagSetting
  | .boolean b => some (.everywhere b)
  | .table _ entries =>
    match entries.lookup "environments" with
    | some (.array items) => (items.mapM text?).map .inside
    | _ => none
  | _ => none

end FlagSetting

namespace FlagFile

def flags? : Option Value → Option (List (String × FlagSetting))
  | none => some []
  | some (.table _ entries) =>
    entries.mapM fun entry => (FlagSetting.ofValue? entry.2).map fun s => (entry.1, s)
  | some _ => none

def defaultEnabled? : Option Value → Option Bool
  | none => some false
  | some (.boolean b) => some b
  | some _ => none

def ofTable? (t : Table) : Option FlagFile := do
  let flags ← flags? (t.lookup "flags")
  let defaultEnabled ← defaultEnabled? (t.lookup "default_enabled")
  return ⟨flags, defaultEnabled⟩

def ofText? (text : String) : Option FlagFile := (document? text).bind ofTable?

/-- The value of a flag. -/
def get? (f : FlagFile) (environment : Option String) (key : String) : Option Bool :=
  match f.flags.lookup key with
  | some setting => some (setting.isOn environment)
  | none => if f.defaultEnabled then some true else none

end FlagFile

end CanScope
