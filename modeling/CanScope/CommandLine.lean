import CanScope.Settings.Layers

/-!
# The command line

`watch` shows the overlay as text, `gui` in a window, and `check-config` prints the settings. Options
have two hyphens and follow the command; a value stands behind an equals sign or as the next argument,
where it does not begin with a hyphen unless it is one. No option is given twice, and no value is empty.
-/
namespace CanScope

/-- Where a viewer takes its settings and its events from. -/
structure Sources where
  config : String
  /-- Where the flags are kept, instead of where the settings say. -/
  flagPath : Option String
  capture : Option String
  /-- Whether the capture starts again when it has ended. -/
  again : Bool
  deriving DecidableEq, Repr

inductive Command where
  | watch (sources : Sources) (plain : Bool)
  | gui (sources : Sources)
  | checkConfig (config : String)
  | help
  deriving DecidableEq, Repr

namespace CommandLine

structure Options where
  valued : List String
  bare : List String

abbrev Given := String × Option String

/-- Splits an argument at its first equals sign. -/
def splitValue (arg : String) : String × Option String :=
  let cs := arg.toList
  let name := cs.takeWhile (· != '=')
  match cs.drop name.length with
  | _ :: value => (String.ofList name, some (String.ofList value))
  | [] => (arg, none)

/-- Whether an argument can be the value of the option before it. -/
def isValue (arg : String) : Bool :=
  !arg.isEmpty && (arg == "-" || arg.toList.head? != some '-')

def scan (options : Options) (args : List String) : Option (List Given) :=
  match args with
  | [] => some []
  | arg :: rest =>
    let (name, value) := splitValue arg
    if arg = "--" then if rest.isEmpty then some [] else none
    else if options.bare.contains name then
      if value.isNone then (scan options rest).map ((name, none) :: ·) else none
    else if options.valued.contains name then
      match value, rest with
      | some value, rest =>
        if value.isEmpty then none else (scan options rest).map ((name, some value) :: ·)
      | none, value :: rest =>
        if isValue value then (scan options rest).map ((name, some value) :: ·) else none
      | none, [] => none
    else none

/-- The options that arguments give, each at most once. -/
def given? (options : Options) (args : List String) : Option (List Given) :=
  (scan options args).filter fun given => (given.map (·.1)).Nodup

def value? (given : List Given) (name : String) : Option String := (given.lookup name).join

def has (given : List Given) (name : String) : Bool := (given.lookup name).isSome

/-- Whether an argument asks for help. What follows the letter does not matter. -/
def isHelp (arg : String) : Bool := arg == "--help" || ['-', 'h'].isPrefixOf arg.toList

/-- Whether help is asked for, before anything that has no place. Nothing is asked for behind two
hyphens that stand alone. -/
def asksForHelp (options : Options) (args : List String) : Bool :=
  let before := args.takeWhile fun arg => !isHelp arg && arg != "--"
  args[before.length]?.any isHelp && (given? options before).isSome

def sourceOptions : Options := ⟨["--config", "--params-dir", "--replay"], ["--loop-replay"]⟩

def sources? (given : List Given) : Option Sources :=
  let capture := value? given "--replay"
  let again := has given "--loop-replay"
  if again && capture.isNone then none
  else
    some ⟨(value? given "--config").getD Settings.defaultPath, value? given "--params-dir", capture,
      again⟩

def ofOptions (options : Options) (args : List String) (command : List Given → Option Command) :
    Option Command :=
  if asksForHelp options args then some .help else (given? options args).bind command

def parse? : List String → Option Command
  | "watch" :: args =>
    ofOptions { sourceOptions with bare := "--plain" :: sourceOptions.bare } args fun given =>
      (sources? given).map fun s => .watch s (has given "--plain")
  | "gui" :: args => ofOptions sourceOptions args fun given => (sources? given).map .gui
  | "check-config" :: args =>
    ofOptions ⟨["--config"], []⟩ args fun given =>
      some (.checkConfig ((value? given "--config").getD Settings.defaultPath))
  | ["help"] => some .help
  | ["help", command] =>
    if command ∈ ["watch", "gui", "check-config", "help"] then some .help else none
  | arg :: _ => if isHelp arg then some .help else none
  | [] => none

end CommandLine

end CanScope
