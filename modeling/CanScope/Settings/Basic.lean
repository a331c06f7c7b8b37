import CanScope.Flag.Source
import CanScope.Log.Notice
import CanScope.Overlay

/-!
# Settings

Everything that can be set from outside: the overlay, its ticks, where its flags are kept, and the
log. Settings that can be read may still make no sense; `Settings.fault?` names the first thing that
is wrong with them.
-/
namespace CanScope

inductive FlagStorage where
  | directory | file
  deriving DecidableEq, Repr

/-- The word that stands for a storage in settings. -/
def FlagStorage.word : FlagStorage → String
  | .directory => "dir"
  | .file => "file"

structure FlagPlace where
  storage : FlagStorage
  path : String
  deriving DecidableEq, Repr

/-- The source at a place, for a program that runs in `environment`. -/
def FlagPlace.source (p : FlagPlace) (environment : Option String) : FlagSource :=
  match p.storage with
  | .directory => .directory p.path
  | .file => .file p.path environment

inductive LogFormat where
  | pretty | compact | json
  deriving DecidableEq, Repr

def LogFormat.word : LogFormat → String
  | .pretty => "pretty"
  | .compact => "compact"
  | .json => "json"

structure LogSettings where
  /-- The name of the least severity that is logged. -/
  level : String
  format : LogFormat
  ansi : Bool
  deriving DecidableEq, Repr

structure Settings where
  overlay : Overlay.Settings
  tickInterval : Span
  flags : FlagPlace
  log : LogSettings
  deriving DecidableEq, Repr

/-- The severity of a name, in whatever case its ASCII letters are. -/
def Severity.ofName? (name : String) : Option Severity :=
  [trace, debug, info, warn, error].find? fun s =>
    s.name.toList.map Char.toLower == name.toList.map Char.toLower

namespace Settings

def default : Settings where
  overlay := .default
  tickInterval := .ofMillis 50
  flags := ⟨.directory, "/data/params/d"⟩
  log := ⟨"info", .compact, true⟩

inductive Fault where
  | level (name : String)
  | noRows
  | blank (setting : String)
  | zero (setting : String)
  deriving DecidableEq, Repr

def Fault.message : Fault → String
  | .level name =>
    "Invalid log level '" ++ name ++ "'. Must be one of: trace, debug, info, warn, error"
  | .noRows => "display_limit must be at least 1"
  | .blank setting => setting ++ " must not be empty"
  | .zero setting => setting ++ " must be greater than zero"

def isBlankText (s : String) : Bool := s.toList.all Text.isBlank

/-- The first fault of the settings. -/
def fault? (s : Settings) : Option Fault :=
  if (Severity.ofName? s.log.level).isNone then some (.level s.log.level)
  else if s.overlay.displayLimit = 0 then some .noRows
  else if isBlankText s.overlay.gate.flagKey then some (.blank "flag_key")
  else if isBlankText s.overlay.gate.channel then some (.blank "channel")
  else if s.overlay.staleTimeout = .zero then some (.zero "stale_timeout")
  else if s.overlay.gate.pollInterval = .zero then some (.zero "flag_poll_interval")
  else if s.tickInterval = .zero then some (.zero "tick_interval")
  else none

end Settings

end CanScope
