import CanScope.Capture.Line
import CanScope.Settings.Basic

/-!
# Failures of the program

What can stop the program as a whole, each with a word in front that says which part of it failed.
-/
namespace CanScope

inductive Failure where
  /-- The settings cannot be read; `path` is the dotted key at fault, empty if the text as a whole is. -/
  | unreadableSettings (path : String)
  | badSettings (reason : String)
  | files (fault : Files.Fault)
  | flag (error : FlagError)
  | bus (error : BusError)
  | capture (error : Capture.Error)
  | log (reason : String)
  deriving DecidableEq, Repr

def Failure.message : Failure → String
  | .unreadableSettings path => "Configuration error: " ++ path
  | .badSettings reason => "Configuration validation error: " ++ reason
  | .files fault => "I/O error: " ++ fault.message
  | .flag error => "Flag source error: " ++ error.message
  | .bus error => "Transport error: " ++ error.message
  | .capture error => "Replay error: " ++ error.message
  | .log reason => "Logging initialization failed: " ++ reason

def Settings.check (s : Settings) : Except Failure Unit :=
  match s.fault? with
  | some fault => .error (.badSettings fault.message)
  | none => .ok ()

end CanScope
