import CanScope.Settings.Basic

/-!
# How a log is set up
-/
namespace CanScope

structure LogSetup where
  level : Severity
  format : LogFormat
  /-- Whether entries name the place in the program that they come from. -/
  places : Bool
  ansi : Bool
  deriving DecidableEq, Repr

namespace LogSetup

/-- Compact, coloured and without places. -/
def ofLevel (level : Severity) : LogSetup := ⟨level, .compact, false, true⟩

def default : LogSetup := ofLevel .info

def withFormat (s : LogSetup) (format : LogFormat) : LogSetup := { s with format }

def withAnsi (s : LogSetup) (ansi : Bool) : LogSetup := { s with ansi }

end LogSetup

/-- The setup that settings ask for. -/
def LogSettings.setup (s : LogSettings) : Except Settings.Fault LogSetup :=
  match Severity.ofName? s.level with
  | some level => .ok (((LogSetup.ofLevel level).withFormat s.format).withAnsi s.ansi)
  | none => .error (.level s.level)

end CanScope
