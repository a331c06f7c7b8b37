import CanScope.Bus.Error
import CanScope.Bus.Event
import CanScope.Flag.Basic
import CanScope.Time.Brief

/-!
# Notices

What the overlay reports while it runs. Each notice has a severity, a message and named fields, and
nothing depends on it: it is handed out as a value beside the result that it is about.
-/
namespace CanScope

inductive Severity where
  | trace | debug | info | warn | error
  deriving DecidableEq, Repr

def Severity.name : Severity → String
  | .trace => "TRACE"
  | .debug => "DEBUG"
  | .info => "INFO"
  | .warn => "WARN"
  | .error => "ERROR"

/-- The order of severities, the least first. -/
def Severity.rank : Severity → Nat
  | .trace => 0
  | .debug => 1
  | .info => 2
  | .warn => 3
  | .error => 4

inductive Notice where
  /-- A full order of use let go of its oldest key. -/
  | evicted (key : Key)
  | reaped (count : Nat)
  /-- The flag could not be read; the value last known stays. -/
  | flagReadFailed (flag : String) (enabled : Bool) (error : FlagError)
  | activated (flag channel : String)
  | subscribeFailed (channel : String) (error : BusError)
  | deactivated (flag : String)
  | flagUnchanged (enabled : Bool)
  | received (frame : CanFrame)
  | drainFailed (error : BusError)
  | rendering (count : Nat)
  | emptyCapture
  | offsetOutOfRange (offset : Span)
  | captureFinished
  deriving DecidableEq, Repr

namespace Notice

def severity : Notice → Severity
  | .evicted _ | .reaped _ => .trace
  | .flagUnchanged _ | .received _ | .drainFailed _ | .rendering _ => .debug
  | .activated _ _ | .deactivated _ | .captureFinished => .info
  | .flagReadFailed _ _ _ | .subscribeFailed _ _ | .emptyCapture | .offsetOutOfRange _ => .warn

def message : Notice → String
  | .evicted _ => "Recency tracker full, evicting oldest key"
  | .reaped _ => "Reaped stale frames"
  | .flagReadFailed _ _ _ => "Flag read failed, keeping last-known value"
  | .activated _ _ => "CAN overlay activated"
  | .subscribeFailed _ _ => "Subscribe failed, staying idle until next check"
  | .deactivated _ => "CAN overlay deactivated"
  | .flagUnchanged _ => "Flag unchanged"
  | .received f =>
    "[CAN] Bus:" ++ toString f.bus.toNat ++ " Addr:" ++ Key.addressText f.address ++ " Data:[" ++
      Text.spacedHex f.data ++ "]"
  | .drainFailed _ => "CAN drain failed, treating tick as empty"
  | .rendering count => "[CAN Overlay] Rendering " ++ toString count ++ " messages"
  | .emptyCapture => "Capture holds no frames"
  | .offsetOutOfRange _ => "Capture offset out of range, stopping replay"
  | .captureFinished => "Capture finished"

/-- The named fields, each shown as text. -/
def fields : Notice → List (String × String)
  | .evicted key => [("key", key.text)]
  | .reaped count => [("count", toString count)]
  | .flagReadFailed flag enabled error =>
    [("flag", flag), ("enabled", toString enabled), ("error", error.message)]
  | .activated flag channel => [("flag", flag), ("channel", channel)]
  | .subscribeFailed channel error => [("channel", channel), ("error", error.message)]
  | .deactivated flag => [("flag", flag)]
  | .flagUnchanged enabled => [("enabled", toString enabled)]
  | .drainFailed error => [("error", error.message)]
  | .offsetOutOfRange offset => [("offset", offset.brief)]
  | .received _ | .rendering _ | .emptyCapture | .captureFinished => []

def line (n : Notice) : String :=
  " ".intercalate ([n.severity.name, n.message] ++ n.fields.map fun field => field.1 ++ "=" ++ field.2)

end Notice

end CanScope
