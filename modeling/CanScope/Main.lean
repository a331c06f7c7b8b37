import CanScope.Program

/-!
# The executable

Reads files and the environment, prints, and keeps the time. All decisions are made in `Program` and
`Viewer`.
-/
namespace CanScope.Main

def faultOf : IO.Error → Files.Fault
  | .noFileOrDirectory _ _ _ => .missing
  | .inappropriateType _ 20 _ => .notDirectory
  | .inappropriateType _ 21 _ => .isDirectory
  | e => .other (toString e)

def readFile (path : String) : IO (Except Files.Fault ByteArray) := do
  try
    return .ok (← IO.FS.readBinFile path)
  catch e =>
    return .error (faultOf e)

/-- The number of directories above the working directory. -/
def above : IO Nat := do
  let here := toString (← IO.currentDir)
  return (here.toList.filter (· == '/')).length

/-- The variables of the environment. -/
def environment : IO (List (String × String)) := do
  match (← readFile "/proc/self/environ").bind Files.text? with
  | .error _ => return []
  | .ok text =>
    return (Text.pieces (· == '\x00') text.toList).filterMap fun cs =>
      match cs.dropWhile (· != '=') with
      | _ :: value => some (String.ofList (cs.takeWhile (· != '=')), String.ofList value)
      | [] => none

/-- Prints the notices that are severe enough. -/
def log (settings : LogSettings) (notices : List Notice) : IO Unit := do
  let least := ((Severity.ofName? settings.level).getD .info).rank
  for n in notices do
    if least ≤ n.severity.rank then IO.println n.line

/-- Steps a viewer until the program is interrupted. -/
partial def view (v : Viewer) (source : FlagSource) (style : TextStyle) (began : Nat) : IO Unit := do
  let key := v.settings.overlay.gate.flagKey
  let flag := source.reading key (← readFile (source.path key))
  let clock := (← IO.monoMsNow) - began
  let (screen, notices, v') := v.step clock flag style
  log v.settings.log notices
  match screen with
  | some text =>
    IO.print text
    (← IO.getStdout).flush
  | none => pure ()
  IO.sleep (max 1 (v.settings.tickInterval.nanos / Span.perMilli)).toUInt32
  view v' source style began

def run (args : List String) : IO UInt32 := do
  let environment ← environment
  match ← Program.start ⟨readFile, ← above, environment⟩ args with
  | .ended o =>
    IO.print o.output
    IO.eprint o.errors
    return o.code.toUInt32
  | .viewing v style =>
    let source := v.settings.flags.source (environment.lookup "CAN_OVERLAY_ENVIRONMENT")
    view v source style (← IO.monoMsNow)
    return 0
  | .window _ =>
    IO.eprintln "Error: GUI exited with error: no display"
    return 1

end CanScope.Main

def main (args : List String) : IO UInt32 := CanScope.Main.run args
