import CanScope.Capture.Basic
import CanScope.CommandLine
import CanScope.Files.Search
import CanScope.Settings.Document
import CanScope.Viewer

/-!
# The program

What the commands do, up to where a viewer starts to run. Files are read by whoever is asked to, in
whatever monad that takes; everything else is decided here. The file of the settings may lie in a
directory above the working directory.
-/
namespace CanScope

structure Outcome where
  code : Nat
  output : String
  errors : String
  deriving DecidableEq, Repr

namespace Outcome

/-- A run that failed, after it wrote `output`. -/
def failed (output reason : String) : Outcome := ⟨1, output, "Error: " ++ reason ++ "\n"⟩

def misused : Outcome := ⟨2, "", "error: unexpected arguments\n\nFor more information, try '--help'.\n"⟩

def helped : Outcome where
  code := 0
  output :=
    "Live CAN bus debug overlay\n\n" ++
    "Usage: can-overlay <COMMAND>\n\n" ++
    "Commands:\n" ++
    "  watch         Headless text overlay\n" ++
    "  gui           Overlay in a window\n" ++
    "  check-config  Load, validate and print the configuration\n" ++
    "  help          Print this message or the help of the given subcommand(s)\n\n" ++
    "Options:\n" ++
    "  -h, --help  Print help\n"
  errors := ""

end Outcome

/-- A program that has ended, or is about to show something. -/
inductive Started where
  | ended (o : Outcome)
  | viewing (v : Viewer) (style : TextStyle)
  | window (v : Viewer)

namespace Program

/-- What a program finds around it. -/
structure Surroundings (m : Type → Type) where
  read : String → m (Except Files.Fault ByteArray)
  /-- The number of directories above the working directory. -/
  above : Nat
  environment : List (String × String)

variable {m : Type → Type} [Monad m]

/-- The settings in a file, with another place for the flags if one is given. -/
def settings (around : Surroundings m) (path : String) (flagPath : Option String) :
    m (Except Outcome Settings) := do
  let contents ← Files.readFirst around.read (Files.Path.outward path around.above)
  match Settings.load contents around.environment with
  | .error _ => return .error (.failed "" ("Failed to load configuration from " ++ path))
  | .ok s =>
    let s := { s with flags := { s.flags with path := flagPath.getD s.flags.path } }
    match s.check with
    | .error f => return .error (.failed "" f.message)
    | .ok () => return .ok s

def checkConfig (around : Surroundings m) (path : String) : m Outcome := do
  match ← settings around path none with
  | .error o => return o
  | .ok s =>
    let output := "✅ Configuration OK: " ++ path ++ "\n"
    match s.document? with
    | some text => return ⟨0, output ++ text ++ "\n", ""⟩
    | none => return .failed output "out-of-range value for u64 type"

def records (around : Surroundings m) (path : String) :
    m (Except Outcome (List Capture.Record)) := do
  match (← around.read path).bind Files.text? with
  | .error _ => return .error (.failed "" ("Failed to read capture " ++ path))
  | .ok text =>
    match Capture.parse text.toList with
    | .ok records => return .ok records
    | .error e => return .error (.failed "" e.message)

def viewer (around : Surroundings m) (sources : Sources) : m (Except Outcome Viewer) := do
  match ← settings around sources.config sources.flagPath with
  | .error o => return .error o
  | .ok s =>
    match sources.capture with
    | none => return .ok (.new s none sources.again)
    | some path =>
      match ← records around path with
      | .error o => return .error o
      | .ok records => return .ok (.new s (some records) sources.again)

def start (around : Surroundings m) (args : List String) : m Started := do
  match CommandLine.parse? args with
  | none => return .ended .misused
  | some .help => return .ended .helped
  | some (.checkConfig path) => return .ended (← checkConfig around path)
  | some (.watch sources plain) =>
    match ← viewer around sources with
    | .error o => return .ended o
    | .ok v => return .viewing v ⟨!plain⟩
  | some (.gui sources) =>
    match ← viewer around sources with
    | .error o => return .ended o
    | .ok v => return .window v

end Program

end CanScope
