import CanScope.Settings.Basic
import CanScope.Time.Readable
import CanScope.Toml.Writer

/-!
# Settings as a document

The settings as the TOML file that would give them.
-/
namespace CanScope

open CanScope.Toml

namespace Settings

/-- The greatest count that a TOML integer holds. -/
def maxWritable : Nat := Nat.pow 2 63 - 1

def writeSpan (s : Span) : String := writeText s.readable

/-- The document, unless the display limit is too great for a TOML integer. -/
def document? (s : Settings) : Option String :=
  let o := s.overlay
  if maxWritable < o.displayLimit then none
  else
    some ("\n".intercalate
      [writeSection "overlay"
        [("flag_key", writeText o.gate.flagKey), ("channel", writeText o.gate.channel),
         ("conflate", toString o.gate.conflate), ("display_limit", toString o.displayLimit),
         ("stale_timeout", writeSpan o.staleTimeout),
         ("flag_poll_interval", writeSpan o.gate.pollInterval),
         ("tick_interval", writeSpan s.tickInterval)],
       writeSection "params"
        [("source", writeText s.flags.storage.word), ("path", writeText s.flags.path)],
       writeSection "logging"
        [("level", writeText s.log.level), ("format", writeText s.log.format.word),
         ("ansi", toString s.log.ansi)]])

end Settings

end CanScope
