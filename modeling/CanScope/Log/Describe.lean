import CanScope.Overlay
import CanScope.Bus.Basic
import CanScope.Text.Quoted

/-!
# Descriptions for the log

One-line texts that show what a value is made of: the name of a type and its fields in braces, texts
in quotes, lengths of time in their short form.
-/
namespace CanScope

namespace Describe

/-- Items between an opening and a closing text, with commas between them. -/
def between (opening closing : String) (items : List String) : String :=
  opening ++ ", ".intercalate items ++ closing

/-- A name and its fields in braces. -/
def record (name : String) (fields : List (String × String)) : String :=
  between (name ++ " \x7b ") " \x7d" (fields.map fun field => field.1 ++ ": " ++ field.2)

def option : Option String → String
  | none => "None"
  | some text => "Some(" ++ text ++ ")"

end Describe

open Describe Text

def Bus.describe (b : Bus) : String := record "LocalBus" [("queue_capacity", toString b.queueCapacity)]

/-- The subscription that a mailbox belongs to. -/
def Mailbox.describe (m : Mailbox) : String :=
  record "LocalSubscription"
    [("channel", quoted m.channel), ("conflate", toString m.isConflating)]

def Gate.Settings.describe (s : Gate.Settings) : String :=
  record "GateSettings"
    [("flag_key", quoted s.flagKey), ("channel", quoted s.channel),
     ("conflate", toString s.conflate), ("poll_interval", s.pollInterval.brief)]

def Gate.describe {σ : Type} (g : Gate σ) : String :=
  record "FeatureGate"
    [("settings", g.settings.describe), ("enabled", toString g.enabled),
     ("last_checked", option (g.lastChecked.map fun t => (Span.mk t.nanos).brief)),
     ("subscribed", toString g.isActive)]

def Store.describe (s : Store) : String :=
  record "FrameStore" [("frames", between "\x7b" "\x7d" (s.keys.map Key.text))]

def Recency.describe (r : Recency) : String :=
  record "RecencyTracker"
    [("order", between "[" "]" (r.order.map Key.text)), ("capacity", toString r.capacity)]

def Cache.describe (c : Cache) : String :=
  record "FrameCache"
    [("store", c.store.describe), ("recency", c.recency.describe),
     ("display_limit", toString c.displayLimit), ("stale_timeout", c.staleTimeout.brief)]

def Overlay.describe {σ : Type} (o : Overlay σ) : String :=
  record "CanOverlay" [("gate", o.gate.describe), ("cache", o.cache.describe)]

end CanScope
