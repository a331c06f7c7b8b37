import CanScope.Capture.Player
import CanScope.Log.Setup
import CanScope.Screen.TextScreen
import CanScope.Session
import CanScope.Settings.Basic

/-!
# The text viewer

A session whose bus is fed by a player, if there is a capture, and whose screens are text. At every
step what is due is published, then the overlay ticks; the screen is drawn while the overlay is active.
-/
namespace CanScope

structure Viewer where
  settings : Settings
  session : Session
  player : Option Capture.Player

namespace Viewer

/-- A viewer of the events that a capture gives; `again` if it is repeated. -/
def new (settings : Settings) (records : Option (List Capture.Record)) (again : Bool) : Viewer where
  settings
  session := .new settings.overlay Bus.defaultQueueCapacity
  player := records.map (.new Capture.dayHorizon · again)

def feed (v : Viewer) (clock : Nat) : Viewer :=
  match v.player with
  | none => v
  | some player =>
    let (frames, player) := player.due clock
    let channel := v.settings.overlay.gate.channel
    { v with
      player := some player
      session := frames.foldl (fun s f => s.publish channel (.ofFrames [f])) v.session }

/-- One step at millisecond `clock`, where reading the flag gives `flag`: the screen, if one is drawn,
and what is reported. -/
def step (v : Viewer) (clock : Nat) (flag : Flag.Reading) (style : TextStyle) :
    Option String × List Notice × Viewer :=
  let fed := v.feed clock
  let (t, session) := fed.session.tickOn ⟨clock * Span.perMilli⟩ flag
  let screen :=
    if session.overlay.isActive then some (style.clearScreen ++ t.report.snapshot.render style) else none
  (screen, t.notices, { fed with session })

/-- The screens of `count` steps from step number `n` on, while the flag stays as it is. -/
def screensFrom (v : Viewer) (flag : Flag.Reading) (style : TextStyle) (n : Nat) : Nat → List String
  | 0 => []
  | count + 1 =>
    let clock := n * v.settings.tickInterval.nanos / Span.perMilli
    let (screen, _, v') := v.step clock flag style
    screen.toList ++ v'.screensFrom flag style (n + 1) count

end Viewer

end CanScope
