import CanScope.Screen.Panel
import CanScope.Session

/-!
# A window that hosts an overlay

Each frame of the window is one tick; it paints the snapshot of the tick while the overlay is active,
and nothing while it is idle. A window keeps its size until it is told another one.
-/
namespace CanScope

/-- What a screen shows after a tick. -/
def TickReport.paintOn (r : TickReport) (active : Bool) (screen : Rect) : Painting :=
  if active then r.snapshot.paintOn .default screen else .blank

structure Window where
  session : Session
  screen : Rect

namespace Window

def ofSession (session : Session) : Window := ⟨session, .assumed⟩

/-- One frame, on a screen of a new size if one is given. -/
def frame (w : Window) (now : Instant) (screen? : Option Rect) : Painting × Tick Ticket × Window :=
  let screen := screen?.getD w.screen
  let (t, session) := w.session.tick now
  (t.report.paintOn session.overlay.isActive screen, t, ⟨session, screen⟩)

end Window

end CanScope
