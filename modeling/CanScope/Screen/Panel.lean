import CanScope.Screen.Shape
import CanScope.Screen.TextScreen

/-!
# The panel

A box a quarter of the screen wide and high, near its lower right corner. Below a line with the
heading and the count stand the column titles and then the rows, from the top down; rows that would
begin below the box's lower padding are left out.
-/
namespace CanScope

structure Palette where
  background : Colour
  border : Colour
  header : Colour
  fresh : Colour
  stale : Colour
  invalid : Colour
  deriving DecidableEq, Repr

namespace Palette

/-- Black and grey at half opacity behind bright text. -/
def default : Palette where
  background := ⟨0, 0, 0, 128⟩
  border := ⟨72, 72, 72, 128⟩
  header := .opaqueOf 100 200 255
  fresh := .opaqueOf 255 255 255
  stale := .opaqueOf 150 150 150
  invalid := .opaqueOf 255 100 100

def row (p : Palette) : Style → Colour
  | .fresh => p.fresh
  | .stale => p.stale
  | .invalid => p.invalid

end Palette

namespace Panel

def padding : Float32 := 10

def fontSize : Float32 := 22

def lineHeight : Float32 := 26

def rowHeight : Float32 := lineHeight - 4

/-- The box of the panel on a screen. -/
def place (screen : Rect) : Rect :=
  let width := screen.width / 4
  let height := screen.height / 4
  .ofCorner (screen.right - width - padding) (screen.bottom - height - padding) width height

/-- The rows from height `y` on that begin above `bottom`. -/
def rowLabels (palette : Palette) (x bottom y : Float32) : List Row → List Label
  | [] => []
  | r :: rest =>
    if bottom ≤ y then []
    else
      ⟨r.line, .left, x, y, .monospace, fontSize - 2, palette.row r.style⟩ ::
        rowLabels palette x bottom (y + rowHeight) rest

end Panel

/-- What a surface was asked to draw. -/
structure Painting where
  shapes : List Shape
  rows : Nat

namespace Painting

def blank : Painting := ⟨[], 0⟩

end Painting

open Panel

/-- Paints a snapshot into a box. -/
def Snapshot.paint (s : Snapshot) (palette : Palette) (box : Rect) : Painting :=
  let x := box.left + padding
  let headY := box.top + padding
  let titleY := headY + lineHeight
  let rows := rowLabels palette x (box.bottom - padding) (titleY + lineHeight) s.rows
  let heads : List Label :=
    [⟨heading, .left, x, headY, .proportional, fontSize, palette.header⟩,
     ⟨s.countLabel, .right, box.right - padding, headY, .proportional, fontSize - 4, palette.stale⟩,
     ⟨columnTitles, .left, x, titleY, .monospace, fontSize - 2, palette.header⟩]
  { shapes :=
      [.box box palette.background 0 .transparent, .box box .transparent 1 palette.border] ++
        (heads ++ rows).map .label
    rows := rows.length }

/-- Paints a snapshot onto a screen. -/
def Snapshot.paintOn (s : Snapshot) (palette : Palette) (screen : Rect) : Painting :=
  s.paint palette (place screen)

end CanScope
