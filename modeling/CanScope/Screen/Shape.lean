/-!
# Shapes on a drawing surface

Places are in pixels, from the upper left corner of the surface, as 32-bit floating point numbers.
-/
namespace CanScope

/-- A colour whose components are already multiplied by its opacity. -/
structure Colour where
  red : UInt8
  green : UInt8
  blue : UInt8
  alpha : UInt8
  deriving DecidableEq, Repr

namespace Colour

def transparent : Colour := ⟨0, 0, 0, 0⟩

def opaqueOf (red green blue : UInt8) : Colour := ⟨red, green, blue, 255⟩

end Colour

structure Rect where
  left : Float32
  top : Float32
  right : Float32
  bottom : Float32

namespace Rect

/-- The rectangle of a size, from its upper left corner. -/
def ofCorner (left top width height : Float32) : Rect := ⟨left, top, left + width, top + height⟩

def width (r : Rect) : Float32 := r.right - r.left

def height (r : Rect) : Float32 := r.bottom - r.top

/-- The surface that is assumed where nobody says how large it is. -/
def assumed : Rect := ofCorner 0 0 10000 10000

end Rect

inductive Font where
  | proportional | monospace
  deriving DecidableEq, Repr

/-- Which end of a text a place belongs to. -/
inductive Anchor where
  | left | right
  deriving DecidableEq, Repr

/-- A line of text; its place is the upper corner at its anchor. -/
structure Label where
  text : String
  anchor : Anchor
  x : Float32
  y : Float32
  font : Font
  size : Float32
  colour : Colour

inductive Shape where
  | box (rect : Rect) (fill : Colour) (strokeWidth : Float32) (stroke : Colour)
  | label (l : Label)

end CanScope
