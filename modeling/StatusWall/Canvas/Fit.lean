import StatusWall.Geometry.Basic

/-!
# Fitting the canvas into the window

The canvas is the largest rectangle of the board's aspect ratio in the space that is left for it, in
the middle. Rectangles on the screen are kept by two corners.
-/

namespace StatusWall

open StatusWall.Geometry

/-- A rectangle on the screen. -/
structure ScreenRect (σ : Type) where
  min : Point σ
  max : Point σ

namespace ScreenRect

variable {σ : Type} [Scalar σ]

/-- The width. -/
def width (r : ScreenRect σ) : σ := r.max.x - r.min.x

/-- The height. -/
def height (r : ScreenRect σ) : σ := r.max.y - r.min.y

/-- The center. -/
def center (r : ScreenRect σ) : Point σ :=
  { x := (r.min.x + r.max.x) / 2.0, y := (r.min.y + r.max.y) / 2.0 }

/-- The rectangle of a size with its upper left corner at a point. -/
def ofSize (min : Point σ) (size : Size σ) : ScreenRect σ :=
  { min, max := { x := min.x + size.width, y := min.y + size.height } }

/-- The rectangle of a size about a center. -/
def ofCenter (c : Point σ) (size : Size σ) : ScreenRect σ :=
  { min := { x := c.x - size.width * 0.5, y := c.y - size.height * 0.5 }
    max := { x := c.x + size.width * 0.5, y := c.y + size.height * 0.5 } }

/-- Whether a point lies in the rectangle, its edge included. -/
def contains (r : ScreenRect σ) (p : Point σ) : Bool :=
  decide (r.min.x ≤ p.x) && decide (p.x ≤ r.max.x) &&
    decide (r.min.y ≤ p.y) && decide (p.y ≤ r.max.y)

/-- The largest rectangle of an aspect ratio inside, about the same center. -/
def fitAspect (available : ScreenRect σ) (aspect : σ) : ScreenRect σ :=
  let width := lesser available.width (available.height * aspect)
  ofCenter available.center { width, height := width / aspect }

variable {α : Type} [Scalar α] [Screen σ α]

/-- A point of the screen in the document's numbers. -/
def widenPoint (p : Point σ) : Point α := { x := Screen.widen p.x, y := Screen.widen p.y }

/-- A point in the screen's numbers. -/
def narrowPoint (p : Point α) : Point σ := { x := Screen.narrow p.x, y := Screen.narrow p.y }

/-- The canvas that a rectangle on the screen is. -/
def layout (r : ScreenRect σ) : Layout α :=
  { origin := widenPoint r.min
    size := { width := Screen.widen r.width, height := Screen.widen r.height } }

end ScreenRect

end StatusWall
