import Mathlib.Data.Int.Notation
import Mathlib.Data.Nat.Notation

/-!
# Coordinates of the console

Points and rectangles in `SHORT`s, with their bounds in the rectangle.
-/

namespace InitialSetups.Winpty

/-- A number as a `SHORT` holds it. -/
def toShort (z : ℤ) : ℤ := (z + 0x8000) % 0x10000 - 0x8000

lemma toShort_of_lt {z : ℤ} (h : -0x8000 ≤ z) (h' : z < 0x8000) : toShort z = z := by
  rw [toShort]
  omega

structure Coord where
  X : ℤ := 0
  Y : ℤ := 0
deriving DecidableEq, Repr

structure SmallRect where
  Left : ℤ := 0
  Top : ℤ := 0
  Right : ℤ := 0
  Bottom : ℤ := 0
deriving DecidableEq, Repr

namespace SmallRect

def ofSize (x y width height : ℤ) : SmallRect where
  Left := toShort x
  Top := toShort y
  Right := toShort (x + width - 1)
  Bottom := toShort (y + height - 1)

def width (r : SmallRect) : ℤ := toShort (r.Right - r.Left + 1)

def height (r : SmallRect) : ℤ := toShort (r.Bottom - r.Top + 1)

def contains (r : SmallRect) (c : Coord) : Bool :=
  c.X ≥ r.Left ∧ c.X ≤ r.Right ∧ c.Y ≥ r.Top ∧ c.Y ≤ r.Bottom

/-- A rectangle that begins at the top left, as it were, and is not empty. -/
structure Valid (r : SmallRect) : Prop where
  left : 0 ≤ r.Left
  top : 0 ≤ r.Top
  right : r.Left ≤ r.Right ∧ r.Right < 0x7FFF
  bottom : r.Top ≤ r.Bottom ∧ r.Bottom < 0x7FFF

end SmallRect

end InitialSetups.Winpty
