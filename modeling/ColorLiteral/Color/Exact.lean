import ColorLiteral.Color.Space

/-!
# Conversions without rounding

The rational numbers as numbers of the color space conversions. Over them the formulas have no
rounding, so that they can be compared with what they are meant to compute.
-/

namespace ColorLiteral

namespace ExactScalar

/-- The whole part of a quotient, toward zero. -/
def truncate (q : Rat) : Int := if 0 ≤ q then q.floor else q.ceil

/-- The remainder of a division that truncates. -/
def rem (x y : Rat) : Rat := x - truncate (x / y) * y

end ExactScalar

instance : ColorScalar Rat where
  num n := n
  abs x := if x < 0 then -x else x
  rem := ExactScalar.rem
  less x y := x < y

end ColorLiteral
