import ColorLiteral.Binary64.Basic

/-!
# Hue, saturation and lightness or brightness

The conversions from the two cylindrical color spaces to red, green and blue. Hues are degrees, the
other two coordinates percentages. Only the hue is wrapped, so percentages outside 0 to 100 give
channels outside 0 to 1. The formulas are stated over any numbers with the few operations they use.
-/

namespace ColorLiteral

/-- The operations that the conversions use. -/
class ColorScalar (α : Type) extends Add α, Sub α, Mul α, Div α where
  /-- A natural number. -/
  num : Nat → α
  /-- The absolute value. -/
  abs : α → α
  /-- The remainder of a division that truncates, with the sign of the dividend. -/
  rem : α → α → α
  /-- The order. -/
  less : α → α → Bool

instance : ColorScalar Binary64 where
  num := Binary64.ofNat
  abs := Binary64.abs
  rem := Binary64.rem
  less := Binary64.less

namespace ColorSpace

open ColorScalar (num abs rem less)

variable {α : Type} [ColorScalar α]

/-- A hue wrapped to one turn: the remainder by 360, and a turn more if that is negative. -/
def wrapHue (hue : α) : α :=
  let wrapped := rem hue (num 360)
  if less wrapped (num 0) then wrapped + num 360 else wrapped

/-- The channels of a sector of 60 degrees, before the offset: `c` is the largest one, `x` the
middle one. -/
def sectorChannels (h c x : α) : α × α × α :=
  if less h (num 1) then (c, x, num 0)
  else if less h (num 2) then (x, c, num 0)
  else if less h (num 3) then (num 0, c, x)
  else if less h (num 4) then (num 0, x, c)
  else if less h (num 5) then (x, num 0, c)
  else (c, num 0, x)

/-- The channels of a sector with the same offset added to each. -/
def shifted (h c x m : α) : α × α × α :=
  let (red, green, blue) := sectorChannels h c x
  (red + m, green + m, blue + m)

/-- Red, green and blue of a hue, a saturation and a lightness. -/
def rgbOfHsl (hue saturation lightness : α) : α × α × α :=
  let h := wrapHue hue / num 360
  let s := saturation / num 100
  let l := lightness / num 100
  let c := (num 1 - abs (num 2 * l - num 1)) * s
  let h := h * num 6
  let x := c * (num 1 - abs (rem h (num 2) - num 1))
  shifted h c x (l - c / num 2)

/-- Red, green and blue of a hue, a saturation and a brightness. -/
def rgbOfHsb (hue saturation brightness : α) : α × α × α :=
  let h := wrapHue hue / num 60
  let s := saturation / num 100
  let v := brightness / num 100
  let c := v * s
  let x := c * (num 1 - abs (rem h (num 2) - num 1))
  shifted h c x (v - c)

/-- Runs a conversion on a binary64 hue; an infinite hue has no place on the circle. -/
def onFiniteHue {β : Type} (convert : Binary64 → β) (hue : Binary64) : Option β :=
  if hue.isInfinite then none else some (convert hue)

end ColorSpace

end ColorLiteral
