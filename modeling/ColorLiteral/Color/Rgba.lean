import ColorLiteral.Binary64.Shortest
import ColorLiteral.Color.Names

/-!
# Colors

A color is four binary64 channels: red, green, blue and alpha. Channels are meant to lie between
zero and one but need not; everything that shows a color in bytes clamps them first.
-/

namespace ColorLiteral

/-- A color with red, green, blue and alpha channels. -/
structure Rgba where
  red : Binary64
  green : Binary64
  blue : Binary64
  alpha : Binary64
  deriving DecidableEq

namespace Rgba

/-! ### Channels and bytes -/

/-- The channel of a byte. -/
def channelOfByte (byte : Nat) : Binary64 := Binary64.ofNat byte / 255

/-- The color with four given bytes. -/
def ofBytes (red green blue alpha : Nat) : Rgba :=
  ⟨channelOfByte red, channelOfByte green, channelOfByte blue, channelOfByte alpha⟩

/-- The channel of any integer, none for one beyond the range of binary64. -/
def channelOfInt? (n : Int) : Option Binary64 :=
  let x := Binary64.ofInt n
  if x.isFinite then some (x / 255) else none

/-- The color whose channels are four integers over 255. -/
def ofInts? (red green blue alpha : Int) : Option Rgba := do
  some ⟨← channelOfInt? red, ← channelOfInt? green, ← channelOfInt? blue, ← channelOfInt? alpha⟩

/-- The number between zero and one nearest to a number, zero for a NaN. -/
def toUnitInterval (x : Binary64) : Binary64 :=
  if 0 < x then if x < 1 then x else 1 else 0

/-- The byte nearest to a channel, a tie to the even byte. -/
def byteOfChannel (x : Binary64) : Nat := (toUnitInterval x * 255).nearestNat

/-! ### Views -/

/-- Whether a channel lies between zero and one. -/
def inUnit (x : Binary64) : Bool := 0 ≤ x && x ≤ 1

/-- Whether every channel lies between zero and one. -/
def inGamut (c : Rgba) : Bool := inUnit c.red && inUnit c.green && inUnit c.blue && inUnit c.alpha

/-- The color with every channel clamped. -/
def clamped (c : Rgba) : Rgba :=
  ⟨toUnitInterval c.red, toUnitInterval c.green, toUnitInterval c.blue, toUnitInterval c.alpha⟩

/-- The channels in order. -/
def channels (c : Rgba) : List Binary64 := [c.red, c.green, c.blue, c.alpha]

/-- The bytes of the channels in order. -/
def toBytes (c : Rgba) : List Nat := c.channels.map byteOfChannel

/-- The color as `#rrggbb`. -/
def toHex (c : Rgba) : Text :=
  '#' :: [c.red, c.green, c.blue].flatMap fun x => Text.hexDigits 2 (byteOfChannel x)

/-- The color as `#rrggbbaa`. -/
def toHexAlpha (c : Rgba) : Text := c.toHex ++ Text.hexDigits 2 (byteOfChannel c.alpha)

/-- The name of the color, if it has one; alpha does not count. -/
def name? (c : Rgba) : Option Text :=
  ColorName.ofBytes? (byteOfChannel c.red) (byteOfChannel c.green) (byteOfChannel c.blue)

/-- The transparent black that stands in for a color that cannot be resolved. -/
def fallback : Rgba := ⟨0, 0, 0, 0⟩

end Rgba

end ColorLiteral
