import ColorLiteral.Binary64.DecimalText

/-!
# The shortest decimal text of a number

A finite number is written with the fewest significant digits that read back as the same number;
of two such texts the one nearer to the number, and of two equally near ones the one with the even
last digit.
-/

namespace ColorLiteral.Binary64

/-- The number of digits of a natural number in decimal notation. -/
def decimalWidth (n : Nat) : Nat := (Nat.toDigits 10 n).length

/-- The power of ten of the leading digit of a magnitude that is not zero. -/
def leadingPower (units : Nat) : Int :=
  (decimalWidth (units * Nat.pow 10 400 / unitsPerOne) : Int) - 401

/-- The quotient that counts a magnitude in steps of `10 ^ power`. -/
def inSteps (units : Nat) : Int → Nat × Nat
  | .ofNat e => (units, unitsPerOne * Nat.pow 10 e)
  | .negSucc e => (units * Nat.pow 10 (e + 1), unitsPerOne)

/-- Whether `count × 10 ^ power` reads as a magnitude. -/
def readsBack (units count : Nat) (power : Int) : Bool :=
  match Decimal.toBinary64 false ⟨(Nat.toDigits 10 count).map fun c => c.toNat - 48, power⟩ with
  | .finite _ m => m.units == units
  | _ => false

/-- The multiple of `10 ^ power` that is written for a magnitude: one of its two neighbours, if it
reads back; the nearer one when both do. -/
def neighbour? (units : Nat) (power : Int) : Option Nat :=
  let (num, den) := inSteps units power
  let below := num / den
  match readsBack units below power, readsBack units (below + 1) power with
  | true, true => some (roundHalfEven num den)
  | true, false => some below
  | false, true => some (below + 1)
  | false, false => none

/-- The digits of a magnitude as a count and the power of ten of its last digit. -/
def shortestDigits (units : Nat) : Nat × Int :=
  let top := leadingPower units
  let found := (List.range 17).findSome? fun (places : Nat) =>
    (neighbour? units (top - places)).map fun count => (count, top - places)
  found.getD
    (let (num, den) := inSteps units (top - 17)
     (roundHalfEven num den, top - 17))

/-- A list without the zeros at its end. -/
def dropTrailingZeros (digits : Text) : Text :=
  (digits.reverse.dropWhile (· == '0')).reverse

/-- Digits and the power of ten of the leading one, written out: with a point from `10 ^ (-4)` to
below `10 ^ 16`, otherwise with an exponent of at least two digits. -/
def layOut (digits : Text) (power : Int) : Text :=
  if -4 ≤ power ∧ power < 16 then
    if power < 0 then
      '0' :: '.' :: List.replicate (-power - 1).toNat '0' ++ digits
    else
      let places := power.toNat + 1
      let whole := digits.take places ++ List.replicate (places - digits.length) '0'
      let fraction := digits.drop places
      whole ++ '.' :: (if fraction.isEmpty then ['0'] else fraction)
  else
    let significand :=
      match digits with
      | [] => []
      | [d] => [d]
      | d :: rest => d :: '.' :: rest
    significand ++ 'e' :: (if power < 0 then '-' else '+') ::
      Text.padLeft 2 '0' (Text.ofNat power.natAbs)

/-- The text of a magnitude. -/
def magnitudeText (units : Nat) : Text :=
  if units = 0 then "0.0".toList
  else
    let (count, power) := shortestDigits units
    let all := Text.ofNat count
    layOut (dropTrailingZeros all) (power + (all.length : Int) - 1)

/-- The text of a number: the shortest one that reads back. -/
def toText : Binary64 → Text
  | .nan => "nan".toList
  | .infinite false => "inf".toList
  | .infinite true => "-inf".toList
  | .finite false m => magnitudeText m.units
  | .finite true m => '-' :: magnitudeText m.units

end ColorLiteral.Binary64
