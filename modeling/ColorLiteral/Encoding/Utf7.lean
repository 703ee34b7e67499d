import ColorLiteral.Text.Basic

/-!
# UTF-7

ASCII characters stand for themselves, except that a plus sign starts a section in base 64 with the
units of UTF-16. A minus sign may end the section, and is dropped then.
-/

namespace ColorLiteral.Encoding.Utf7

/-- The six bits of a byte in base 64. -/
def sixBits? (byte : UInt8) : Option Nat :=
  if 0x41 ≤ byte && byte ≤ 0x5A then some (byte.toNat - 0x41)
  else if 0x61 ≤ byte && byte ≤ 0x7A then some (byte.toNat - 0x61 + 26)
  else if 0x30 ≤ byte && byte ≤ 0x39 then some (byte.toNat - 0x30 + 52)
  else if byte = 0x2B then some 62
  else if byte = 0x2F then some 63
  else none

/-- Where the decoder is. -/
inductive State
  /-- Among characters that stand for themselves. -/
  | plain
  /-- Inside a section: bits that do not make a unit yet, their number, and the first half of a
  pair. -/
  | section (bits count : Nat) (high : Option Nat)
  deriving DecidableEq, Repr

/-- Stands for half of a pair. -/
def half : Char := '\ufffd'

/-- The text of one more unit behind the first half of a pair or none, and the first half that is
left. -/
def takeUnit (high : Option Nat) (unit : Nat) : Text × Option Nat :=
  let isHigh := 0xD800 ≤ unit && unit < 0xDC00
  let isLow := 0xDC00 ≤ unit && unit < 0xE000
  match high with
  | some h =>
    if isLow then ([Char.ofNat (0x10000 + (h - 0xD800) * 0x400 + (unit - 0xDC00))], none)
    else if isHigh then ([half], some unit)
    else ([half, Char.ofNat unit], none)
  | none =>
    if isHigh then ([], some unit) else if isLow then ([half], none) else ([Char.ofNat unit], none)

/-- The text of six more bits of a section, and the state behind them. -/
def takeBits (bits count : Nat) (high : Option Nat) (six : Nat) : Text × State :=
  let bits := bits * 64 + six
  let count := count + 6
  if count < 16 then ([], .section bits count high)
  else
    let weight := Nat.pow 2 (count - 16)
    let (text, high) := takeUnit high (bits / weight)
    (text, .section (bits % weight) (count - 16) high)

/-- Whether a section may end with some bits left: fewer than six, all of them zero. -/
def isPadding (bits count : Nat) : Bool := count < 6 && bits = 0

/-- Decodes bytes in a state. -/
def decodeFrom? : State → List UInt8 → Option Text
  | .plain, [] => some []
  | .section bits count high, [] =>
    if isPadding bits count && high.isNone then some [] else none
  | .plain, 0x2B :: rest =>
    match rest with
    | [] => some []
    | next :: after =>
      if next = 0x2D then (decodeFrom? .plain after).map ('+' :: ·)
      else match sixBits? next with
        | none => none
        | some six =>
          let (text, state) := takeBits 0 0 none six
          (decodeFrom? state after).map (text ++ ·)
  | .plain, byte :: rest =>
    if byte < 0x80 then (decodeFrom? .plain rest).map (Char.ofNat byte.toNat :: ·) else none
  | .section bits count high, byte :: rest =>
    match sixBits? byte with
    | some six =>
      let (text, state) := takeBits bits count high six
      (decodeFrom? state rest).map (text ++ ·)
    | none =>
      if isPadding bits count && byte < 0x80 then
        let left : Text := if high.isSome then [half] else []
        let ending : Text := if byte = 0x2D then [] else [Char.ofNat byte.toNat]
        (decodeFrom? .plain rest).map (left ++ ending ++ ·)
      else none

/-- Decodes UTF-7. -/
def decode? : List UInt8 → Option Text := decodeFrom? .plain

end ColorLiteral.Encoding.Utf7
