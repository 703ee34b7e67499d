import ColorLiteral.Encoding.Unit

/-!
# Punycode

ASCII characters in front, and behind the last hyphen the other characters of the text, each by the
distance of its number and place from the one before it. The distances are numbers in base 36 with
digits of changing weight, so that short ones take few digits.
-/

namespace ColorLiteral.Encoding.Punycode

/-- The value of a digit: first the letters, then the decimal digits. -/
def digit? (c : Char) : Option Nat :=
  if 'a' ≤ c && c ≤ 'z' then some (c.toNat - 'a'.toNat)
  else if 'A' ≤ c && c ≤ 'Z' then some (c.toNat - 'A'.toNat)
  else if '0' ≤ c && c ≤ '9' then some (c.toNat - '0'.toNat + 26)
  else none

/-- The least value of a digit behind which another one follows. -/
def threshold (place bias : Nat) : Nat :=
  if 36 * (place + 1) ≤ bias then 1 else min 26 (max 1 (36 * (place + 1) - bias))

/-- Halves a distance again and again until it is small, and tells how often in steps of 36. -/
def shrink (distance : Nat) : Nat × Nat :=
  if 455 < distance then
    let (rest, steps) := shrink (distance / 35)
    (rest, steps + 36)
  else (distance, 0)
termination_by distance
decreasing_by exact Nat.div_lt_self (by omega) (by omega)

/-- The bias behind a distance in a text of some characters. -/
def nextBias (distance size : Nat) (isFirst : Bool) : Nat :=
  let damped := if isFirst then distance / 700 else distance / 2
  let (rest, steps) := shrink (damped + damped / size)
  steps + 36 * rest / (rest + 38)

/-- The number at the start of a text, behind `place` digits of it that have been read, with what
follows. -/
def readNumber? (bias : Nat) : Nat → Nat → Nat → Text → Option (Nat × Text)
  | _, _, _, [] => none
  | place, weight, value, c :: rest => do
    let digit ← digit? c
    let value := value + digit * weight
    let least := threshold place bias
    if digit < least then some (value, rest)
    else readNumber? bias (place + 1) (weight * (36 - least)) value rest

theorem length_lt_of_readNumber? {bias place weight value n : Nat} {t rest : Text}
    (h : readNumber? bias place weight value t = some (n, rest)) : rest.length < t.length := by
  induction t generalizing place weight value with
  | nil => simp [readNumber?] at h
  | cons c t ih =>
    simp only [readNumber?, Option.bind_eq_bind, Option.bind_eq_some_iff] at h
    obtain ⟨digit, _, h⟩ := h
    split at h
    · cases h
      simp
    · have := ih h
      simp only [List.length_cons]
      omega

/-- Inserts the characters that a text of distances describes into a text. -/
def insertAll? (base : Text) (point place bias : Nat) (isFirst : Bool) (distances : Text) :
    Option Text :=
  match distances with
  | [] => some base
  | c :: cs =>
    match _h : readNumber? bias 0 1 0 (c :: cs) with
    | none => none
    | some (distance, rest) =>
      let size := base.length + 1
      let target := place + distance
      let point := point + target / size
      let place := target % size
      if 0x110000 ≤ point then none
      else
        insertAll? (base.insertIdx place (if point.isValidChar then Char.ofNat point else '\ufffd'))
          point (place + 1) (nextBias distance size isFirst) false rest
termination_by distances.length
decreasing_by exact length_lt_of_readNumber? ‹_›

/-- The characters in front of the last hyphen, and those behind it. -/
def split (t : Text) : Text × Text :=
  let tail := (t.reverse.takeWhile (· ≠ '-')).reverse
  (t.take (t.length - tail.length - 1), tail)

/-- Decodes Punycode. -/
def decode? (bytes : List UInt8) : Option Text := do
  let (base, distances) := split (← decodeBytes ascii? bytes)
  insertAll? base 0x80 0 72 true distances

/-! ### Names of hosts -/

/-- Whether a label announces Punycode. -/
def isEncoded (label : Text) : Bool := "xn--".toList.isPrefixOf label

/-- Decodes names of hosts: ASCII labels of limited length between points. Labels in Punycode are
refused. -/
def decodeHost? (bytes : List UInt8) : Option Text := do
  let text ← decodeBytes ascii? bytes
  let labels := Text.splitOn '.' text
  if labels.all fun label => label.length ≤ 1024 && !isEncoded label then some text else none

end ColorLiteral.Encoding.Punycode
