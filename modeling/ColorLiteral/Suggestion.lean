import ColorLiteral.Binary64.Basic
import ColorLiteral.Text.Blank
import ColorLiteral.Text.Case

/-!
# Suggestions for misspelled labels

The known label that resembles a given one most. Two texts resemble each other by the length of
their longest common subsequence, as a share of their lengths together, times 100.
-/

namespace ColorLiteral.Suggestion

/-! ### The longest common subsequence -/

/-- One step of the table for the longest common subsequence: from the lengths for a text and every
end of another one, the lengths for the text with one more character in front. -/
def extendRow (a : Char) : Text → List Nat → List Nat
  | [], _ => [0]
  | _ :: _, [] => [0]
  | b :: t, best :: row =>
    let longer := extendRow a t row
    (if a = b then row.headD 0 + 1 else max best (longer.headD 0)) :: longer

/-- The lengths of the longest common subsequences of a text and every end of another one. -/
def commonRow (s t : Text) : List Nat :=
  s.foldr (fun a row => extendRow a t row) (List.replicate (t.length + 1) 0)

/-- The length of a longest common subsequence. -/
def commonLength (s t : Text) : Nat := (commonRow s t).headD 0

/-! ### Scores -/

/-- How much two texts resemble each other, from 0 to 100. -/
def score (s t : Text) : Rat :=
  if s.isEmpty && t.isEmpty then 100
  else (200 * commonLength s t : Nat) / (s.length + t.length : Nat)

/-- A known text and its score. -/
structure Match where
  text : Text
  score : Rat
  deriving DecidableEq, Repr

/-- The first of the texts with the greatest score, if any text reaches the cutoff. -/
def best? (query : Text) (cutoff : Rat) (known : List Text) : Option Match :=
  known.foldl
    (fun found candidate =>
      let s := score query candidate
      let better : Bool := match found with
        | none => cutoff ≤ s
        | some m => m.score < s
      if better then some ⟨candidate, s⟩ else found)
    none

/-- The form of a label that is compared. -/
def query (label : Text) : Text := Text.lower (Text.trim label)

/-- Whether a label is compared with the known ones at all: it is neither blank nor known. -/
def isSearched (label : Text) (known : List Text) : Bool :=
  !(query label).isEmpty && !known.isEmpty && !known.contains (query label)

/-- The known text that resembles a label most, if it is searched and reaches the cutoff. -/
def match? (label : Text) (known : List Text) (cutoff : Rat) : Option Match :=
  if isSearched label known then best? (query label) cutoff known else none

/-- The cutoff that is used when none is given. -/
def defaultCutoff : Rat := 60

/-- The known text to suggest for a label. -/
def suggest? (label : Text) (known : List Text) (cutoff : Rat) : Option Text :=
  (match? label known cutoff).map Match.text

/-! ### Cutoffs as binary64 numbers -/

/-- A cutoff is not between 0 and 100. -/
structure CutoffOutOfRange where
  deriving DecidableEq, Repr

/-- The wording of the error. -/
def CutoffOutOfRange.message (_ : CutoffOutOfRange) : Text :=
  "score_cutoff has to be in the range of 0.0 - 100.0"

/-- The exact value of a finite number. -/
def exactValue (negative : Bool) (magnitude : Magnitude) : Rat :=
  (Binary64.signedUnits negative magnitude : Rat) / (unitsPerOne : Nat)

/-- The known text to suggest for a label. The cutoff is looked at only if the label is searched,
and no score reaches a NaN. -/
def suggestAbove (label : Text) (known : List Text) (cutoff : Binary64) :
    Except CutoffOutOfRange (Option Text) :=
  if isSearched label known then
    if cutoff < 0 ∨ 100 < cutoff then .error ⟨⟩
    else match cutoff with
      | .finite negative magnitude => .ok (suggest? label known (exactValue negative magnitude))
      | _ => .ok none
  else .ok none

/-- A score with one decimal, a half to the even one. -/
def scoreText (score : Rat) : Text :=
  let tenths := roundHalfEven (score.num.toNat * 10) score.den
  Text.ofNat (tenths / 10) ++ "." ++ Text.ofNat (tenths % 10)

end ColorLiteral.Suggestion
