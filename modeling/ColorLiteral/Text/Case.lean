import ColorLiteral.Text.CaseTable

/-!
# Letter case

Lower case and upper case of whole texts. A mapping may lengthen the text (`İ` becomes `i` and a
combining dot, `ß` becomes `SS`), and a capital sigma at the end of a word becomes a final sigma.
-/

namespace ColorLiteral.Text

/-- The character that a table of runs assigns to a character, itself when it has no entry. -/
def mapByRuns (runs : List (Nat × Nat × Nat × Nat)) (c : Char) : Char :=
  match runs.find? fun (first, last, step, _) =>
      first ≤ c.toNat && c.toNat ≤ last && (c.toNat - first) % step == 0 with
  | some (first, _, _, image) => Char.ofNat (image + (c.toNat - first))
  | none => c

/-- Whether a character is cased. -/
def isCased (c : Char) : Bool := CharTable.covers casedRanges c

/-- Whether a character is passed over in the search for a cased neighbour. -/
def isCaseIgnorable (c : Char) : Bool := CharTable.covers caseIgnorableRanges c

/-- Whether the nearest character that counts, read outwards from a place, is cased. -/
def meetsCased (neighbours : Text) : Bool :=
  match neighbours.dropWhile isCaseIgnorable with
  | [] => false
  | c :: _ => isCased c

/-- The lower case of the rest of a text, behind what stands before it in reverse order. -/
def lowerAfter (before : Text) : Text → Text
  | [] => []
  | c :: rest =>
    let here : Text :=
      if c = 'Σ' then
        if meetsCased before && !meetsCased rest then ['ς'] else ['σ']
      else if c = 'İ' then ['i', '\u0307']
      else [mapByRuns lowerRuns c]
    here ++ lowerAfter (c :: before) rest

/-- The lower case of a text. -/
def lower (t : Text) : Text := lowerAfter [] t

/-- The upper case of a character, which may have several characters. -/
def upperChar (c : Char) : Text :=
  match upperExpansions.find? (·.1 == c.toNat) with
  | some (_, expansion) => expansion.map Char.ofNat
  | none => [mapByRuns upperRuns c]

/-- The upper case of a text. -/
def upper (t : Text) : Text := t.flatMap upperChar

end ColorLiteral.Text
