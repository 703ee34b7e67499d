import ColorLiteral.Color.Hex
import ColorLiteral.Proofs.Text.Trim

/-!
# The texts of hexadecimal colors

Which texts spell a hexadecimal color, and which color: blanks at the ends, perhaps `#`, perhaps
`0x`, and 3, 4, 6 or 8 digits, of which the short forms stand for a form with eight digits.
Exactly these texts are decoded. Every other text is refused for the first of three reasons that
applies to its digits: there are none, their number is wrong, or one of them is no digit
(`decode_iff_spells`).

A text is the same as its digits behind some marker and between blanks (`exists_eq_normalize`), and
markers are told from digits (`normalize_between`), so that everything else is about the digits
alone.
-/

namespace ColorLiteral.Hex

/-! ### Digits -/

/-- The hexadecimal digits of both letter cases. -/
def digitChars : Text := "0123456789abcdefABCDEF"

/-- A hexadecimal digit in ASCII, in either letter case. -/
def IsDigit (c : Char) : Prop := c ∈ digitChars

instance (c : Char) : Decidable (IsDigit c) := inferInstanceAs (Decidable (c ∈ digitChars))

/-- The value of a digit. Its letter case makes no difference. -/
def digitValue (c : Char) : Nat := "0123456789abcdef".toList.idxOf c.toLower

theorem nibble?_of_isDigit {c : Char} (h : IsDigit c) : nibble? c = some (digitValue c) := by
  have hall : (digitChars.all fun c => nibble? c == some (digitValue c)) = true := by decide
  exact beq_iff_eq.1 (List.all_eq_true.1 hall c h)

/-- The characters with consecutive numbers from some number on. -/
theorem mem_of_toNat {c : Char} {first : Nat} (count : Nat) {t : Text} (hlow : first ≤ c.toNat)
    (hhigh : c.toNat < first + count) (ht : ∀ n < count, Char.ofNat (first + n) ∈ t) : c ∈ t := by
  have hmem := ht (c.toNat - first) (by omega)
  rwa [Nat.add_sub_cancel' hlow, Char.ofNat_toNat] at hmem

theorem isDigit_of_nibble? {c : Char} {n : Nat} (h : nibble? c = some n) : IsDigit c := by
  unfold nibble? at h
  simp only [Bool.and_eq_true, decide_eq_true_eq, Char.le_def, UInt32.le_iff_toNat_le,
    Char.toNat_val] at h
  split at h
  · next hc => exact mem_of_toNat 10 hc.1 (Nat.lt_succ_of_le hc.2) (by decide)
  split at h
  · next hc => exact mem_of_toNat 6 hc.1 (Nat.lt_succ_of_le hc.2) (by decide)
  split at h
  · next hc => exact mem_of_toNat 6 hc.1 (Nat.lt_succ_of_le hc.2) (by decide)
  · cases h

theorem nibble?_eq_none_iff {c : Char} : nibble? c = none ↔ ¬ IsDigit c := by
  constructor
  · intro h hc
    rw [nibble?_of_isDigit hc] at h
    cases h
  · intro hc
    by_contra h
    obtain ⟨n, hn⟩ := Option.ne_none_iff_exists'.1 h
    exact hc (isDigit_of_nibble? hn)

theorem nibbles_eq_ok_iff {t : Text} {values : List Nat} :
    nibbles t = .ok values ↔ (∀ c ∈ t, IsDigit c) ∧ t.map digitValue = values := by
  induction t generalizing values with
  | nil => simp [nibbles]
  | cons c t ih =>
    rw [nibbles, List.forall_mem_cons]
    by_cases hc : IsDigit c
    · simp only [nibble?_of_isDigit hc]
      constructor
      · intro h
        obtain ⟨others, hothers, rfl⟩ := Outcome.exists_of_map_eq_ok h
        obtain ⟨hdigits, rfl⟩ := ih.1 hothers
        exact ⟨⟨hc, hdigits⟩, rfl⟩
      · rintro ⟨⟨-, hdigits⟩, rfl⟩
        rw [ih.2 ⟨hdigits, rfl⟩]
        rfl
    · simp only [nibble?_eq_none_iff.2 hc]
      exact iff_of_false (by simp) fun h => hc h.1.1

/-- The first character that is no digit is reported. -/
theorem nibbles_eq_error_iff {t : Text} {fault : ColorFault} :
    nibbles t = .error fault ↔ ∃ before c after, t = before ++ c :: after ∧
      (∀ d ∈ before, IsDigit d) ∧ ¬ IsDigit c ∧ fault = .hexInvalidCharacter [c] := by
  induction t with
  | nil => simp [nibbles]
  | cons first t ih =>
    rw [nibbles]
    by_cases hfirst : IsDigit first
    · simp only [nibble?_of_isDigit hfirst]
      constructor
      · intro h
        obtain ⟨before, c, after, rfl, hbefore, hc, hfault⟩ := ih.1 (Outcome.of_map_eq_error h)
        exact ⟨first :: before, c, after, rfl, List.forall_mem_cons.2 ⟨hfirst, hbefore⟩, hc, hfault⟩
      · rintro ⟨before, c, after, heq, hbefore, hc, hfault⟩
        cases before with
        | nil =>
          cases heq
          exact absurd hfirst hc
        | cons d before =>
          obtain ⟨rfl, rfl⟩ := List.cons.inj heq
          rw [ih.2 ⟨before, c, after, rfl, (List.forall_mem_cons.1 hbefore).2, hc, hfault⟩]
          rfl
    · simp only [nibble?_eq_none_iff.2 hfirst]
      constructor
      · intro h
        cases h
        exact ⟨[], first, t, rfl, by simp, hfirst, rfl⟩
      · rintro ⟨before, c, after, heq, hbefore, -, rfl⟩
        cases before with
        | nil => cases heq; rfl
        | cons d before =>
          obtain ⟨rfl, -⟩ := List.cons.inj heq
          exact absurd (hbefore first (List.mem_cons_self ..)) hfirst

/-! ### Markers -/

/-- What may stand in front of the digits. -/
def markers : List Text := ["", "#", "0x", "0X", "#0x", "#0X"]

theorem blankFree_marker_append {marker digits : Text} (hmarker : marker ∈ markers)
    (hdigits : ∀ c ∈ digits, IsDigit c) : (marker ++ digits).BlankFree := by
  have hmarkers : (markers.all fun marker => marker.all fun c => !Text.isBlank c) = true := by
    decide
  have hchars : (digitChars.all fun c => !Text.isBlank c) = true := by decide
  refine Text.BlankFree.append (fun c hc => ?_) fun c hc => ?_
  · simpa using List.all_eq_true.1 (List.all_eq_true.1 hmarkers marker hmarker) c hc
  · simpa using List.all_eq_true.1 hchars c (hdigits c hc)

theorem dropHash_of_isDigit {t : Text} (h : ∀ c ∈ t, IsDigit c) : dropHash t = t := by
  unfold dropHash
  split
  · exact absurd (h '#' (by simp)) (by decide)
  · rfl

theorem dropBase_of_isDigit {t : Text} (h : ∀ c ∈ t, IsDigit c) : dropBase t = t := by
  unfold dropBase
  split
  · exact absurd (h 'x' (by simp)) (by decide)
  · exact absurd (h 'X' (by simp)) (by decide)
  · rfl

/-- Digits behind a marker and between blanks are what a text is reduced to. -/
theorem normalize_between {before marker digits behind : Text} (hbefore : before.IsBlanks)
    (hmarker : marker ∈ markers) (hbehind : behind.IsBlanks) (hdigits : ∀ c ∈ digits, IsDigit c)
    (hne : digits ≠ []) : normalize (before ++ ((marker ++ digits) ++ behind)) = digits := by
  have hsolid : (marker ++ digits).IsSolid :=
    Text.isSolid_of_blankFree (by simp [hne]) (blankFree_marker_append hmarker hdigits)
  rw [normalize, Text.trim_between hbefore hsolid hbehind]
  simp only [markers, List.mem_cons, List.not_mem_nil, or_false] at hmarker
  rcases hmarker with rfl | rfl | rfl | rfl | rfl | rfl
  · show dropBase (dropHash digits) = digits
    rw [dropHash_of_isDigit hdigits, dropBase_of_isDigit hdigits]
  · exact dropBase_of_isDigit hdigits
  · rfl
  · rfl
  · rfl
  · rfl

/-- Every text is what it is reduced to behind a marker and between blanks. -/
theorem exists_eq_normalize (t : Text) :
    ∃ before marker behind : Text, before.IsBlanks ∧ marker ∈ markers ∧ behind.IsBlanks ∧
      t = before ++ ((marker ++ normalize t) ++ behind) := by
  obtain ⟨before, behind, hbefore, hbehind, htrim⟩ := Text.exists_eq_trim t
  have hhash (s : Text) : s = dropHash s ∨ s = '#' :: dropHash s := by
    unfold dropHash
    split <;> simp
  have hbase (s : Text) :
      s = dropBase s ∨ s = '0' :: 'x' :: dropBase s ∨ s = '0' :: 'X' :: dropBase s := by
    unfold dropBase
    split <;> simp
  have hmarker : ∃ marker ∈ markers, Text.trim t = marker ++ normalize t := by
    rw [normalize]
    rcases hhash (Text.trim t) with h | h <;>
      rcases hbase (dropHash (Text.trim t)) with h' | h' | h'
    · exact ⟨"".toList, by decide, h.trans h'⟩
    · exact ⟨"0x".toList, by decide, h.trans h'⟩
    · exact ⟨"0X".toList, by decide, h.trans h'⟩
    · exact ⟨"#".toList, by decide, h.trans (congrArg _ h')⟩
    · exact ⟨"#0x".toList, by decide, h.trans (congrArg _ h')⟩
    · exact ⟨"#0X".toList, by decide, h.trans (congrArg _ h')⟩
  obtain ⟨marker, hmem, heq⟩ := hmarker
  exact ⟨before, marker, behind, hbefore, hmem, hbehind, by rw [← heq, ← htrim]⟩

/-! ### Colors -/

/-- The form of 3, 4, 6 or 8 digits with eight digits: the short forms have each digit once instead
of twice, and the forms without alpha stand for an opaque color. -/
def fullForm (digits : Text) : Text :=
  (if digits.length = 3 ∨ digits.length = 4 then digits.flatMap fun c => [c, c] else digits) ++
    if digits.length = 3 ∨ digits.length = 6 then ['F', 'F'] else []

/-- The bytes that pairs of digits spell. -/
def pairBytes : Text → List Nat
  | high :: low :: rest => (digitValue high * 16 + digitValue low) :: pairBytes rest
  | _ => []

/-- The digits spell a color: their form with eight digits spells its bytes. -/
structure SpellsDigits (digits : Text) (color : Rgba) : Prop where
  isDigit : ∀ c ∈ digits, IsDigit c
  length_mem : digits.length ∈ [3, 4, 6, 8]
  bytes : ∃ red green blue alpha, pairBytes (fullForm digits) = [red, green, blue, alpha] ∧
    color = .ofBytes red green blue alpha

/-- The text spells a color: digits that do, behind a marker and between blanks. -/
def Spells (t : Text) (color : Rgba) : Prop :=
  ∃ before marker digits behind : Text, t = before ++ ((marker ++ digits) ++ behind) ∧
    before.IsBlanks ∧ marker ∈ markers ∧ behind.IsBlanks ∧ SpellsDigits digits color

/-- The digits are refused, for the first reason that applies. -/
inductive Refuses (digits : Text) : ColorFault → Prop
  | empty (hdigits : digits = []) : Refuses digits .hexEmpty
  | length (hne : digits ≠ []) (hlength : digits.length ∉ [3, 4, 6, 8]) :
      Refuses digits (.hexUnsupportedLength digits.length)
  | character {before after : Text} {c : Char} (hlength : digits.length ∈ [3, 4, 6, 8])
      (hdigits : digits = before ++ c :: after) (hbefore : ∀ d ∈ before, IsDigit d)
      (hc : ¬ IsDigit c) : Refuses digits (.hexInvalidCharacter [c])

/-- A digit and the same digit spell what the short forms make of the digit. -/
theorem mul_sixteen_add_self (n : Nat) : n * 16 + n = n * 17 := by omega

theorem digitValue_F : digitValue 'F' = 15 := by decide

/-- The color of digit values is that of the form with eight digits. -/
theorem colorOfNibbles?_map {digits : Text} (hlength : digits.length ∈ digitCounts) :
    ∃ red green blue alpha, pairBytes (fullForm digits) = [red, green, blue, alpha] ∧
      colorOfNibbles? (digits.map digitValue) = some (.ofBytes red green blue alpha) := by
  simp only [digitCounts, List.mem_cons, List.not_mem_nil, or_false] at hlength
  rcases hlength with h | h | h | h
  · obtain ⟨r, g, b, rfl⟩ := List.length_eq_three.1 h
    refine ⟨_, _, _, 255, ?_, rfl⟩
    simp [fullForm, pairBytes, mul_sixteen_add_self, digitValue_F]
  · match digits, h with
    | [r, g, b, a], _ =>
      refine ⟨_, _, _, _, ?_, rfl⟩
      simp [fullForm, pairBytes, mul_sixteen_add_self]
  · match digits, h with
    | [r₁, r₀, g₁, g₀, b₁, b₀], _ =>
      refine ⟨_, _, _, 255, ?_, rfl⟩
      simp [fullForm, pairBytes, digitValue_F]
  · match digits, h with
    | [r₁, r₀, g₁, g₀, b₁, b₀, a₁, a₀], _ => exact ⟨_, _, _, _, rfl, rfl⟩

/-! ### Decoding -/

theorem decode_of_spellsDigits {t : Text} {color : Rgba} (h : SpellsDigits (normalize t) color) :
    decode t = .ok color := by
  obtain ⟨red, green, blue, alpha, hbytes, hcolor⟩ := colorOfNibbles?_map h.length_mem
  obtain ⟨red', green', blue', alpha', hbytes', rfl⟩ := h.bytes
  obtain ⟨rfl, rfl, rfl, rfl⟩ : red' = red ∧ green' = green ∧ blue' = blue ∧ alpha' = alpha := by
    simpa using hbytes'.symm.trans hbytes
  have hne : normalize t ≠ [] := by
    intro hnil
    have := h.length_mem
    rw [hnil] at this
    exact absurd this (by decide)
  have hnibbles : nibbles (normalize t) = .ok ((normalize t).map digitValue) :=
    nibbles_eq_ok_iff.2 ⟨h.isDigit, rfl⟩
  have hcount : (normalize t).length ∈ digitCounts := h.length_mem
  simp [decode, hne, hcount, hnibbles, hcolor]

theorem decode_of_refuses {t : Text} {fault : ColorFault} (h : Refuses (normalize t) fault) :
    decode t = .error fault := by
  cases h with
  | empty hdigits => simp [decode, hdigits]
  | length hne hlength =>
    have hcount : (normalize t).length ∉ digitCounts := hlength
    simp [decode, hne, hcount]
  | @character before after c hlength hdigits hbefore hc =>
    have hne : normalize t ≠ [] := by simp [hdigits]
    have hnibbles : nibbles (normalize t) = .error (.hexInvalidCharacter [c]) :=
      nibbles_eq_error_iff.2 ⟨before, c, after, hdigits, hbefore, hc, rfl⟩
    have hcount : (normalize t).length ∈ digitCounts := hlength
    simp [decode, hne, hcount, hnibbles]

theorem spellsDigits_or_refuses (digits : Text) :
    (∃ color, SpellsDigits digits color) ∨ ∃ fault, Refuses digits fault := by
  by_cases hlength : digits.length ∈ digitCounts
  · cases hnibbles : nibbles digits with
    | ok values =>
      obtain ⟨red, green, blue, alpha, hbytes, -⟩ := colorOfNibbles?_map hlength
      exact .inl ⟨_, (nibbles_eq_ok_iff.1 hnibbles).1, hlength, _, _, _, _, hbytes, rfl⟩
    | error fault =>
      obtain ⟨before, c, after, hdigits, hbefore, hc, rfl⟩ := nibbles_eq_error_iff.1 hnibbles
      exact .inr ⟨_, .character hlength hdigits hbefore hc⟩
  · by_cases hne : digits = []
    · exact .inr ⟨_, .empty hne⟩
    · exact .inr ⟨_, .length hne hlength⟩

theorem decode_eq_ok_iff {t : Text} {color : Rgba} :
    decode t = .ok color ↔ SpellsDigits (normalize t) color := by
  refine ⟨fun h => ?_, decode_of_spellsDigits⟩
  rcases spellsDigits_or_refuses (normalize t) with ⟨color', hspells⟩ | ⟨fault, hrefuses⟩
  · obtain rfl : color' = color := Except.ok.inj ((decode_of_spellsDigits hspells).symm.trans h)
    exact hspells
  · cases (decode_of_refuses hrefuses).symm.trans h

theorem decode_eq_error_iff {t : Text} {fault : ColorFault} :
    decode t = .error fault ↔ Refuses (normalize t) fault := by
  refine ⟨fun h => ?_, decode_of_refuses⟩
  rcases spellsDigits_or_refuses (normalize t) with ⟨color, hspells⟩ | ⟨fault', hrefuses⟩
  · cases (decode_of_spellsDigits hspells).symm.trans h
  · obtain rfl : fault' = fault := Except.error.inj ((decode_of_refuses hrefuses).symm.trans h)
    exact hrefuses

theorem spells_iff {t : Text} {color : Rgba} :
    Spells t color ↔ SpellsDigits (normalize t) color := by
  constructor
  · rintro ⟨before, marker, digits, behind, rfl, hbefore, hmarker, hbehind, hspells⟩
    have hne : digits ≠ [] := by
      rintro rfl
      exact absurd hspells.length_mem (by decide)
    rwa [normalize_between hbefore hmarker hbehind hspells.isDigit hne]
  · intro hspells
    obtain ⟨before, marker, behind, hbefore, hmarker, hbehind, heq⟩ := exists_eq_normalize t
    exact ⟨before, marker, normalize t, behind, heq, hbefore, hmarker, hbehind, hspells⟩

/-- Exactly the texts that spell a color are decoded, to that color. Every other text is refused for
the first reason that applies to what it is reduced to. -/
theorem decode_iff_spells (t : Text) :
    (∀ color, decode t = .ok color ↔ Spells t color) ∧
    ((¬ ∃ color, Spells t color) ↔ ∃ fault, Refuses (normalize t) fault) ∧
    ∀ fault, decode t = .error fault ↔ Refuses (normalize t) fault := by
  have hcolor (color : Rgba) : decode t = .ok color ↔ Spells t color :=
    decode_eq_ok_iff.trans spells_iff.symm
  refine ⟨hcolor, ?_, fun fault => decode_eq_error_iff⟩
  constructor
  · intro hno
    cases h : decode t with
    | ok color => exact absurd ⟨color, (hcolor color).1 h⟩ hno
    | error fault => exact ⟨fault, decode_eq_error_iff.1 h⟩
  · rintro ⟨fault, hrefuses⟩ ⟨color, hspells⟩
    cases ((hcolor color).2 hspells).symm.trans (decode_of_refuses hrefuses)

end ColorLiteral.Hex
