import ColorLiteral.Proofs.Outcome
import ColorLiteral.Proofs.Token.Lexeme
import ColorLiteral.Session.Emission

/-!
# Plain templates

A plain template is written from text, whose braces are doubled, and from placeholders for the texts
of a color. It can be filled with any texts, and gives its text with these in place of the
placeholders; nothing of them is read as a part of the template, and attributes of texts make no
difference (`fill_values`). So it can be filled with every color (`fill_written`).

The pieces of a plain template are those of its parts (`pieces_written`), and each of them stands
for a text: a name of letters only is looked up as it is (`lookUp_of_isPlainName`).
-/

namespace ColorLiteral.Template

/-! ### Plain names -/

/-- A name of letters only. -/
def IsPlainName (name : Text) : Prop := name ≠ [] ∧ ∀ c ∈ name, c.isAlpha = true

theorem ne_of_isAlpha {c d : Char} (hc : c.isAlpha = true) (hd : d.isAlpha = false) : c ≠ d := by
  rintro rfl
  rw [hc] at hd
  cases hd

theorem splitName_append {name : Text} (h : ∀ c ∈ name, c.isAlpha = true) (rest : Text) :
    splitName false (name ++ '}' :: rest) = .ok (name, '}', rest) := by
  induction name with
  | nil => simp [splitName]
  | cons c name ih =>
    obtain ⟨hc, hname⟩ := List.forall_mem_cons.1 h
    have hopen : c ≠ '{' := ne_of_isAlpha hc (by decide)
    have hclose : c ≠ '}' := ne_of_isAlpha hc (by decide)
    have hcolon : c ≠ ':' := ne_of_isAlpha hc (by decide)
    have hmark : c ≠ '!' := ne_of_isAlpha hc (by decide)
    have hbracket : (c == '[') = false := beq_eq_false_iff_ne.2 (ne_of_isAlpha hc (by decide))
    rw [List.cons_append, splitName]
    simp [hopen, hclose, hcolon, hmark, hbracket, ih hname, Except.map]

theorem splitField_append {name : Text} (h : ∀ c ∈ name, c.isAlpha = true) (rest : Text) :
    splitField (name ++ '}' :: rest) = .ok (⟨name, none, []⟩, rest) := by
  simp [splitField, splitName_append h rest]

/-- A plain name has no path behind its first part. -/
theorem takeWhile_of_isPlainName {name : Text} (h : IsPlainName name) :
    name.takeWhile (fun c => c != '.' && c != '[') = name := by
  rw [List.takeWhile_eq_self_iff]
  intro c hc
  have hpoint : c ≠ '.' := ne_of_isAlpha (h.2 c hc) (by decide)
  have hbracket : c ≠ '[' := ne_of_isAlpha (h.2 c hc) (by decide)
  simp [hpoint, hbracket]

theorem index?_of_isPlainName {name : Text} (h : IsPlainName name) : index? name = .ok none := by
  obtain ⟨hne, hletters⟩ := h
  obtain ⟨c, rest, rfl⟩ := List.exists_cons_of_ne_nil hne
  have hc := Text.isDecimalDigit_of_isAlpha (hletters c List.mem_cons_self)
  have hdigits : (c :: rest).takeWhile Text.isDecimalDigit = [] := by
    simp [hc]
  rw [index?, hdigits]
  rfl

/-- A plain name stands for the text under it. -/
theorem lookUp_of_isPlainName {values : Values} {name value : Text} (attributes : Attributes)
    (h : IsPlainName name) (hvalue : values.lookup name = some value) :
    lookUp attributes values name = .ok (.ofText value) := by
  rw [lookUp, takeWhile_of_isPlainName h, index?_of_isPlainName h]
  simp [h.1, hvalue, followParts]

/-! ### Parts of a plain template -/

/-- A text of a color that a template may name. -/
inductive Placeholder
  | red
  | green
  | blue
  | alpha
  | hex
  | hexa
  deriving DecidableEq, Repr

namespace Placeholder

/-- The name of a text of a color. -/
def name : Placeholder → Text
  | red => "red"
  | green => "green"
  | blue => "blue"
  | alpha => "alpha"
  | hex => "hex"
  | hexa => "hexa"

/-- A text of a color. -/
def value (c : Rgba) : Placeholder → Text
  | red => c.red.toText
  | green => c.green.toText
  | blue => c.blue.toText
  | alpha => c.alpha.toText
  | hex => c.toHex
  | hexa => c.toHexAlpha

theorem isPlainName (p : Placeholder) : IsPlainName p.name := by
  cases p <;> exact ⟨by decide, List.all_eq_true.1 (by decide)⟩

/-- Texts under the names of the placeholders. -/
def values (texts : Placeholder → Text) : Values :=
  [red, green, blue, alpha, hex, hexa].map fun p => (p.name, texts p)

theorem lookup_name (texts : Placeholder → Text) (p : Placeholder) :
    (values texts).lookup p.name = some (texts p) := by
  cases p <;> rfl

theorem values_value (c : Rgba) : values (value c) = c.templateValues := rfl

end Placeholder

/-- A part of a plain template. -/
inductive Part
  | text (t : Text)
  | placeholder (p : Placeholder)
  deriving DecidableEq, Repr

/-- A character as it is written in a template. -/
def written (c : Char) : Text := if c = '{' ∨ c = '}' then [c, c] else [c]

namespace Part

/-- A part as it is written. -/
def written : Part → Text
  | text t => t.flatMap Template.written
  | placeholder p => SurfaceTable.field p.name

/-- What a part stands for with a color. -/
def value (c : Rgba) : Part → Text
  | text t => t
  | placeholder p => p.value c

/-- What a part stands for with some texts for the placeholders. -/
def filled (texts : Placeholder → Text) : Part → Text
  | text t => t
  | placeholder p => texts p

theorem filled_value (c : Rgba) : filled (Placeholder.value c) = value c := by
  funext part
  cases part <;> rfl

/-- The pieces of a part. -/
def pieces : Part → List Piece
  | text t => t.map .literal
  | placeholder p => [.field ⟨p.name, none, []⟩]

end Part

/-! ### Pieces of a plain template -/

theorem pieces_written_append (c : Char) (rest : Text) :
    pieces (written c ++ rest) = .literal c :: pieces rest := by
  by_cases hopen : c = '{'
  · subst hopen
    exact pieces.eq_2 rest
  · by_cases hclose : c = '}'
    · subst hclose
      exact pieces.eq_3 rest
    · rw [written, if_neg (by simp [hopen, hclose])]
      simp [pieces, hopen, hclose]

theorem pieces_field_append {name : Text} (h : IsPlainName name) (rest : Text) :
    pieces (SurfaceTable.field name ++ rest) = .field ⟨name, none, []⟩ :: pieces rest := by
  obtain ⟨c, tail, hname⟩ := List.exists_cons_of_ne_nil h.1
  have hopen : c ≠ '{' := ne_of_isAlpha (h.2 c (hname ▸ List.mem_cons_self)) (by decide)
  have hsplit := splitField_append h.2 rest
  have hfield : SurfaceTable.field name ++ rest = '{' :: (name ++ '}' :: rest) := by
    simp [SurfaceTable.field]
  rw [hfield, pieces]
  · split
    · next hfault => simp [hsplit] at hfault
    · next hfound =>
      rw [hsplit] at hfound
      cases hfound
      rfl
  · intro tail' heq
    rw [hname] at heq
    exact hopen (List.cons.inj heq).1
  · intro heq
    rw [hname] at heq
    cases heq

theorem pieces_part_append (part : Part) (rest : Text) :
    pieces (part.written ++ rest) = part.pieces ++ pieces rest := by
  cases part with
  | text t =>
    rw [Part.written, Part.pieces]
    induction t with
    | nil => rfl
    | cons c t ih => rw [List.flatMap_cons, List.append_assoc, pieces_written_append, ih]; rfl
  | placeholder p => exact pieces_field_append p.isPlainName rest

/-- The pieces of a plain template are those of its parts. -/
theorem pieces_written (parts : List Part) :
    pieces (parts.flatMap Part.written) = parts.flatMap Part.pieces := by
  induction parts with
  | nil => simp [pieces]
  | cons part parts ih => rw [List.flatMap_cons, pieces_part_append, ih, List.flatMap_cons]

/-! ### Filling a plain template -/

/-- What a piece of a plain template stands for. -/
def Piece.filled (values : Values) : Piece → Text
  | .literal char => [char]
  | .field f => (values.lookup f.name).getD []
  | .broken _ => []

variable (texts : Placeholder → Text)

theorem Piece.filled_field (p : Placeholder) :
    Piece.filled (Placeholder.values texts) (.field ⟨p.name, none, []⟩) = texts p := by
  rw [Piece.filled, p.lookup_name texts, Option.getD_some]

theorem flatten_map_filled (parts : List Part) :
    ((parts.flatMap Part.pieces).map (Piece.filled (Placeholder.values texts))).flatten =
      parts.flatMap (Part.filled texts) := by
  induction parts with
  | nil => rfl
  | cons part parts ih =>
    rw [List.flatMap_cons, List.map_append, List.flatten_append, ih, List.flatMap_cons]
    congr 1
    cases part with
    | text t =>
      rw [Part.pieces, List.map_map, ← List.flatMap_def]
      exact List.flatMap_singleton' t
    | placeholder p => simp [Part.pieces, Part.filled, Piece.filled_field]

/-- A plain template can be filled with any texts. It gives its own text with these in place of the
placeholders, whatever braces are in them. -/
theorem fill_values (attributes : Attributes) (parts : List Part) :
    fill attributes (Placeholder.values texts) (parts.flatMap Part.written) =
      .ok (parts.flatMap (Part.filled texts)) := by
  rw [fill, fillTo, pieces_written, ← flatten_map_filled]
  refine Outcome.bind_eq_ok_iff.2 ⟨_, Outcome.mapM_eq_ok_map fun piece hpiece => ?_, rfl⟩
  obtain ⟨part, -, hpart⟩ := List.mem_flatMap.1 hpiece
  cases part with
  | text t =>
    obtain ⟨char, -, rfl⟩ := List.mem_map.1 hpart
    rfl
  | placeholder p =>
    obtain rfl := List.mem_singleton.1 hpart
    simp only [Piece.filled_field,
      lookUp_of_isPlainName attributes p.isPlainName (p.lookup_name texts)]
    rfl

/-- A plain template can be filled with every color. It gives its text, with the texts of the color
in place of the placeholders. -/
theorem fill_written (attributes : Attributes) (c : Rgba) (parts : List Part) :
    fill attributes c.templateValues (parts.flatMap Part.written) =
      .ok (parts.flatMap (Part.value c)) := by
  rw [← Placeholder.values_value, fill_values, Part.filled_value]

end ColorLiteral.Template
