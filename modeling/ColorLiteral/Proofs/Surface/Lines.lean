import ColorLiteral.Proofs.Json.Numerals
import ColorLiteral.Proofs.Surface.Packaged
import ColorLiteral.Proofs.Text.Line

/-!
# Expressions on one line

The texts of a color have no line break, and neither have the packaged templates. So what is written
for a packaged surface is on one line (`SurfaceTable.isLine_of_write`).
-/

namespace ColorLiteral

open Text (IsLine)

/-! ### Texts of a color -/

namespace Json

theorem isLine_of_isDigit {t : Text} (h : ∀ c ∈ t, c.isDigit = true) : IsLine t := by
  intro hmem
  cases h '\n' hmem

theorem IsUnsigned.isLine {t : Text} (h : IsUnsigned t) : IsLine t := by
  obtain ⟨hwhole, hfraction, hexponent⟩ := h
  refine IsLine.append (isLine_of_isDigit hwhole.isDigit) (.append ?_ ?_)
  · cases hfraction with
    | none => exact Text.isLine_nil
    | digits hdigits => exact (isLine_of_isDigit hdigits.2).cons (by decide)
  · cases hexponent with
    | none => exact Text.isLine_nil
    | digits negative hdigits =>
      have hsign : (if negative then '-' else '+') ≠ '\n' := by cases negative <;> decide
      exact ((isLine_of_isDigit hdigits.2).cons hsign).cons (by decide)

end Json

theorem Binary64.isLine_toText (x : Binary64) : IsLine x.toText := by
  match x with
  | .nan => decide
  | .infinite false | .infinite true => decide
  | .finite false m => exact (isUnsigned_magnitudeText m.units).isLine
  | .finite true m => exact (isUnsigned_magnitudeText m.units).isLine.cons (by decide)

theorem Rgba.isLine_toHex (c : Rgba) : IsLine c.toHex :=
  (Text.isLine_flatMap fun _ _ => Text.isLine_hexDigits 2 _).cons (by decide)

theorem Template.Placeholder.isLine_value (c : Rgba) (p : Placeholder) : IsLine (p.value c) := by
  cases p with
  | red | green | blue | alpha => exact Binary64.isLine_toText _
  | hex => exact c.isLine_toHex
  | hexa => exact c.isLine_toHex.append (Text.isLine_hexDigits 2 _)

/-! ### Templates -/

namespace Template

/-- A plain template on one line gives texts on one line. -/
theorem isLine_flatMap_value {parts : List Part} (h : IsLine (parts.flatMap Part.written))
    (c : Rgba) : IsLine (parts.flatMap (Part.value c)) := by
  refine Text.isLine_flatMap fun part hpart => ?_
  cases part with
  | placeholder p => exact p.isLine_value c
  | text t =>
    intro hmem
    have hwritten : '\n' ∈ (Part.text t).written := List.mem_flatMap.2 ⟨'\n', hmem, by decide⟩
    exact h (List.mem_flatMap.2 ⟨_, hpart, hwritten⟩)

end Template

namespace SurfaceTable

theorem isLine_template_of_packaged :
    ∀ entry ∈ packaged.surfaces, IsLine entry.2.template := by decide

/-- What is written for a packaged surface is on one line. -/
theorem isLine_of_write {name expression : Text} {surface : Surface} {color : Rgba}
    {attributes : Template.Attributes} (hsurface : packaged.surface? name = some surface)
    (h : surface.write attributes color = .ok expression) : IsLine expression := by
  obtain ⟨before, after, heq, -⟩ := List.lookup_eq_some_iff.1 hsurface
  have hmem : (name, surface) ∈ packaged.surfaces := by simp [heq]
  obtain ⟨parts, hparts⟩ := exists_parts_of_packaged (name, surface) hmem
  have hline := isLine_template_of_packaged (name, surface) hmem
  rw [hparts] at hline
  rw [Surface.write, hparts, Template.fill_written] at h
  cases h
  exact Template.isLine_flatMap_value hline color

end SurfaceTable

end ColorLiteral
