import ColorLiteral.Proofs.Session.Settings

/-!
# Colors in plain templates

The surface that a session uses may have a plain template with any number of parts, with braces next
to its placeholders and with texts that look like placeholders. Every color is written for it, and
what is written is the text of the template with the texts of the color in their places
(`Session.writes_plain`).
-/

namespace ColorLiteral

open Config (Host)
open Template (Part Placeholder)

/-! ### A template with braces -/

/-- Surroundings in which a table in ASCII is the only file. -/
def Config.Host.serving (table : SurfaceTable) : Host :=
  { Host.packaged .empty with
    files := FileTree.empty.write Host.packagedPath
      ⟨(Json.print table.document).map fun c => c.toNat.toUInt8, 0⟩ }

/-- Braces around a placeholder and a text that looks like one. -/
def SurfaceTable.bracedParts : List Part :=
  [.text "\x7b", .placeholder .red, .text "\x7d\x7bhex\x7d", .placeholder .hexa]

/-- A table that prefers a surface whose template has braces of its own. -/
def SurfaceTable.braced : SurfaceTable where
  preferred := .named "braced"
  surfaces := [("braced".toList, ⟨bracedParts.flatMap Part.written, "none"⟩)]

theorem SurfaceTable.loaded?_braced : loaded? (Host.serving braced) = some braced := by
  have hfound : (request true).locate (Host.serving braced) =
    .ok ⟨Host.packagedPath, ⟨(Json.print braced.document).map fun c => c.toNat.toUInt8, 0⟩⟩ := rfl
  rw [loaded?_of_locate hfound]
  decide +kernel

/-! ### Writing for plain templates -/

/-- Every color is written for a surface with a plain template: the parts of the template one after
the other, with a text of the color for each placeholder. Nothing is read twice: whatever texts take
the places of the placeholders, they and the braces of the template come out as they are. -/
theorem Session.writes_plain {s : Session} {table : SurfaceTable} {surface : Surface}
    {choice : Option Text} {name : Text} {parts : List Part} (hs : s.Offers table)
    (hname : table.nameFor? s.host.environment choice = some name)
    (hsurface : table.surface? name = some surface)
    (htemplate : surface.template = parts.flatMap Part.written) :
    (∀ color, (s.perform (.writeColor color choice)).1 =
      .ok (.text (parts.flatMap (Part.value color)))) ∧
    ∀ attributes (texts : Placeholder → Text),
      Template.fill attributes (Placeholder.values texts) surface.template =
        .ok (parts.flatMap (Part.filled texts)) := by
  refine ⟨fun color => ?_, fun attributes texts => ?_⟩
  · have hoffering : s.IsOffering s.host.attributes s.host.environment table := ⟨rfl, rfl, hs⟩
    have hwrite : surface.write s.host.attributes color =
        .ok (parts.flatMap (Part.value color)) := by
      rw [Surface.write, htemplate, Template.fill_written]
    have hanswer := (ends_writeColor hname hsurface color).answer hoffering .emission .text
    rw [hwrite] at hanswer
    exact hanswer
  · rw [htemplate, Template.fill_values]

/-- The braces of the template are there once, and the text that looks like a placeholder stays. -/
theorem Session.writes_plain_braced :
    (Session.start (Host.serving .braced)).Offers .braced ∧
    SurfaceTable.braced.nameFor? .empty none = some "braced".toList ∧
    SurfaceTable.braced.surface? "braced" =
      some ⟨SurfaceTable.bracedParts.flatMap Part.written, "none"⟩ ∧
    ((Session.start (Host.serving .braced)).perform
        (.writeColor (.ofBytes 255 136 0 128) none)).1 =
      .ok (.text "\x7b1.0\x7d\x7bhex\x7d#ff880080".toList) ∧
    Template.fill .none (Placeholder.values fun p => "\x7b\x7b" ++ p.name)
        (SurfaceTable.bracedParts.flatMap Part.written) =
      .ok "\x7b\x7b\x7bred\x7d\x7bhex\x7d\x7b\x7bhexa".toList := by
  have hs : (Session.start (Host.serving .braced)).Offers .braced :=
    Session.offers_start SurfaceTable.loaded?_braced
  have hname : SurfaceTable.braced.nameFor? .empty none = some "braced".toList := rfl
  have hsurface : SurfaceTable.braced.surface? "braced" =
      some ⟨SurfaceTable.bracedParts.flatMap Part.written, "none"⟩ := rfl
  obtain ⟨hwrites, hfills⟩ := Session.writes_plain hs hname hsurface rfl
  have htext : SurfaceTable.bracedParts.flatMap (Part.value (.ofBytes 255 136 0 128)) =
      "\x7b1.0\x7d\x7bhex\x7d#ff880080".toList := by
    decide +kernel
  exact ⟨hs, hname, hsurface, htext ▸ hwrites _, (hfills _ _).trans (by decide)⟩

end ColorLiteral
