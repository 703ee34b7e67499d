import ColorLiteral.Proofs.Config.Memory
import ColorLiteral.Proofs.Session.Offering
import ColorLiteral.Proofs.Template.Plain
import ColorLiteral.Surface.Packaged

/-!
# The packaged surfaces

The templates of the packaged surfaces are plain, so every color can be written for them
(`writesAll_of_packaged`). A fresh session offers the table that the file of its settings describes
(`loaded?_of_locate`), with the packaged settings the packaged table
(`Session.offers_start_packaged`).
-/

namespace ColorLiteral

/-! ### Writing for the packaged surfaces -/

/-- Every color can be written for a surface, and attributes of texts make no difference. -/
def Surface.WritesAll (surface : Surface) : Prop :=
  ∀ color, ∃ expression, ∀ attributes, surface.write attributes color = .ok expression

namespace SurfaceTable

open Template

/-- The parts of a template that calls a function with the four channels. -/
def callParts (function red green blue alpha : Text) : List Part :=
  [.text (function ++ "(" ++ red ++ ": "), .placeholder .red, .text (", " ++ green ++ ": "),
    .placeholder .green, .text (", " ++ blue ++ ": "), .placeholder .blue,
    .text (", " ++ alpha ++ ": "), .placeholder .alpha, .text ")"]

theorem exists_parts_of_packaged : ∀ entry ∈ packaged.surfaces,
    ∃ parts : List Part, entry.2.template = parts.flatMap Part.written := by
  rw [packaged, List.forall_mem_cons, List.forall_mem_cons, List.forall_mem_cons,
    List.forall_mem_singleton]
  exact ⟨⟨callParts "SwiftUI.Color" "red" "green" "blue" "opacity", by decide⟩,
    ⟨callParts "UIColor" "red" "green" "blue" "alpha", by decide⟩,
    ⟨callParts "NSColor" "srgbRed" "green" "blue" "alpha", by decide⟩,
    ⟨[.placeholder .hexa], by decide⟩⟩

/-- Every color can be written for every packaged surface. -/
theorem writesAll_of_packaged {name : Text} {surface : Surface}
    (h : packaged.surface? name = some surface) : surface.WritesAll := by
  obtain ⟨before, after, heq, -⟩ := List.lookup_eq_some_iff.1 h
  obtain ⟨parts, hparts⟩ := exists_parts_of_packaged (name, surface) (by simp [heq])
  intro color
  exact ⟨_, fun attributes => by rw [Surface.write, hparts, fill_written]⟩

/-- The packaged surface for style sheets. -/
theorem surface?_css : packaged.surface? "css" = some ⟨field "hexa", "transparent"⟩ := by decide

/-! ### Loading a table -/

/-- The packaged table has a name for every choice. -/
theorem exists_nameFor_packaged (environment : Environment) (choice : Option Text) :
    ∃ name, packaged.nameFor? environment choice = some name := by
  unfold nameFor?
  split
  · exact ⟨_, rfl⟩
  · dsimp only
    split
    · exact ⟨_, rfl⟩
    · exact ⟨_, rfl⟩

open Config

variable {h : Host} {found : Located}

/-- The table that is loaded in some surroundings without memory. -/
def loaded? (h : Host) : Option SurfaceTable :=
  ((request h.hasRelaxedReader).load h .empty).1.toOption.bind fun loaded =>
    (ofValue loaded.file loaded.value).toOption

theorem ofName?_utf8 : Encoding.ofName? "utf-8" = some (.text Encoding.decodeUtf8) := by
  -- the normal name is not another name of some encoding
  have hother : ∀ entry ∈ Encoding.otherNames, "utf_8" ∉ entry.2 := by decide +kernel
  have hnormal : Encoding.normalName? "utf_8" = none := by
    rw [Encoding.normalName?, Option.map_eq_none_iff, List.find?_eq_none]
    intro entry hentry hany
    obtain ⟨name, hname, heq⟩ := List.any_eq_true.1 hany
    rw [beq_iff_eq, String.toList_inj] at heq
    exact hother entry hentry (heq ▸ hname)
  have hplain : Encoding.plainName "utf-8" = "utf_8".toList := by decide +kernel
  have hundotted : ("utf_8".toList.map fun c => if c = '.' then '_' else c) = "utf_8".toList := by
    decide
  have hmeanings : Encoding.meanings "utf-8" = ["utf_8".toList] := by
    rw [Encoding.meanings, hplain, hundotted, hnormal]
    decide
  rw [Encoding.ofName?, if_neg (by decide), hmeanings]
  rfl

/-- The table is in UTF-8, and it is checked. -/
theorem valueOf_request : (request h.hasRelaxedReader).valueOf h found =
    h.readText found.path found.file.bytes "utf-8" Encoding.decodeUtf8 h.hasRelaxedReader >>=
      h.treat found.path.name .checked (some .surfaces) := by
  have hread : h.read found.path found.file.bytes "utf-8" h.hasRelaxedReader =
      h.readText found.path found.file.bytes "utf-8" Encoding.decodeUtf8 h.hasRelaxedReader := by
    rw [Host.read, if_neg (by decide), ofName?_utf8]
  exact congrArg (· >>= h.treat found.path.name .checked (some .surfaces)) hread

/-- Without memory the table is the one that the text of the file describes: what the check lets
pass is read as a table. -/
theorem loaded?_of_locate (hfound : (request h.hasRelaxedReader).locate h = .ok found) :
    loaded? h =
      (h.readText found.path found.file.bytes "utf-8" Encoding.decodeUtf8
        h.hasRelaxedReader).toOption.bind
          fun value => (ofValue found.path.name value).toOption := by
  rw [loaded?, Request.load_of_find?_eq_none hfound (Cache.find?_empty _), valueOf_request]
  cases h.readText found.path found.file.bytes "utf-8" Encoding.decodeUtf8 h.hasRelaxedReader with
  | error e => rfl
  | ok value =>
    have hbind : (Except.ok value >>= h.treat found.path.name .checked (some .surfaces)) =
        h.treat found.path.name .checked (some .surfaces) value := rfl
    rw [hbind]
    cases value with
    | object settings =>
      cases hread : ofMembers settings with
      | ok table => simp [Host.treat, Host.checkOf, check, hread, Except.toOption]
      | error fault =>
        simp [Host.treat, Host.checkOf, check, ofValue, hread, Except.toOption]
    | _ => rfl

theorem loaded?_packaged : loaded? (Host.packaged .empty) = some packaged := by
  have hfound : (request true).locate (Host.packaged .empty) =
    .ok ⟨Host.packagedPath, packagedFile⟩ := rfl
  rw [loaded?_of_locate hfound]
  decide +kernel

/-- The environment matters for a load only where it names the directory of the settings. -/
theorem load_packaged {environment : Environment}
    (h : (Host.packaged environment).namedData? = none) (r : Request) (c : Cache) :
    r.load (Host.packaged environment) c = r.load (Host.packaged .empty) c := by
  have hlocate : r.locate (Host.packaged environment) = r.locate (Host.packaged .empty) := by
    rw [Request.locate, Request.locate, Host.dataDirectory, h]
    rfl
  rw [Request.load.eq_def, Request.load.eq_def, hlocate]
  split
  · rfl
  next found _ =>
  have hlike : (Host.packaged environment).ReadsLike (Host.packaged .empty) := ⟨rfl, rfl, rfl⟩
  rw [hlike.valueOf_eq]

end SurfaceTable

/-- A fresh session offers the table that is loaded in its surroundings. -/
theorem Session.offers_start {host : Config.Host} {table : SurfaceTable}
    (h : SurfaceTable.loaded? host = some table) : (Session.start host).Offers table := by
  obtain ⟨loaded, hload, htable⟩ := Option.bind_eq_some_iff.1 h
  exact ⟨loaded, Outcome.toOption_eq_some_iff.1 hload, Outcome.toOption_eq_some_iff.1 htable⟩

/-- A fresh session with the packaged settings offers the packaged table, unless the environment
names another directory of the settings. -/
theorem Session.offers_start_packaged {environment : Environment}
    (h : (Config.Host.packaged environment).namedData? = none) :
    (Session.start (Config.Host.packaged environment)).Offers .packaged := by
  refine Session.offers_start ?_
  rw [SurfaceTable.loaded?, SurfaceTable.load_packaged h]
  exact SurfaceTable.loaded?_packaged

end ColorLiteral
