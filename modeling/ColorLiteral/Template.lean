import ColorLiteral.Outcome
import ColorLiteral.Text.Digit
import ColorLiteral.Text.Quoted

/-!
# Templates

A template is text with replacement fields in braces; a doubled brace stands for itself. A field
names a text and may pick a character of it, put it in quotes, and align and cut it by a format.
A format may hold fields itself, but no deeper ones. Fields are replaced from left to right, and the
first one that fails decides the error.

A field may also name an attribute of a text. Which attributes texts have, and how they are written,
is not a matter of templates, so that they are a parameter (`Template.Attributes`).
-/

namespace ColorLiteral

/-- Why a template cannot be filled. -/
inductive TemplateFault
  /-- There is no text of that name. -/
  | unknownField (name : Text)
  /-- Fields without a name or with a number stand for nothing. -/
  | noPositional (index : Nat)
  | indexOutOfRange
  /-- A text has no attribute of that name. -/
  | noAttribute (name : Text)
  /-- What a field reaches through an attribute fails with an error of its own type. -/
  | attributeFailed (type message : Text)
  | indexNotInteger
  | singleOpen
  | singleClose
  | expectedClose
  | openInName
  | missingConversion
  | textAfterConversion
  | unknownConversion (conversion : Char)
  | unmatchedOpen
  | tooDeep
  | tooManyDigits
  | emptyAttribute
  | unclosedIndex
  | textAfterIndex
  | missingPrecision
  | invalidFormat (format : Text)
  | groupingTwice
  | groupingNotAllowed (separator type : Char)
  | unknownType (type : Char)
  | signNotAllowed
  | spaceNotAllowed
  | zeroSignNotAllowed
  | alternateNotAllowed
  | signAlignment
  deriving DecidableEq, Repr

namespace TemplateFault

/-- A character in a message: itself in the printing part of ASCII, otherwise its number. -/
def shownChar (last : Nat) (c : Char) : Text :=
  if 32 < c.toNat ∧ c.toNat ≤ last then [c] else "\\x" ++ Text.hexDigits 1 c.toNat

/-- The wording of a fault. -/
def message : TemplateFault → Text
  | unknownField name => Text.quoted name
  | noPositional index =>
    "Replacement index " ++ Text.ofNat index ++ " out of range for positional args tuple"
  | indexOutOfRange => "string index out of range"
  | noAttribute name => "'str' object has no attribute '" ++ name ++ "'"
  | attributeFailed _ message => message
  | indexNotInteger => "string indices must be integers, not 'str'"
  | singleOpen => "Single '\x7b' encountered in format string"
  | singleClose => "Single '\x7d' encountered in format string"
  | expectedClose => "expected '\x7d' before end of string"
  | openInName => "unexpected '\x7b' in field name"
  | missingConversion => "end of string while looking for conversion specifier"
  | textAfterConversion => "expected ':' after conversion specifier"
  | unknownConversion c => "Unknown conversion specifier " ++ shownChar 126 c
  | unmatchedOpen => "unmatched '\x7b' in format spec"
  | tooDeep => "Max string recursion exceeded"
  | tooManyDigits => "Too many decimal digits in format string"
  | emptyAttribute => "Empty attribute in format string"
  | unclosedIndex => "Missing ']' in format string"
  | textAfterIndex => "Only '.' or '[' may follow ']' in format field specifier"
  | missingPrecision => "Format specifier missing precision"
  | invalidFormat format =>
    "Invalid format specifier '" ++ format ++ "' for object of type 'str'"
  | groupingTwice => "Cannot specify both ',' and '_'."
  | groupingNotAllowed separator type =>
    "Cannot specify '" ++ [separator] ++ "' with '" ++ shownChar 127 type ++ "'."
  | unknownType type =>
    "Unknown format code '" ++ shownChar 127 type ++ "' for object of type 'str'"
  | signNotAllowed => "Sign not allowed in string format specifier"
  | spaceNotAllowed => "Space not allowed in string format specifier"
  | zeroSignNotAllowed => "Negative zero coercion (z) not allowed in string format specifier"
  | alternateNotAllowed => "Alternate form (#) not allowed in string format specifier"
  | signAlignment => "'=' alignment not allowed in string format specifier"

end TemplateFault

namespace Template

/-! ### Numbers in templates -/

/-- The greatest number that may stand in a template. -/
def numberLimit : Nat := Nat.pow 2 63 - 1

/-- The number that digits spell, if it is not too great. -/
def numberOf (digits : Text) : Except TemplateFault Nat :=
  let value := Text.valueInBase 10 (digits.filterMap Text.digitValue?)
  if value ≤ numberLimit then .ok value else .error .tooManyDigits

/-- The number that a text spells; none if it is empty or holds anything but digits. -/
def index? (t : Text) : Except TemplateFault (Option Nat) :=
  let digits := t.takeWhile Text.isDecimalDigit
  if t.isEmpty then .ok none
  else match numberOf digits with
    | .error fault => .error fault
    | .ok n => .ok (if digits.length = t.length then some n else none)

/-! ### The parts of a field -/

/-- A replacement field as it is written. -/
structure Field where
  name : Text
  conversion : Option Char
  format : Text
  deriving DecidableEq, Repr

/-- Reads a field name up to the character that ends it. Between brackets every character belongs to
the name. -/
def splitName (inBrackets : Bool) : Text → Except TemplateFault (Text × Char × Text)
  | [] => .error .expectedClose
  | c :: rest =>
    if inBrackets then
      (splitName (c != ']') rest).map fun (name, stop, after) => (c :: name, stop, after)
    else if c = '{' then .error .openInName
    else if c = '}' || c = ':' || c = '!' then .ok ([], c, rest)
    else (splitName (c == '[') rest).map fun (name, stop, after) => (c :: name, stop, after)

/-- Reads a format up to the brace that ends its field. -/
def splitFormat (depth : Nat) : Text → Except TemplateFault (Text × Text)
  | [] => .error .unmatchedOpen
  | c :: rest =>
    if c = '}' ∧ depth = 0 then .ok ([], rest)
    else
      let depth := if c = '{' then depth + 1 else if c = '}' then depth - 1 else depth
      (splitFormat depth rest).map fun (format, after) => (c :: format, after)

/-- The field of a name and a conversion with the format that a text starts with. -/
def withFormat (name : Text) (conversion : Option Char) (t : Text) :
    Except TemplateFault (Field × Text) :=
  (splitFormat 0 t).map fun (format, after) => (⟨name, conversion, format⟩, after)

/-- Reads a field behind its name and the exclamation mark that announces a conversion. -/
def splitConversion (name : Text) : Text → Except TemplateFault (Field × Text)
  | [] => .error .missingConversion
  | [conversion] => withFormat name (some conversion) []
  | conversion :: c :: after =>
    if c = '}' then .ok (⟨name, some conversion, []⟩, after)
    else if c = ':' then withFormat name (some conversion) after
    else .error .textAfterConversion

/-- Reads a field from behind its opening brace, and returns it with what follows. -/
def splitField (t : Text) : Except TemplateFault (Field × Text) :=
  match splitName false t with
  | .error fault => .error fault
  | .ok (name, stop, rest) =>
    if stop = '}' then .ok (⟨name, none, []⟩, rest)
    else if stop = ':' then withFormat name none rest
    else splitConversion name rest

/-! ### Formats -/

/-- How a text is aligned and cut. -/
structure Format where
  fill : Char
  align : Char
  width : Option Nat
  precision : Option Nat
  deriving DecidableEq, Repr

/-- Whether a character says where a text goes. -/
def isAlignment (c : Char) : Bool := c = '<' || c = '>' || c = '=' || c = '^'

/-- Drops a character from the start of a text if it is there. -/
def dropFlag (flag : Char) : Text → Bool × Text
  | c :: rest => if c = flag then (true, rest) else (false, c :: rest)
  | [] => (false, [])

/-- Reads the number at the start of a text. -/
def splitNumber (t : Text) : Except TemplateFault (Option Nat × Text) :=
  let digits := t.takeWhile Text.isDecimalDigit
  if digits.isEmpty then .ok (none, t)
  else (numberOf digits).map fun n => (some n, t.drop digits.length)

/-- The separators that group digits, at the start of a text: a comma, then an underscore. -/
def splitGrouping (t : Text) : Except TemplateFault (Option Char × Text) :=
  let (comma, t) := dropFlag ',' t
  let (underscore, t) := dropFlag '_' t
  if comma && underscore || underscore && (t.head? == some ',') then .error .groupingTwice
  else .ok (if comma then some ',' else if underscore then some '_' else none, t)

/-- Whether a type may go with a separator that groups digits. -/
def allowsGrouping (separator type : Char) : Bool :=
  "deEfFgG%\x00".toList.contains type || separator = '_' && "boxX".toList.contains type

/-- Reads a format. -/
def parseFormat (format : Text) : Except TemplateFault Format := do
  let (fill, align, t) : Option Char × Option Char × Text := match format with
    | a :: b :: rest =>
      if isAlignment b then (some a, some b, rest)
      else if isAlignment a then (none, some a, b :: rest)
      else (none, none, format)
    | [a] => if isAlignment a then (none, some a, []) else (none, none, format)
    | [] => (none, none, [])
  let (sign, t) : Option Char × Text := match t with
    | c :: rest => if c = ' ' || c = '+' || c = '-' then (some c, rest) else (none, t)
    | [] => (none, [])
  let (zeroSign, t) := dropFlag 'z' t
  let (alternate, t) := dropFlag '#' t
  let (zeroFill, t) := if fill.isNone then dropFlag '0' t else (false, t)
  let (width, t) ← splitNumber t
  let (grouping, t) ← splitGrouping t
  let (point, t) := dropFlag '.' t
  let (precision, t) ← if point then splitNumber t else .ok (none, t)
  if point && precision.isNone then .error .missingPrecision
  else
    let type ← match t with
      | [] => .ok 's'
      | [type] => .ok type
      | _ => .error (.invalidFormat format)
    match grouping with
    | some separator =>
      if !allowsGrouping separator type then .error (.groupingNotAllowed separator type)
    | none => .ok ()
    if type ≠ 's' then .error (.unknownType type)
    else if sign = some ' ' then .error .spaceNotAllowed
    else if sign.isSome then .error .signNotAllowed
    else if zeroSign then .error .zeroSignNotAllowed
    else if alternate then .error .alternateNotAllowed
    else if align = some '=' then .error .signAlignment
    else .ok ⟨fill.getD (if zeroFill then '0' else ' '), align.getD '<', width, precision⟩

/-- A text cut and aligned by a format. -/
def Format.apply (f : Format) (value : Text) : Text :=
  let cut := match f.precision with
    | some n => value.take n
    | none => value
  let missing := f.width.getD 0 - cut.length
  let before := if f.align = '>' then missing else if f.align = '^' then missing / 2 else 0
  List.replicate before f.fill ++ cut ++ List.replicate (missing - before) f.fill

/-- A text in a written format; an empty one leaves it as it is. -/
def applyFormat (format value : Text) : Except TemplateFault Text :=
  if format.isEmpty then .ok value else (parseFormat format).map (·.apply value)

/-! ### Objects of fields -/

/-- What a field stands for: how it is written behind a conversion, and how in a format. -/
structure Object where
  convert : Char → Except TemplateFault Text
  format : Text → Except TemplateFault Text

/-- What a path leads to that starts with an attribute: by the text that has the attribute, the name
of the attribute, and the path behind it. -/
abbrev Attributes := Text → Text → Text → Except TemplateFault Object

/-- Texts without attributes. -/
def Attributes.none : Attributes := fun _ name _ => .error (.noAttribute name)

/-- A text behind a conversion. -/
def convertText (value : Text) : Char → Except TemplateFault Text
  | 's' => .ok value
  | 'r' | 'a' => .ok (Text.quoted value)
  | c => .error (.unknownConversion c)

/-- A text as what a field stands for. -/
def Object.ofText (value : Text) : Object :=
  ⟨convertText value, fun format => applyFormat format value⟩

/-- What a field stands for behind the conversion that it asks for. -/
def Object.converted (object : Object) : Option Char → Except TemplateFault Object
  | none => .ok object
  | some conversion => (object.convert conversion).map ofText

/-! ### Looking up a field -/

/-- The texts that fields stand for, under their names. -/
abbrev Values := List (Text × Text)

/-- Follows the parts of a name behind its first one: an index in brackets picks a character, and
behind a point stands the name of an attribute. -/
def followParts (attributes : Attributes) (value : Text) : Text → Except TemplateFault Object
  | [] => .ok (.ofText value)
  | c :: rest =>
    if c = '.' then
      let name := rest.takeWhile fun c => c != '.' && c != '['
      if name.isEmpty then .error .emptyAttribute
      else attributes value name (rest.drop name.length)
    else if c = '[' then
      let name := rest.takeWhile (· != ']')
      if name.length = rest.length then .error .unclosedIndex
      else match index? name with
        | .error fault => .error fault
        | .ok none => .error (if name.isEmpty then .emptyAttribute else .indexNotInteger)
        | .ok (some index) =>
          match value[index]? with
          | none => .error .indexOutOfRange
          | some picked => followParts attributes [picked] (rest.drop (name.length + 1))
    else .error .textAfterIndex
termination_by path => path.length
decreasing_by simp only [List.length_drop, List.length_cons]; omega

/-- What a field name stands for. -/
def lookUp (attributes : Attributes) (values : Values) (name : Text) :
    Except TemplateFault Object :=
  let first := name.takeWhile fun c => c != '.' && c != '['
  let path := name.drop first.length
  match index? first with
  | .error fault => .error fault
  | .ok (some index) => .error (.noPositional index)
  | .ok none =>
    if first.isEmpty then .error (.noPositional 0)
    else match values.lookup first with
      | none => .error (.unknownField first)
      | some value => followParts attributes value path

/-! ### Filling -/

/-- A piece of a template. -/
inductive Piece
  | literal (char : Char)
  | field (field : Field)
  | broken (fault : TemplateFault)
  deriving DecidableEq, Repr

theorem length_lt_of_splitName {inBrackets : Bool} {t name after : Text} {stop : Char}
    (h : splitName inBrackets t = .ok (name, stop, after)) : after.length < t.length := by
  fun_induction splitName inBrackets t generalizing name stop after with
  | case1 | case3 => cases h
  | case2 c rest ih | case5 _ c rest _ _ _ ih =>
    obtain ⟨⟨_, _, _⟩, hsplit, heq⟩ := Outcome.exists_of_map_eq_ok h
    cases heq
    exact Nat.lt_succ_of_lt (ih hsplit)
  | case4 => cases h; simp

theorem length_le_of_splitFormat {depth : Nat} {t format after : Text}
    (h : splitFormat depth t = .ok (format, after)) : after.length ≤ t.length := by
  fun_induction splitFormat depth t generalizing format after with
  | case1 => cases h
  | case2 => cases h; simp
  | case3 =>
    rename_i ih
    obtain ⟨⟨_, _⟩, hsplit, heq⟩ := Outcome.exists_of_map_eq_ok h
    cases heq
    exact Nat.le_succ_of_le (ih hsplit)

theorem length_le_of_withFormat {name t after : Text} {conversion : Option Char} {f : Field}
    (h : withFormat name conversion t = .ok (f, after)) : after.length ≤ t.length := by
  obtain ⟨⟨_, _⟩, hsplit, heq⟩ := Outcome.exists_of_map_eq_ok h
  cases heq
  exact length_le_of_splitFormat hsplit

theorem length_le_of_splitConversion {name t after : Text} {f : Field}
    (h : splitConversion name t = .ok (f, after)) : after.length ≤ t.length := by
  unfold splitConversion at h
  split at h
  · cases h
  · exact Nat.le_succ_of_le (length_le_of_withFormat h)
  · rename_i conversion c rest
    split at h
    · cases h
      simp only [List.length_cons]
      omega
    · split at h
      · have := length_le_of_withFormat h
        simp only [List.length_cons]
        omega
      · cases h

/-- What follows a field is shorter than the text behind its opening brace. -/
theorem length_lt_of_splitField {t after : Text} {f : Field} (h : splitField t = .ok (f, after)) :
    after.length < t.length := by
  unfold splitField at h
  split at h
  · cases h
  · rename_i name stop rest hname
    have hlt := length_lt_of_splitName hname
    split at h
    · cases h; exact hlt
    · split at h
      · exact Nat.lt_of_le_of_lt (length_le_of_withFormat h) hlt
      · exact Nat.lt_of_le_of_lt (length_le_of_splitConversion h) hlt

/-- The pieces of a template, up to the first one that is broken. -/
def pieces : Text → List Piece
  | [] => []
  | '{' :: '{' :: rest => .literal '{' :: pieces rest
  | '}' :: '}' :: rest => .literal '}' :: pieces rest
  | ['{'] => [.broken .singleOpen]
  | '}' :: _ => [.broken .singleClose]
  | '{' :: rest =>
    match _h : splitField rest with
    | .error fault => [.broken fault]
    | .ok (field, after) => .field field :: pieces after
  | c :: rest => .literal c :: pieces rest
termination_by t => t.length
decreasing_by
  · simp only [List.length_cons]; omega
  · simp only [List.length_cons]; omega
  · exact Nat.lt_succ_of_lt (length_lt_of_splitField ‹_›)
  · simp

section

variable (attributes : Attributes) (values : Values)

/-- Fills a template whose formats may hold templates in turn, up to a depth. -/
def fillTo : Nat → Text → Except TemplateFault Text
  | 0, _ => .error .tooDeep
  | depth + 1, template => do
    let parts ← (pieces template).mapM fun piece =>
      match piece with
      | .literal c => .ok [c]
      | .broken fault => .error fault
      | .field f => do
        let object ← lookUp attributes values f.name
        let object ← object.converted f.conversion
        let format ← if f.format.contains '{' then fillTo depth f.format else .ok f.format
        object.format format
    .ok parts.flatten

/-- Fills a template. -/
def fill (template : Text) : Except TemplateFault Text := fillTo attributes values 2 template

end

end Template

end ColorLiteral
