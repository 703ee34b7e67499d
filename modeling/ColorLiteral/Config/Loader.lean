import ColorLiteral.Config.Request
import ColorLiteral.Encoding
import ColorLiteral.Json.Strict
import ColorLiteral.Surface.Table

/-!
# Loading settings

A load finds the file of its request, reads it, and treats the value as the mode says. Values are
remembered with all that they depend on; a file that has changed since is read anew, and nothing is
remembered of a load that fails. `Request.evaluate` is the load without memory, `Request.load` the
load with it.
-/

namespace ColorLiteral.Config

/-! ### Without memory -/

/-- Why a text in standard JSON has no value. -/
def strictError (path : Path) (source : Text) (error : JsonError) : ConfigError :=
  match error.fault with
  | .tooManyDigits count => .unreadable path (JsonFault.tooManyDigits count).description
  | .tooDeep container => .tooDeep container
  | _ => .malformed path source error

/-- Why a text in relaxed JSON has no value. -/
def relaxedError (path : Path) : RelaxedFault → ConfigError
  | .refused message => .unreadable path message
  | .tooDeep => .tooDeep none

/-- Decodes the bytes of the file at a path, and then reads their text. -/
def Host.readText (h : Host) (path : Path) (bytes : List UInt8) (encoding : Text)
    (decode? : List UInt8 → Option Text) (relaxed : Bool) : Except ConfigError Value :=
  if relaxed && !h.hasRelaxedReader then .error .relaxedUnavailable
  else match decode? bytes with
    | none => .error (.unreadable path (h.readers.decodingFault encoding bytes))
    | some source =>
      if relaxed then (h.readers.relaxed source).mapError (relaxedError path)
      else
        (Json.readStrict Json.valueNumbers (some h.readers.nestingLimit) source).mapError
          (strictError path source)

/-- Reads the bytes of the file at a path. -/
def Host.read (h : Host) (path : Path) (bytes : List UInt8) (encoding : Text) (relaxed : Bool) :
    Except ConfigError Value :=
  if encoding.hasNul then .error (.unreadable path "embedded null character")
  else match Encoding.ofName? encoding with
    | none => .error (.unknownEncoding encoding)
    | some .conversion => .error (.noTextEncoding encoding)
    | some (.text decode?) => h.readText path bytes encoding decode? relaxed

/-- The check that an identity stands for. -/
def Host.checkOf (h : Host) : CheckId → Check
  | .surfaces => SurfaceTable.check
  | .named name => h.checks name

/-- What a mode makes of the value of a file. -/
def Host.treat (h : Host) (file : Text) (mode : Mode) (check : Option CheckId) (value : Value) :
    Except ConfigError Value :=
  match mode with
  | .raw => .ok value
  | .unknown name => .error (.unknownMode name)
  | .checked =>
    match value, check with
    | .object settings, some check =>
      match h.checkOf check settings with
      | .ok settings => .ok (.object settings)
      | .error reason => .error (.rejected file reason)
    | .object settings, none => .ok (.object settings)
    | value, _ => .error (.notAnObject file (typeName value))

namespace Request

/-- The value of a file as a request wants it. -/
def valueOf (r : Request) (h : Host) (found : Located) : Except ConfigError Value := do
  h.treat found.path.name r.mode r.check
    (← h.read found.path found.file.bytes r.encoding r.relaxed)

/-- What a request gives without memory. -/
def evaluate (r : Request) (h : Host) : Except ConfigError Value := do
  r.valueOf h (← r.locate h)

end Request

/-! ### Memory -/

/-- All that a remembered value depends on. -/
structure CacheKey where
  path : Path
  modified : Int
  mode : Mode
  encoding : Text
  relaxed : Bool
  check : Option CheckId
  deriving DecidableEq, Repr

/-- The key of the value of a file for a request. -/
def Request.keyOf (r : Request) (found : Located) : CacheKey :=
  ⟨found.path, found.file.modified, r.mode, r.encoding, r.relaxed, r.check⟩

/-- A remembered value. Its serial number tells it apart from all values that were ever
remembered. -/
structure CacheEntry where
  value : Value
  serial : Nat

/-- The remembered values, and the number of values that were ever remembered. -/
structure Cache where
  entries : List (CacheKey × CacheEntry)
  stored : Nat

namespace Cache

/-- Nothing is remembered yet. -/
def empty : Cache := ⟨[], 0⟩

/-- Forgets all values. -/
def clear (c : Cache) : Cache := ⟨[], c.stored⟩

/-- The value that is remembered under a key. -/
def find? (c : Cache) (key : CacheKey) : Option CacheEntry := c.entries.lookup key

/-- Remembers a value under a key. -/
def remember (c : Cache) (key : CacheKey) (value : Value) : Cache :=
  ⟨(key, ⟨value, c.stored⟩) :: c.entries, c.stored + 1⟩

@[simp] theorem find?_empty (key : CacheKey) : Cache.empty.find? key = none := rfl

@[simp] theorem find?_clear (c : Cache) (key : CacheKey) : c.clear.find? key = none := rfl

@[simp] theorem find?_remember (c : Cache) (key : CacheKey) (value : Value) :
    (c.remember key value).find? key = some ⟨value, c.stored⟩ := by
  simp [find?, remember]

/-- Values under other keys stay when one is remembered. -/
theorem find?_remember_of_ne (c : Cache) {key other : CacheKey} (value : Value)
    (h : other ≠ key) : (c.remember key value).find? other = c.find? other := by
  have hne : (other == key) = false := by simpa using h
  simp only [find?, remember, List.lookup_cons, hne]

end Cache

/-- A value that was loaded. -/
structure Loaded where
  value : Value
  /-- The serial number under which it is remembered. -/
  serial : Nat
  /-- Whether it was remembered already. -/
  isHit : Bool
  /-- The name of its file. -/
  file : Text

/-- What a request gives, and what is remembered afterwards. -/
def Request.load (r : Request) (h : Host) (cache : Cache) :
    Except ConfigError Loaded × Cache :=
  match r.locate h with
  | .error error => (.error error, cache)
  | .ok found =>
    match cache.find? (r.keyOf found) with
    | some entry => (.ok ⟨entry.value, entry.serial, true, found.path.name⟩, cache)
    | none =>
      match r.valueOf h found with
      | .error error => (.error error, cache)
      | .ok value =>
        (.ok ⟨value, cache.stored, false, found.path.name⟩,
          cache.remember (r.keyOf found) value)

end ColorLiteral.Config
