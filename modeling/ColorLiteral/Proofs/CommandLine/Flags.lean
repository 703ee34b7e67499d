import ColorLiteral.CommandLine.Options

/-!
# Invocations between flags

A command line of invocations with flags before and behind them selects the invocations, and what
the flags set, one after the other (`readRequest_taken`). It does not matter on which side of the
invocations a flag stands.
-/

namespace ColorLiteral.CommandLine

/-- A flag in its long form. -/
inductive Flag
  | json
  | debug
  /-- The name stands in the same word, behind an equals sign, or is the next word. -/
  | surface (name : Text) (joined : Bool)
  deriving DecidableEq, Repr

namespace Flag

/-- The words of a flag. -/
def texts : Flag → List Text
  | json => ["--json"]
  | debug => ["--debug"]
  | surface name true => ["--surface=".toList ++ name]
  | surface name false => ["--surface", name]

/-- The parts of a flag in the command line. -/
def words : Flag → List Word
  | json => [.option .json none]
  | debug => [.option .debug none]
  | surface name true => [.option .surface (some name)]
  | surface name false => [.option .surface none, .invocation name]

/-- What a flag sets. -/
def set (o : Options) : Flag → Options
  | json => { o with json := true }
  | debug => { o with debug := true }
  | surface name _ => { o with surface := some name }

/-- The name of the surface, if there is one, does not start with a hyphen. -/
def IsPlain : Flag → Prop
  | surface name _ => name.head? ≠ some '-'
  | _ => True

/-- The name of the surface, if there is one, is taken as it is written: it is not the mark, and as
a word of its own it does not look like an option. -/
def IsTaken : Flag → Prop
  | surface name true => name ≠ "--".toList
  | surface name false => Word.ofText name = .ok (.invocation name)
  | _ => True

end Flag

/-! ### Words -/

namespace Word

variable {t : Text} {rest : List Text} {flag : Flag}

theorem ofText_of_head? (ht : t.head? ≠ some '-') : ofText t = .ok (.invocation t) := by
  unfold ofText
  split
  all_goals first | rfl | exact absurd rfl ht

theorem ofTexts_cons {word : Word} (hword : ofText t = .ok word) (hmark : word ≠ .mark) :
    ofTexts (t :: rest) = (ofTexts rest).map (word :: ·) := by
  rw [ofTexts, hword]
  show (if word = .mark then _ else _) = _
  rw [if_neg hmark]
  cases ofTexts rest <;> rfl

theorem ofTexts_invocation (ht : t.head? ≠ some '-') :
    ofTexts (t :: rest) = (ofTexts rest).map (.invocation t :: ·) :=
  ofTexts_cons (ofText_of_head? ht) nofun

theorem ofText_joined (name : Text) :
    ofText ("--surface=".toList ++ name) = .ok (.option .surface (some name)) := rfl

theorem ofTexts_flag (hflag : flag.IsTaken) :
    ofTexts (flag.texts ++ rest) = (ofTexts rest).map (flag.words ++ ·) := by
  cases flag with
  | json => exact ofTexts_cons rfl nofun
  | debug => exact ofTexts_cons rfl nofun
  | surface name joined =>
    cases joined with
    | true => exact ofTexts_cons (ofText_joined name) nofun
    | false =>
      have hoption : ofTexts ("--surface".toList :: name :: rest) =
          (ofTexts (name :: rest)).map (.option .surface none :: ·) := ofTexts_cons rfl nofun
      rw [ofTexts_cons hflag nofun] at hoption
      refine hoption.trans ?_
      cases ofTexts rest <;> rfl

theorem ofTexts_flags {flags : List Flag} (hflags : ∀ flag ∈ flags, flag.IsTaken) :
    ofTexts (flags.flatMap Flag.texts ++ rest) =
      (ofTexts rest).map (flags.flatMap Flag.words ++ ·) := by
  induction flags with
  | nil => cases h : ofTexts rest <;> simp [h, Except.map]
  | cons flag flags ih =>
    obtain ⟨hflag, hflags⟩ := List.forall_mem_cons.1 hflags
    rw [List.flatMap_cons, List.append_assoc, ofTexts_flag hflag, ih hflags]
    cases ofTexts rest <;> simp [Except.map]

theorem ofTexts_invocations {texts : List Text} (htexts : ∀ t ∈ texts, t.head? ≠ some '-') :
    ofTexts (texts ++ rest) = (ofTexts rest).map (texts.map .invocation ++ ·) := by
  induction texts with
  | nil => cases h : ofTexts rest <;> simp [h, Except.map]
  | cons t texts ih =>
    obtain ⟨ht, htexts⟩ := List.forall_mem_cons.1 htexts
    rw [List.cons_append, ofTexts_invocation ht, ih htexts]
    cases ofTexts rest <;> simp [Except.map]

end Word

/-! ### Reading -/

namespace Reading

/-- Takes a flag. -/
def takeFlag (r : Reading) (flag : Flag) : Reading :=
  { r.endGroup with options := flag.set r.options }

end Reading

variable {r : Reading} {flag : Flag} {flags : List Flag} {rest : List Word}

theorem Flag.IsPlain.isTaken (hflag : flag.IsPlain) : flag.IsTaken := by
  match flag with
  | json | debug => trivial
  | surface name true =>
    rintro rfl
    exact hflag rfl
  | surface name false => exact Word.ofText_of_head? hflag

theorem readWords_flag (hflag : flag.IsTaken) :
    readWords r (flag.words ++ rest) = readWords (r.takeFlag flag) rest := by
  cases flag with
  | json => rfl
  | debug => rfl
  | surface name joined =>
    have hname : name ≠ "--".toList := by
      rintro rfl
      cases joined with
      | true => exact hflag rfl
      | false => cases hflag
    have htake : r.takeSurface name = r.takeFlag (.surface name joined) := by
      rw [Reading.takeSurface, if_neg hname]
      rfl
    rw [← htake]
    cases joined <;> rfl

theorem readWords_flags (hflags : ∀ flag ∈ flags, flag.IsTaken) :
    readWords r (flags.flatMap Flag.words ++ rest) =
      readWords (flags.foldl Reading.takeFlag r) rest := by
  induction flags generalizing r with
  | nil => rfl
  | cons flag flags ih =>
    obtain ⟨hflag, hflags⟩ := List.forall_mem_cons.1 hflags
    rw [List.flatMap_cons, List.append_assoc, readWords_flag hflag, ih hflags, List.foldl_cons]

theorem readWords_invocations (texts : List Text) :
    readWords r (texts.map .invocation ++ rest) =
      readWords (texts.foldl Reading.takeInvocation r) rest := by
  induction texts generalizing r with
  | nil => rfl
  | cons t texts ih => rw [List.map_cons, List.cons_append, readWords, ih, List.foldl_cons]

/-! ### What is known behind the words -/

theorem options_foldl_takeFlag (flags : List Flag) (r : Reading) :
    (flags.foldl Reading.takeFlag r).options = flags.foldl Flag.set r.options ∧
      (flags.foldl Reading.takeFlag r).unrecognized = r.unrecognized := by
  induction flags generalizing r with
  | nil => exact ⟨rfl, rfl⟩
  | cons flag flags ih =>
    obtain ⟨hoptions, hunrecognized⟩ := ih (r.takeFlag flag)
    have hkept : (r.takeFlag flag).unrecognized = r.unrecognized := by
      rw [Reading.takeFlag, Reading.endGroup]
      split <;> rfl
    exact ⟨hoptions, hunrecognized.trans hkept⟩

/-- Flags in front of the invocations do not end their group. -/
theorem group_foldl_takeFlag (flags : List Flag) (hr : r.group = .ahead) :
    (flags.foldl Reading.takeFlag r).group = .ahead := by
  induction flags generalizing r with
  | nil => exact hr
  | cons flag flags ih =>
    refine ih ?_
    rw [Reading.takeFlag, Reading.endGroup, hr]
    exact hr

theorem foldl_takeInvocation (texts : List Text) (hr : r.group ≠ .over) :
    (texts.foldl Reading.takeInvocation r).options =
        { r.options with invocations := r.options.invocations ++ texts } ∧
      (texts.foldl Reading.takeInvocation r).unrecognized = r.unrecognized := by
  induction texts generalizing r with
  | nil =>
    rw [List.append_nil]
    exact ⟨rfl, rfl⟩
  | cons t texts ih =>
    have htake : r.takeInvocation t = { r with
        options := { r.options with invocations := r.options.invocations ++ [t] },
        group := .open } := if_neg hr
    rw [List.foldl_cons, htake]
    obtain ⟨hoptions, hunrecognized⟩ := ih (r := { r with
      options := { r.options with invocations := r.options.invocations ++ [t] },
      group := .open }) nofun
    rw [hoptions, hunrecognized]
    simp

theorem foldl_set_invocations (flags : List Flag) (o : Options) (texts : List Text) :
    { flags.foldl Flag.set o with invocations := texts } =
      flags.foldl Flag.set { o with invocations := texts } := by
  induction flags generalizing o with
  | nil => rfl
  | cons flag flags ih =>
    rw [List.foldl_cons, List.foldl_cons, ih]
    cases flag <;> rfl

/-- The options that flags select around invocations. -/
def Options.chosen (texts : List Text) (flags : List Flag) : Options :=
  flags.foldl Flag.set ⟨texts, none, false, false⟩

theorem invocations_foldl_set (flags : List Flag) (o : Options) :
    (flags.foldl Flag.set o).invocations = o.invocations := by
  induction flags generalizing o with
  | nil => rfl
  | cons flag flags ih =>
    rw [List.foldl_cons, ih]
    cases flag <;> rfl

/-- What is known behind invocations with flags on both sides. -/
def Reading.between (before : List Flag) (texts : List Text) (after : List Flag) : Reading :=
  after.foldl takeFlag (texts.foldl takeInvocation (before.foldl takeFlag .start))

theorem between_eq (before : List Flag) (texts : List Text) (after : List Flag) :
    (Reading.between before texts after).options = .chosen texts (before ++ after) ∧
      (Reading.between before texts after).unrecognized = [] := by
  have hgroup : (before.foldl Reading.takeFlag .start).group ≠ .over := by
    rw [group_foldl_takeFlag before rfl]
    nofun
  obtain ⟨hoptions₁, hrefused₁⟩ := options_foldl_takeFlag before .start
  obtain ⟨hoptions₂, hrefused₂⟩ := foldl_takeInvocation texts hgroup
  obtain ⟨hoptions₃, hrefused₃⟩ := options_foldl_takeFlag after
    (texts.foldl Reading.takeInvocation (before.foldl Reading.takeFlag .start))
  refine ⟨?_, hrefused₃.trans (hrefused₂.trans hrefused₁)⟩
  rw [Reading.between, hoptions₃, hoptions₂, hoptions₁, invocations_foldl_set,
    foldl_set_invocations, Options.chosen, List.foldl_append]
  rfl

section

variable {before after : List Flag} {texts : List Text}

theorem ofTexts_between (hbefore : ∀ flag ∈ before, flag.IsTaken)
    (htexts : ∀ t ∈ texts, t.head? ≠ some '-') (hafter : ∀ flag ∈ after, flag.IsTaken) :
    Word.ofTexts (before.flatMap Flag.texts ++ (texts ++ (after.flatMap Flag.texts ++ []))) =
      .ok (before.flatMap Flag.words ++
        (texts.map .invocation ++ (after.flatMap Flag.words ++ []))) := by
  rw [Word.ofTexts_flags hbefore, Word.ofTexts_invocations htexts, Word.ofTexts_flags hafter]
  rfl

theorem readWords_between (hbefore : ∀ flag ∈ before, flag.IsTaken)
    (hafter : ∀ flag ∈ after, flag.IsTaken) :
    readWords .start (before.flatMap Flag.words ++
        (texts.map .invocation ++ (after.flatMap Flag.words ++ []))) =
      .ok (.run (.chosen texts (before ++ after))) := by
  obtain ⟨hoptions, hrefused⟩ := between_eq before texts after
  rw [Reading.between] at hoptions hrefused
  rw [readWords_flags hbefore, readWords_invocations, readWords_flags hafter, readWords,
    Reading.finish, hrefused, hoptions]
  rfl

/-- Invocations with flags on both sides are read as the invocations and what the flags set. -/
theorem readRequest_taken (hflags : ∀ flag ∈ before ++ after, flag.IsTaken)
    (htexts : ∀ t ∈ texts, t.head? ≠ some '-') :
    readRequest (before.flatMap Flag.texts ++ (texts ++ after.flatMap Flag.texts)) =
      .ok (.run (.chosen texts (before ++ after))) := by
  obtain ⟨hbefore, hafter⟩ := List.forall_mem_append.1 hflags
  have hwords := ofTexts_between hbefore htexts hafter
  rw [List.append_nil] at hwords
  rw [readRequest, hwords]
  exact readWords_between hbefore hafter

theorem readRequest_between (hflags : ∀ flag ∈ before ++ after, flag.IsPlain)
    (htexts : ∀ t ∈ texts, t.head? ≠ some '-') :
    readRequest (before.flatMap Flag.texts ++ (texts ++ after.flatMap Flag.texts)) =
      .ok (.run (.chosen texts (before ++ after))) :=
  readRequest_taken (fun flag hflag => (hflags flag hflag).isTaken) htexts

end

end ColorLiteral.CommandLine
