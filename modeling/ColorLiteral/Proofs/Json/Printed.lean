import ColorLiteral.Proofs.Json.Scanning
import Mathlib.Data.Bool.AllAny
import Mathlib.Data.List.Nodup

/-!
# Printed JSON is read back

A document with numbers in the notation of JSON and with different keys in each of its objects is
read back from its printed form, exactly as it was (`readStrict_print`).

The printed form of a document takes the automaton from a state that expects a value to the state
behind that value (`IsPrintable.readsBack`). The proof is by induction over the document: the items
of an array, and the members of an object, are delivered one after another.
-/

namespace ColorLiteral.Json

/-- A document with numbers in the notation of JSON and with different keys in each object. -/
inductive IsPrintable : Json Text → Prop
  | null : IsPrintable .null
  | bool (value : Bool) : IsPrintable (.bool value)
  | number {t : Text} (ht : IsNumeral t) : IsPrintable (.number t)
  | string (t : Text) : IsPrintable (.string t)
  | array {items : List (Json Text)} (hitems : ∀ item ∈ items, IsPrintable item) :
      IsPrintable (.array items)
  | object {members : List (Text × Json Text)} (hkeys : (members.map Prod.fst).Nodup)
      (hmembers : ∀ member ∈ members, IsPrintable member.2) : IsPrintable (.object members)

/-! ### The automaton on a text -/

/-- The state behind the end of a text of `total` characters. -/
def feed (total : Nat) (s : State Text) (t : Text) : Except JsonError (State Text) :=
  (tokens writtenNumbers total t).foldlM (step (strictDialect none)) s

variable {total level : Nat} {s s' : State Text} {stack : List (Frame Text)} {t rest : Text}
  {token : JsonToken Text}

theorem feed_blanks (ht : ∀ c ∈ t, isJsonBlank c = true) :
    feed total s (t ++ rest) = feed total s rest := by
  rw [feed, tokens_blanks ht, feed]

theorem feed_lineBreak : feed total s (lineBreak level ++ rest) = feed total s rest := by
  refine feed_blanks fun c hc => ?_
  rcases List.mem_cons.1 hc with rfl | hc
  · rfl
  · obtain ⟨-, rfl⟩ := List.mem_replicate.1 hc
    rfl

theorem feed_token (htokens : ∃ offset, tokens writtenNumbers total (t ++ rest) =
      (token, offset) :: tokens writtenNumbers total rest)
    (hstep : ∀ offset, step (strictDialect none) s (token, offset) = .ok s') :
    feed total s (t ++ rest) = feed total s' rest := by
  obtain ⟨offset, htokens⟩ := htokens
  rw [feed, htokens, List.foldlM_cons, hstep]
  rfl

theorem feed_punctuation {c : Char} (hc : punctuation? c = some token)
    (hstep : ∀ offset, step (strictDialect none) s (token, offset) = .ok s') :
    feed total s (c :: rest) = feed total s' rest := by
  have hchar : isJsonBlank c = false ∧ c ≠ '"' := by
    unfold punctuation? at hc
    split at hc <;> first | exact ⟨rfl, by decide⟩ | cases hc
  have htoken : feed total s ([c] ++ rest) = feed total s' rest :=
    feed_token (tokens_punctuation hchar.1 hchar.2 hc) hstep
  exact htoken

theorem feed_string {read : Text}
    (hstep : ∀ offset, step (strictDialect none) s (.string read, offset) = .ok s') :
    feed total s (printString read ++ rest) = feed total s' rest :=
  feed_token (tokens_string read) hstep

/-! ### Where a value may start -/

/-- A value may start in a state, on a stack of what surrounds it. -/
inductive StartsValue : State Text → List (Frame Text) → Prop
  | value (stack : List (Frame Text)) : StartsValue (.value stack) stack
  | item (items : List (Json Text)) (stack : List (Frame Text)) :
      StartsValue (.itemOrEnd items stack) (.item items :: stack)

theorem StartsValue.step_eq (h : StartsValue s stack) (token : JsonToken Text)
    (htoken : token ≠ .closeArray) (offset : Nat) :
    step (strictDialect none) s (token, offset) =
      beginValue (strictDialect none) stack token offset := by
  cases h with
  | value => rfl
  | item => cases token <;> first | rfl | exact absurd rfl htoken

theorem StartsValue.step_scalar {v : Json Text} (h : StartsValue s stack) (offset : Nat) :
    step (strictDialect none) s (.scalar v, offset) = .ok (deliver v stack) :=
  h.step_eq (.scalar v) nofun offset

/-- The printed form of a document is read as the document. -/
def ReadsBack (total : Nat) (d : Json Text) : Prop :=
  ∀ level s stack rest, StartsValue s stack → IsDelimited rest →
    feed total s (printAt level d ++ rest) = feed total (deliver d stack) rest

/-! ### Values without parts -/

theorem scalar?_named {name : Text} {v : Json Text} (h : (name, v) ∈ namedValues writtenNumbers) :
    scalar? writtenNumbers (name ++ rest) = some (.scalar v, name.length) := by
  simp only [namedValues, writtenNumbers, List.map_nil, List.mem_cons, List.not_mem_nil, or_false,
    Prod.mk.injEq] at h
  rcases h with ⟨rfl, rfl⟩ | ⟨rfl, rfl⟩ | ⟨rfl, rfl⟩ <;> rfl

theorem readsBack_named {name : Text} {v : Json Text} (h : (name, v) ∈ namedValues writtenNumbers)
    (hprint : ∀ level, printAt level v = name) : ReadsBack total v := by
  intro level s stack rest hs _
  have hstart : ∃ c, name.head? = some c ∧ isJsonBlank c = false ∧ c ≠ '"' ∧
      punctuation? (ν := Text) c = none := by
    simp only [namedValues, writtenNumbers, List.map_nil, List.mem_cons, List.not_mem_nil, or_false,
      Prod.mk.injEq] at h
    rcases h with ⟨rfl, -⟩ | ⟨rfl, -⟩ | ⟨rfl, -⟩ <;> exact ⟨_, rfl, rfl, by decide, rfl⟩
  obtain ⟨c, hhead, hblank, hquote, hpunctuation⟩ := hstart
  rw [hprint]
  exact feed_token (tokens_scalar hhead hblank hquote hpunctuation (scalar?_named h)) hs.step_scalar

theorem scalar?_numeral (ht : IsNumeral t) (hrest : IsDelimited rest) :
    scalar? writtenNumbers (t ++ rest) = some (.scalar (.number t), t.length) := by
  obtain ⟨c, after, rfl, hc⟩ := ht.exists_cons
  have hlexeme := numberLexeme_append ht hrest
  have hletter : c ≠ 'n' ∧ c ≠ 't' ∧ c ≠ 'f' := by
    rcases hc with rfl | hc
    · decide
    · refine ⟨?_, ?_, ?_⟩ <;> rintro rfl <;> exact absurd hc (by decide)
  have hnone : (namedValues writtenNumbers).find?
      (fun entry => entry.1.isPrefixOf (c :: after ++ rest)) = none := by
    simp [namedValues, writtenNumbers, List.isPrefixOf, hletter.1.symm, hletter.2.1.symm,
      hletter.2.2.symm]
  simp only [scalar?, hnone, hlexeme]
  rfl

theorem readsBack_number (ht : IsNumeral t) : ReadsBack total (.number t) := by
  intro level s stack rest hs hrest
  obtain ⟨c, after, hcons, hc⟩ := ht.exists_cons
  have hnot : ∀ d ∈ "[]\x7b\x7d,: \t\n\r\"".toList, c ≠ d := by
    rintro d hd rfl
    rcases hc with rfl | hc
    · exact absurd hd (by decide)
    · have hall : ∀ d ∈ "[]\x7b\x7d,: \t\n\r\"".toList, ¬ d.isDigit = true :=
        List.all_iff_forall_prop.1 (by decide)
      exact hall c hd hc
  have hpunctuation : punctuation? (ν := Text) c = none := by
    unfold punctuation?
    split <;> first | rfl | exact absurd rfl (hnot _ (by decide))
  have hblank : isJsonBlank c = false := by
    simp [isJsonBlank, hnot ' ' (by decide), hnot '\t' (by decide), hnot '\n' (by decide),
      hnot '\r' (by decide)]
  have hhead : t.head? = some c := by rw [hcons]; rfl
  exact feed_token (tokens_scalar hhead hblank (hnot '"' (by decide)) hpunctuation
    (scalar?_numeral ht hrest)) hs.step_scalar

theorem readsBack_string (t : Text) : ReadsBack total (.string t) := by
  intro level s stack rest hs _
  exact feed_string (hs.step_eq (.string t) nofun)

/-! ### Arrays -/

theorem isDelimited_lineBreak (level : Nat) (rest : Text) : IsDelimited (lineBreak level ++ rest) :=
  .inr ⟨_, .inr rfl⟩

theorem isDelimited_printItems (level : Nat) (items : List (Json Text)) (hrest : IsDelimited rest) :
    IsDelimited (printItems level items ++ rest) := by
  cases items with
  | nil => exact hrest
  | cons item items =>
    rw [printItems]
    exact .inr ⟨_, .inl rfl⟩

theorem feed_printItems {items read : List (Json Text)}
    (hitems : ∀ item ∈ items, ReadsBack total item) (hrest : IsDelimited rest) :
    feed total (.afterItem read stack) (printItems level items ++ rest) =
      feed total (.afterItem (read ++ items) stack) rest := by
  induction items generalizing read with
  | nil => rw [printItems, List.append_nil]; rfl
  | cons item items ih =>
    obtain ⟨hitem, hitems⟩ := List.forall_mem_cons.1 hitems
    have hbehind := isDelimited_printItems level items hrest
    have hcomma : ∀ offset, step (strictDialect none) (.afterItem read stack) (.comma, offset) =
        .ok (.value (.item read :: stack)) := fun _ => rfl
    simp only [printItems, List.cons_append, List.append_assoc]
    rw [feed_punctuation rfl hcomma, feed_lineBreak,
      hitem level _ (.item read :: stack) _ (.value _) hbehind, deliver, ih hitems]
    simp

theorem readsBack_array {items : List (Json Text)} (hitems : ∀ item ∈ items, ReadsBack total item) :
    ReadsBack total (.array items) := by
  intro level s stack rest hs _
  have hopen : ∀ offset, step (strictDialect none) s (.openArray, offset) =
      .ok (.itemOrEnd [] stack) := hs.step_eq .openArray nofun
  cases items with
  | nil =>
    have htext : printAt level (.array []) ++ rest = '[' :: ']' :: rest := by rw [printAt]; rfl
    rw [htext, feed_punctuation rfl hopen, feed_punctuation rfl fun _ => rfl]
  | cons item items =>
    obtain ⟨hitem, hitems⟩ := List.forall_mem_cons.1 hitems
    have hbehind := isDelimited_printItems (level + 1) items
      (isDelimited_lineBreak level (']' :: rest))
    simp only [printAt, List.cons_append, List.append_assoc, List.nil_append]
    rw [feed_punctuation rfl hopen, feed_lineBreak,
      hitem (level + 1) _ (.item [] :: stack) _ (.item [] stack) hbehind, deliver,
      feed_printItems hitems (isDelimited_lineBreak _ _), feed_lineBreak,
      feed_punctuation rfl fun _ => rfl]
    rfl

/-! ### Objects -/

theorem putMember_of_notMem {key : Text} {v : Json Text} {members : List (Text × Json Text)}
    (h : key ∉ members.map Prod.fst) : putMember key v members = members ++ [(key, v)] := by
  induction members with
  | nil => rfl
  | cons member members ih =>
    rw [List.map_cons, List.mem_cons, not_or] at h
    rw [putMember.eq_2, if_neg (Ne.symm h.1), ih h.2]
    rfl

/-- A key and its value. -/
theorem feed_member {key after : Text} {v : Json Text} {members : List (Text × Json Text)}
    (hs : ∀ offset, step (strictDialect none) s (.string key, offset) =
      .ok (.colon members key stack))
    (hv : ReadsBack total v) (hafter : IsDelimited after) (hkey : key ∉ members.map Prod.fst) :
    feed total s (printString key ++ (": ".toList ++ (printAt level v ++ after))) =
      feed total (.afterMember (members ++ [(key, v)]) stack) after := by
  have hcolon : feed total (.colon members key stack) (": ".toList ++ (printAt level v ++ after)) =
      feed total (.value (.member members key :: stack)) ([' '] ++ (printAt level v ++ after)) :=
    feed_punctuation rfl fun _ => rfl
  rw [feed_string hs, hcolon, feed_blanks (List.forall_mem_singleton.2 rfl),
    hv level _ (.member members key :: stack) _ (.value _) hafter, deliver,
    putMember_of_notMem hkey]

theorem isDelimited_printMembers (level : Nat) (members : List (Text × Json Text))
    (hrest : IsDelimited rest) :
    IsDelimited (printMembers level members ++ rest) := by
  cases members with
  | nil => exact hrest
  | cons member members =>
    rw [printMembers]
    exact .inr ⟨_, .inl rfl⟩

theorem feed_printMembers {members read : List (Text × Json Text)}
    (hmembers : ∀ member ∈ members, ReadsBack total member.2)
    (hkeys : ((read ++ members).map Prod.fst).Nodup) (hrest : IsDelimited rest) :
    feed total (.afterMember read stack) (printMembers level members ++ rest) =
      feed total (.afterMember (read ++ members) stack) rest := by
  induction members generalizing read with
  | nil => rw [printMembers, List.append_nil]; rfl
  | cons member members ih =>
    obtain ⟨key, v⟩ := member
    obtain ⟨hv, hmembers⟩ := List.forall_mem_cons.1 hmembers
    have hbehind := isDelimited_printMembers level members hrest
    have hkey : key ∉ read.map Prod.fst := by
      intro hmem
      rw [List.map_append, List.map_cons] at hkeys
      exact (List.nodup_append.1 hkeys).2.2 key hmem key (List.mem_cons_self ..) rfl
    have hsplit : read ++ (key, v) :: members = (read ++ [(key, v)]) ++ members := by simp
    have hcomma : ∀ offset, step (strictDialect none) (.afterMember read stack) (.comma, offset) =
        .ok (.key read stack) := fun _ => rfl
    rw [hsplit] at hkeys
    simp only [printMembers, List.cons_append, List.append_assoc]
    rw [feed_punctuation rfl hcomma, feed_lineBreak,
      feed_member (fun _ => rfl) hv hbehind hkey, ih hmembers hkeys, hsplit]

theorem readsBack_object {members : List (Text × Json Text)}
    (hkeys : (members.map Prod.fst).Nodup)
    (hmembers : ∀ member ∈ members, ReadsBack total member.2) :
    ReadsBack total (.object members) := by
  intro level s stack rest hs _
  have hopen : ∀ offset, step (strictDialect none) s (.openObject, offset) =
      .ok (.keyOrEnd [] stack) := hs.step_eq .openObject nofun
  cases members with
  | nil =>
    have htext : printAt level (.object []) ++ rest = '{' :: '}' :: rest := by rw [printAt]; rfl
    rw [htext, feed_punctuation rfl hopen, feed_punctuation rfl fun _ => rfl]
  | cons member members =>
    obtain ⟨key, v⟩ := member
    obtain ⟨hv, hmembers⟩ := List.forall_mem_cons.1 hmembers
    have hbehind := isDelimited_printMembers (level + 1) members
      (isDelimited_lineBreak level ('}' :: rest))
    simp only [printAt, List.cons_append, List.append_assoc, List.nil_append]
    rw [feed_punctuation rfl hopen, feed_lineBreak,
      feed_member (fun _ => rfl) hv hbehind List.not_mem_nil,
      feed_printMembers hmembers hkeys (isDelimited_lineBreak _ _), feed_lineBreak,
      feed_punctuation rfl fun _ => rfl]
    rfl

/-! ### Documents -/

theorem IsPrintable.readsBack {d : Json Text} (h : IsPrintable d) : ReadsBack total d := by
  induction h with
  | null =>
    have hmem : ("null".toList, .null) ∈ namedValues writtenNumbers := by simp [namedValues]
    exact readsBack_named hmem fun _ => by rw [printAt]
  | bool value =>
    have hmem : ((if value then "true" else "false").toList, .bool value) ∈
        namedValues writtenNumbers := by
      cases value <;> simp [namedValues]
    refine readsBack_named hmem fun _ => ?_
    cases value <;> rw [printAt] <;> rfl
  | number ht => exact readsBack_number ht
  | string t => exact readsBack_string t
  | array _ ih => exact readsBack_array ih
  | object hkeys _ ih => exact readsBack_object hkeys ih

theorem IsPrintable.head?_print {d : Json Text} (h : IsPrintable d) (rest : Text) :
    (print d ++ rest).head? ≠ some '\ufeff' := by
  rw [print]
  cases h with
  | null => simp [printAt]
  | bool value => cases value <;> simp [printAt]
  | number ht =>
    obtain ⟨c, after, rfl, hc⟩ := ht.exists_cons
    rw [printAt]
    rintro ⟨⟩
    exact absurd hc (by decide)
  | string t => simp [printAt, printString]
  | @array items _ => cases items <;> simp [printAt]
  | @object members _ _ => cases members <;> simp [printAt]

/-- A printed document is read back as it was, also with a line break behind it. -/
theorem readStrict_print {d : Json Text} (h : IsPrintable d) (hrest : rest = [] ∨ rest = ['\n']) :
    readStrict writtenNumbers none (print d ++ rest) = .ok d := by
  have hdelimited : IsDelimited rest := hrest.imp id fun h => ⟨[], .inr h⟩
  have hread : feed (print d ++ rest).length (.value []) (print d ++ rest) = _ :=
    h.readsBack 0 _ [] rest (.value []) hdelimited
  have hrest' : feed (print d ++ rest).length (.finished d) rest = .ok (.finished d) := by
    rcases hrest with rfl | rfl
    · rw [feed, tokens]; rfl
    · rw [feed, tokens_blank rfl, tokens]; rfl
  rw [readStrict.eq_def]
  split
  · next heq => exact absurd (congrArg List.head? heq) (h.head?_print rest)
  · have htokens := hread.trans hrest'
    rw [ofTokens]
    rw [feed] at htokens
    rw [htokens]
    rfl

end ColorLiteral.Json
