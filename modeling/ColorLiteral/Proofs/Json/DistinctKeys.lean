import ColorLiteral.Json.Relaxed
import ColorLiteral.Proofs.Outcome
import Mathlib.Data.List.Nodup

/-!
# Documents are read with distinct keys

No object of a document that is read has a key twice, in standard JSON (`hasDistinctKeys_readStrict`)
and in relaxed JSON (`Relaxed.hasDistinctKeys_read`), because a repeated key takes the place of the
earlier one.

The automaton holds some parts of the document under way (`State.parts`). One token keeps them free
of repeated keys (`IsDistinct.step`), and so does a list of tokens.
-/

namespace ColorLiteral.Json

variable {ν : Type}

/-- No object of a document has a key twice. -/
inductive HasDistinctKeys : Json ν → Prop
  | null : HasDistinctKeys .null
  | bool (value : Bool) : HasDistinctKeys (.bool value)
  | number (value : ν) : HasDistinctKeys (.number value)
  | string (t : Text) : HasDistinctKeys (.string t)
  | array {items : List (Json ν)} (hitems : ∀ item ∈ items, HasDistinctKeys item) :
      HasDistinctKeys (.array items)
  | object {members : List (Text × Json ν)} (hkeys : (members.map Prod.fst).Nodup)
      (hmembers : ∀ member ∈ members, HasDistinctKeys member.2) : HasDistinctKeys (.object members)

/-! ### One more member -/

variable {key : Text} {v : Json ν} {members : List (Text × Json ν)}

theorem mem_putMember {member : Text × Json ν} (h : member ∈ putMember key v members) :
    member = (key, v) ∨ member ∈ members := by
  induction members with
  | nil => exact .inl (List.mem_singleton.1 h)
  | cons first rest ih =>
    rw [putMember] at h
    split at h
    · next heq =>
      rcases List.mem_cons.1 h with rfl | hrest
      · exact .inl (by rw [heq])
      · exact .inr (List.mem_cons_of_mem _ hrest)
    · rcases List.mem_cons.1 h with rfl | hrest
      · exact .inr List.mem_cons_self
      · exact (ih hrest).imp id (List.mem_cons_of_mem _)

theorem nodup_keys_putMember (h : (members.map Prod.fst).Nodup) :
    ((putMember key v members).map Prod.fst).Nodup := by
  induction members with
  | nil => exact List.nodup_singleton key
  | cons first rest ih =>
    rw [List.map_cons, List.nodup_cons] at h
    rw [putMember]
    split
    · next heq => exact List.nodup_cons.2 h
    · next hne =>
      refine List.nodup_cons.2 ⟨fun hmem => ?_, ih h.2⟩
      obtain ⟨member, hmember, heq⟩ := List.mem_map.1 hmem
      rcases mem_putMember hmember with rfl | hrest
      · exact hne heq.symm
      · exact h.1 (List.mem_map.2 ⟨member, hrest, heq⟩)

theorem HasDistinctKeys.putMember (h : HasDistinctKeys (.object members)) (hv : HasDistinctKeys v) :
    HasDistinctKeys (.object (Json.putMember key v members)) := by
  cases h with
  | object hkeys hmembers =>
    refine .object (nodup_keys_putMember hkeys) fun member hmember => ?_
    rcases mem_putMember hmember with rfl | hmember
    · exact hv
    · exact hmembers member hmember

theorem HasDistinctKeys.append_item {items : List (Json ν)} (h : HasDistinctKeys (.array items))
    (hv : HasDistinctKeys v) : HasDistinctKeys (.array (items ++ [v])) := by
  cases h with
  | array hitems =>
    exact .array (List.forall_mem_append.2 ⟨hitems, List.forall_mem_singleton.2 hv⟩)

theorem HasDistinctKeys.member (h : HasDistinctKeys (.object members))
    (hv : member? key members = some v) : HasDistinctKeys v := by
  obtain ⟨member, hmember, rfl⟩ := Option.map_eq_some_iff.1 hv
  cases h with
  | object _ hmembers => exact hmembers member (List.mem_of_find?_eq_some hmember)

/-! ### The automaton -/

/-- What has been read of the array or object of a frame. -/
def Frame.part : Frame ν → Json ν
  | .item items => .array items
  | .member members _ => .object members

/-- What has been read of the arrays and objects under way, or else the document. -/
def State.parts : State ν → List (Json ν)
  | .value stack => stack.map Frame.part
  | .itemOrEnd items stack | .afterItem items stack => .array items :: stack.map Frame.part
  | .key members stack | .keyOrEnd members stack | .colon members _ stack
  | .afterMember members stack => .object members :: stack.map Frame.part
  | .finished document => [document]

/-- No part of a document under way has a key twice. -/
def IsDistinct (parts : List (Json ν)) : Prop := ∀ d ∈ parts, HasDistinctKeys d

/-- A token brings no repeated keys with it. -/
def IsSound (token : JsonToken ν) : Prop := ∀ v, token = .scalar v → HasDistinctKeys v

variable {dialect : Dialect ν} {s s' : State ν} {stack : List (Frame ν)} {token : JsonToken ν}
  {offset : Nat}

theorem IsDistinct.deliver (hstack : IsDistinct (stack.map Frame.part)) (hv : HasDistinctKeys v) :
    IsDistinct (Json.deliver v stack).parts := by
  cases stack with
  | nil => exact List.forall_mem_singleton.2 hv
  | cons frame stack =>
    obtain ⟨hframe, hrest⟩ := List.forall_mem_cons.1 hstack
    cases frame with
    | item items => exact List.forall_mem_cons.2 ⟨hframe.append_item hv, hrest⟩
    | member members key => exact List.forall_mem_cons.2 ⟨hframe.putMember hv, hrest⟩

variable (hnamed : ∀ name v, dialect.named name = some v → HasDistinctKeys v)
  (htoken : IsSound token)

include hnamed htoken

theorem IsDistinct.beginValue (hstack : IsDistinct (stack.map Frame.part))
    (h : Json.beginValue dialect stack token offset = .ok s') : IsDistinct s'.parts := by
  unfold Json.beginValue at h
  split at h
  · cases h
  split at h
  · cases h
    exact List.forall_mem_cons.2 ⟨.array (List.forall_mem_nil _), hstack⟩
  · cases h
    exact List.forall_mem_cons.2 ⟨.object List.nodup_nil (List.forall_mem_nil _), hstack⟩
  · cases h
    exact hstack.deliver (htoken _ rfl)
  · cases h
    exact hstack.deliver (.string _)
  · split at h
    · next hname =>
      cases h
      exact hstack.deliver (hnamed _ _ hname)
    · cases h
  all_goals cases h

omit hnamed htoken in
theorem IsDistinct.beginMember (hparts : IsDistinct (.object members :: stack.map Frame.part))
    (h : Json.beginMember members stack token offset = .ok s') : IsDistinct s'.parts := by
  unfold Json.beginMember at h
  split at h <;> cases h <;> exact hparts

/-- One token keeps the parts of a document free of repeated keys. -/
theorem IsDistinct.step (hs : IsDistinct s.parts)
    (h : Json.step dialect s (token, offset) = .ok s') : IsDistinct s'.parts := by
  -- an array or object that ends becomes a value of the one around it
  have hend : ∀ {part stack}, s.parts = part :: stack.map Frame.part →
      IsDistinct (Json.deliver part stack).parts := fun hparts => by
    obtain ⟨hpart, hstack⟩ := List.forall_mem_cons.1 (hparts ▸ hs)
    exact IsDistinct.deliver hstack hpart
  unfold Json.step at h
  dsimp only at h
  -- one case for each state, and for each token that ends an array or object or separates
  split at h
  · exact hs.beginValue hnamed htoken h
  · cases h
    exact hend rfl
  · refine IsDistinct.beginValue hnamed htoken ?_ h
    exact hs
  · exact hs.beginMember h
  · cases h
    exact hend rfl
  · exact hs.beginMember h
  · cases h
    exact hs
  · cases h
    exact hend rfl
  · cases h
    split <;> exact hs
  · cases h
    exact hend rfl
  · cases h
    split <;> exact hs
  · cases h

omit htoken in
theorem IsDistinct.foldlM_step {tokens : List (JsonToken ν × Nat)}
    (htokens : ∀ located ∈ tokens, IsSound located.1) (hs : IsDistinct s.parts)
    (h : tokens.foldlM (Json.step dialect) s = .ok s') : IsDistinct s'.parts := by
  induction tokens generalizing s with
  | nil => cases h; exact hs
  | cons located tokens ih =>
    obtain ⟨htoken, htokens⟩ := List.forall_mem_cons.1 htokens
    obtain ⟨middle, hstep, hrest⟩ := Outcome.bind_eq_ok_iff.1 h
    exact ih htokens (hs.step hnamed htoken hstep) hrest

omit htoken in
theorem hasDistinctKeys_ofTokens {tokens : List (JsonToken ν × Nat)} {stop : Nat} {d : Json ν}
    (htokens : ∀ located ∈ tokens, IsSound located.1)
    (h : ofTokens dialect tokens stop = .ok d) : HasDistinctKeys d := by
  obtain ⟨s, hs, h⟩ := Outcome.bind_eq_ok_iff.1 h
  have hstart : IsDistinct (State.value (ν := ν) []).parts := List.forall_mem_nil _
  have hparts := hstart.foldlM_step hnamed htokens hs
  split at h
  · cases h
    exact hparts _ List.mem_cons_self
  · cases h

omit hnamed htoken

/-! ### Tokens -/

theorem isSound_punctuation {c : Char} (h : punctuation? c = some token) : IsSound token := by
  rintro v rfl
  unfold punctuation? at h
  split at h <;> cases h

theorem hasDistinctKeys_namedValues {numbers : NumberReader ν} {name : Text}
    (h : (name, v) ∈ namedValues numbers) : HasDistinctKeys v := by
  simp only [namedValues, List.mem_cons, List.mem_map, Prod.mk.injEq] at h
  rcases h with ⟨-, rfl⟩ | ⟨-, rfl⟩ | ⟨-, rfl⟩ | ⟨_, _, -, rfl⟩
  · exact .null
  · exact .bool _
  · exact .bool _
  · exact .number _

theorem isSound_scalar {numbers : NumberReader ν} {t : Text} {size : Nat}
    (h : scalar? numbers t = some (token, size)) : IsSound token := by
  rintro v rfl
  unfold scalar? at h
  split at h
  · next hfind =>
    cases h
    exact hasDistinctKeys_namedValues (List.mem_of_find?_eq_some hfind)
  · dsimp only at h
    split at h
    · cases h
    split at h
    · cases h
      exact .number _
    · cases h

theorem isSound_tokens {numbers : NumberReader ν} {total : Nat} {t : Text} :
    ∀ located ∈ tokens numbers total t, IsSound located.1 := by
  fun_induction tokens numbers total t with
  | case1 => exact List.forall_mem_nil _
  | case2 _ _ _ ih => exact ih
  | case3 => exact List.forall_mem_singleton.2 nofun
  | case4 _ _ _ _ _ _ ih => exact List.forall_mem_cons.2 ⟨nofun, ih⟩
  | case5 _ _ _ _ _ _ h ih => exact List.forall_mem_cons.2 ⟨isSound_punctuation h, ih⟩
  | case6 _ _ _ _ _ _ _ _ h ih => exact List.forall_mem_cons.2 ⟨isSound_scalar h, ih⟩
  | case7 => exact List.forall_mem_singleton.2 nofun

/-- A document in standard JSON is read with distinct keys. -/
theorem hasDistinctKeys_readStrict {numbers : NumberReader ν} {limit : Option Nat} {source : Text}
    {d : Json ν} (h : readStrict numbers limit source = .ok d) : HasDistinctKeys d := by
  unfold readStrict at h
  split at h
  · cases h
  · refine hasDistinctKeys_ofTokens (fun name v hname => ?_) isSound_tokens h
    cases hname

namespace Relaxed

theorem isSound_numberToken (lexeme : Text) (x : Option JsonNumber) :
    IsSound (numberToken lexeme x) := by
  rintro v h
  cases x <;> cases h
  exact .number _

theorem isSound_nameToken (size : Nat) (name : Text) : IsSound (nameToken size name) := by
  rintro v h
  unfold nameToken at h
  split at h <;> cases h

theorem isSound_tokens {t : Text} : ∀ token ∈ tokens t, IsSound token := by
  fun_induction tokens t with
  | case1 => exact List.forall_mem_nil _
  | case2 _ ih | case4 _ _ _ ih | case5 _ _ _ _ _ ih => exact ih
  | case3 | case6 | case10 => exact List.forall_mem_singleton.2 nofun
  | case7 _ _ _ _ _ _ _ _ _ ih => exact List.forall_mem_cons.2 ⟨nofun, ih⟩
  | case8 _ _ _ _ _ _ _ h ih => exact List.forall_mem_cons.2 ⟨isSound_punctuation h, ih⟩
  | case9 _ _ _ _ _ _ _ x _ _ ih => exact List.forall_mem_cons.2 ⟨isSound_numberToken _ x, ih⟩
  | case11 _ _ _ _ _ _ _ _ _ _ _ _ ih =>
    exact List.forall_mem_cons.2 ⟨isSound_nameToken _ _, ih⟩

/-- A document in relaxed JSON is read with distinct keys. -/
theorem hasDistinctKeys_read {source : Text} {d : Json JsonNumber} (h : read source = .ok d) :
    HasDistinctKeys d := by
  have hnamed : ∀ name v, dialect.named name = some v → HasDistinctKeys v := by
    intro name v hname
    obtain ⟨before, after, heq, -⟩ := List.lookup_eq_some_iff.1 hname
    have hmem : (name, v) ∈ namedValues valueNumbers := by simp [heq]
    exact hasDistinctKeys_namedValues hmem
  have htokens : ∀ located ∈ (tokens source).map fun token => (token, 0), IsSound located.1 :=
    List.forall_mem_map.2 isSound_tokens
  exact hasDistinctKeys_ofTokens hnamed htokens (Outcome.mapError_eq_ok_iff.1 h)

end Relaxed

end ColorLiteral.Json
