import ColorLiteral.Proofs.Token.Reach

/-!
# Texts with other blanks

A text is laid out anew when the blanks in front of its tokens, between them and behind them are
replaced (`Relaid`): two tokens that touch still do, and two that stand apart still do. The tokens
of the new text are those of the old one at other places (`readAllFrom_relaid`).

The new places hardly count. Two lists of tokens that `Moved` relates have the same kinds and texts,
and a token starts where the one in front of it stops in both of them or in neither.
-/

namespace ColorLiteral.Token

open Text (upToBlank)

/-- Behind a token, two texts hold the same tokens with blanks around them. There are blanks in
front of a token in both texts or in neither. -/
inductive RelaidBehind : List Token → Text → Text → Prop
  | nil {behind behind' : Text} (hbehind : behind.IsBlanks) (hbehind' : behind'.IsBlanks) :
      RelaidBehind [] behind behind'
  | cons {token : Token} {tokens : List Token} {gap gap' after after' : Text}
      (hgap : gap.IsBlanks) (hgap' : gap'.IsBlanks) (hsame : gap = [] ↔ gap' = [])
      (hafter : RelaidBehind tokens after after') :
      RelaidBehind (token :: tokens) (gap ++ (token.text ++ after))
        (gap' ++ (token.text ++ after'))

/-- Two texts hold the same tokens, with other blanks between those that stand apart, and with any
blanks at the ends. -/
def Relaid (tokens : List Token) (t t' : Text) : Prop :=
  ∃ front front' rest rest', t = front ++ rest ∧ t' = front' ++ rest' ∧ front.IsBlanks ∧
    front'.IsBlanks ∧ RelaidBehind tokens rest rest'

/-- Two lists of tokens differ in the places only, and a token stands at the end of the one in front
of it in both lists or in neither. The offsets are where the first tokens would touch what is in
front of them. -/
inductive Moved : Nat → Nat → List Token → List Token → Prop
  | nil {offset offset' : Nat} : Moved offset offset' [] []
  | cons {offset offset' : Nat} {token token' : Token} {tokens tokens' : List Token}
      (hkind : token'.kind = token.kind) (htext : token'.text = token.text)
      (htouch : token'.start = offset' ↔ token.start = offset)
      (hrest : Moved token.stop token'.stop tokens tokens') :
      Moved offset offset' (token :: tokens) (token' :: tokens')

variable {offset offset' : Nat} {tokens tokens' : List Token} {t t' : Text}

theorem RelaidBehind.touching (token : Token) (h : RelaidBehind tokens t t') :
    RelaidBehind (token :: tokens) (token.text ++ t) (token.text ++ t') :=
  .cons (List.forall_mem_nil _) (List.forall_mem_nil _) Iff.rfl h

/-- Up to the first blank, texts that hold the same tokens are the same. -/
theorem RelaidBehind.upToBlank_eq (h : RelaidBehind tokens t t') : upToBlank t' = upToBlank t := by
  induction h with
  | nil hbehind hbehind' => rw [Text.upToBlank_of_isBlanks hbehind, Text.upToBlank_of_isBlanks hbehind']
  | @cons token tokens gap gap' after after' hgap hgap' hsame _ ih =>
    cases gap with
    | nil =>
      obtain rfl := hsame.1 rfl
      exact Text.upToBlank_append_congr token.text ih
    | cons c gap =>
      obtain ⟨d, rest, rfl⟩ := List.exists_cons_of_ne_nil (mt hsame.2 (List.cons_ne_nil c gap))
      rw [List.cons_append, List.cons_append,
        Text.upToBlank_cons_of_blank (hgap c (List.mem_cons_self ..)),
        Text.upToBlank_cons_of_blank (hgap' d (List.mem_cons_self ..))]

/-- The tokens of a text that is laid out anew are moved. -/
theorem readAllFrom_relaidBehind (hread : readAllFrom offset t = .ok tokens)
    (hrelaid : RelaidBehind tokens t t') (offset' : Nat) :
    ∃ tokens', readAllFrom offset' t' = .ok tokens' ∧ Moved offset offset' tokens tokens' := by
  induction hrelaid generalizing offset offset' with
  | nil _ hbehind' => exact ⟨[], readAllFrom_of_isBlanks offset' hbehind', .nil⟩
  | @cons token tokens gap gap' after after' hgap hgap' hsame hafter ih =>
    have hsolid := ((readAllFrom_layout hread).isWellFormed_of_mem (List.mem_cons_self ..)).solid
    obtain ⟨c, tail, htext⟩ := List.exists_cons_of_ne_nil hsolid.ne_nil
    have hc : Text.isBlank c = false := hsolid.head_not_blank c (by simp [htext])
    rw [readAllFrom_blanks hgap, htext, List.cons_append] at hread
    rw [readAllFrom_blanks hgap', htext, List.cons_append]
    -- The first token is read from the same characters in both texts.
    have hfirst := hread
    rw [readAllFrom, if_neg (by simp [hc])] at hfirst
    split at hfirst
    · cases hfirst
    next first behind hfirstRead =>
    obtain ⟨others, hothers, heq⟩ := Outcome.exists_of_map_eq_ok hfirst
    obtain ⟨rfl, rfl⟩ := List.cons.inj heq
    obtain ⟨tail', htext', hsplit, hreach⟩ := read_reach hc hfirstRead
    obtain ⟨-, hstart, -⟩ := read_extent hc hfirstRead
    obtain rfl : tail = tail' := (List.cons.inj (htext.symm.trans htext')).2
    obtain rfl : after = behind := List.append_cancel_left hsplit
    -- What is behind it is laid out anew.
    have hmoved := hreach (offset' + gap'.length) after' hafter.upToBlank_eq
    obtain ⟨tokens', hrest, hmovedRest⟩ :=
      ih hothers { first with start := offset' + gap'.length }.stop
    refine ⟨{ first with start := offset' + gap'.length } :: tokens', ?_,
      .cons rfl rfl ?_ hmovedRest⟩
    · rw [readAllFrom_of_read hc hmoved, hrest]
      rfl
    · rw [← List.length_eq_zero_iff, ← List.length_eq_zero_iff] at hsame
      simp only [hstart]
      omega

/-- The tokens of a text that is laid out anew are moved. -/
theorem readAllFrom_relaid (hread : readAllFrom offset t = .ok tokens)
    (hrelaid : Relaid tokens t t') (offset' : Nat) :
    ∃ start start' tokens', readAllFrom offset' t' = .ok tokens' ∧
      Moved start start' tokens tokens' := by
  obtain ⟨front, front', rest, rest', rfl, rfl, hfront, hfront', hbehind⟩ := hrelaid
  rw [readAllFrom_blanks hfront] at hread
  obtain ⟨tokens', hread', hmoved⟩ := readAllFrom_relaidBehind hread hbehind _
  exact ⟨_, _, tokens', by rw [readAllFrom_blanks hfront', hread'], hmoved⟩

end ColorLiteral.Token
