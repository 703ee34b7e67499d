import ColorLiteral.Proofs.Invocation.Spans
import ColorLiteral.Proofs.Token.Written

/-!
# Invocations as they are written

A call is written from a name and items, each a literal that may have a label in front. It is parsed
back into that name and those items (`parse_written`).

The tokens of the literals stay apart because each is followed by a comma or a closing bracket
(`Item.readsAs`). None of them is a bracket or a comma, so the commas that are written between the
items are the only ones that split the list (`exists_runs`), and a run that starts with a name and a
colon is one with a label.
-/

namespace ColorLiteral

namespace Written

/-! ### What is written -/

/-- A literal: a number, a minus sign on one, or a string. -/
inductive Value
  | number (n : Numeral)
  | negative (n : Numeral)
  | quoted (b : Body)

/-- The characters of a literal. -/
def Value.text : Value → Text
  | number n => n.text
  | negative n => '-' :: n.text
  | quoted b => b.quoted

/-- A literal, perhaps behind a label. -/
structure Item where
  label? : Option Name
  value : Value

/-- The label with its colon and a space, if there is one. -/
def Item.labelText (item : Item) : Text := item.label?.elim [] fun l => l.text ++ [':', ' ']

/-- The characters of an item. -/
def Item.text (item : Item) : Text := item.labelText ++ item.value.text

/-- The name of an invocation, and its items. -/
structure Call where
  name : Name
  items : List Item

/-- The characters between the brackets. -/
def bodyText (items : List Item) : Text := Text.joinWith [',', ' '] (items.map Item.text)

/-- A call as it is written: its items between brackets, with a comma and a space between them. -/
def Call.text (call : Call) : Text :=
  '#' :: (call.name.text ++ '(' :: (bodyText call.items ++ [')']))

/-! ### What it is read as -/

/-- A number of the right kind with the characters of a numeral. -/
inductive Numeral.IsReadAs (n : Numeral) : Expr → Prop
  | integer {span : Span} (h : n.isFloat = false) : IsReadAs n (.integer n.text span)
  | float {span : Span} (h : n.isFloat = true) : IsReadAs n (.float n.text span)

/-- An expression that is a literal, with all that the literal is made of. -/
inductive Value.IsReadAs : Value → Expr → Prop
  | number {n : Numeral} {e : Expr} (h : n.IsReadAs e) : IsReadAs (.number n) e
  | negative {n : Numeral} {e : Expr} {span : Span} (h : n.IsReadAs e) :
      IsReadAs (.negative n) (.prefixed ('-' :: n.text) span ['-'] e)
  | quoted {b : Body} {span : Span} :
      IsReadAs (.quoted b) (.string b.quoted span [.plain b.text])

/-- An argument with the label and the literal of an item. -/
structure Item.IsReadAs (item : Item) (a : Argument) : Prop where
  label : a.label?.map Label.text = item.label?.map Name.text
  value : item.value.IsReadAs a.expr

/-! ### Tokens -/

/-- The tokens of a literal at an offset. -/
def Value.tokens (offset : Nat) : Value → List Token
  | number n => [⟨n.kind, n.text, offset⟩]
  | negative n => [⟨.operator, ['-'], offset⟩, ⟨n.kind, n.text, offset + 1⟩]
  | quoted b => [⟨.string [.plain b.text], b.quoted, offset⟩]

/-- The tokens of an item at an offset. -/
def Item.tokens (offset : Nat) (item : Item) : List Token :=
  item.label?.elim (item.value.tokens offset) fun l =>
    ⟨.identifier, l.text, offset⟩ :: ⟨.punctuation ':', [':'], offset + l.text.length⟩ ::
      item.value.tokens (offset + l.text.length + 2)

variable {t : Text}

theorem Value.readsAs (v : Value) (offset : Nat) (ht : Delimited t) :
    ReadsAs offset v.text t (v.tokens offset) := by
  cases v with
  | number n => exact n.readsAs offset ht
  | negative n => exact (n.readsAs_minus offset t).append (n.readsAs (offset + 1) ht)
  | quoted b => exact b.readsAs offset ht

theorem Item.readsAs (item : Item) (offset : Nat) (ht : Delimited t) :
    ReadsAs offset item.text t (item.tokens offset) := by
  obtain ⟨label, v⟩ := item
  cases label with
  | none => exact v.readsAs offset ht
  | some l =>
    have hcolon : Delimited ((':' :: ' ' :: v.text) ++ t) := delimited_cons (by decide) _
    have hvalue : ReadsAs (offset + l.text.length) (':' :: ' ' :: v.text) t _ :=
      .mark (by decide) (.space (v.readsAs _ ht))
    have htext : (Item.mk (some l) v).text = l.text ++ (':' :: ' ' :: v.text) := by
      simp [Item.text, Item.labelText]
    rw [htext]
    exact (l.readsAs offset hcolon).append hvalue

/-! ### Runs -/

/-- A token is neither a bracket nor a comma. -/
def IsInner (token : Token) : Prop := ¬ token.IsBracket ∧ ¬ token.IsComma

theorem isInner_of_kind {token : Token} (h : ∀ c, token.kind ≠ .punctuation c) : IsInner token :=
  ⟨Invocation.not_isBracket_of_kind h, h ','⟩

theorem Numeral.kind_ne (n : Numeral) (c : Char) : n.kind ≠ .punctuation c := by
  rw [Numeral.kind]
  split <;> exact TokenKind.noConfusion

theorem Value.isInner (v : Value) (offset : Nat) : ∀ token ∈ v.tokens offset, IsInner token := by
  intro token hmem
  refine isInner_of_kind fun c => ?_
  cases v with
  | number n =>
    obtain rfl := List.mem_singleton.1 hmem
    exact n.kind_ne c
  | negative n =>
    rcases List.mem_cons.1 hmem with rfl | hmem
    · exact TokenKind.noConfusion
    · obtain rfl := List.mem_singleton.1 hmem
      exact n.kind_ne c
  | quoted b =>
    obtain rfl := List.mem_singleton.1 hmem
    exact TokenKind.noConfusion

theorem Item.isInner (item : Item) (offset : Nat) :
    ∀ token ∈ item.tokens offset, IsInner token := by
  obtain ⟨label, v⟩ := item
  cases label with
  | none => exact v.isInner offset
  | some l =>
    have hcolon : IsInner ⟨.punctuation ':', [':'], offset + l.text.length⟩ := by
      refine ⟨?_, by simp [Token.IsComma]⟩
      rw [Invocation.isBracket_iff rfl]
      decide
    exact List.forall_mem_cons.2 ⟨isInner_of_kind fun _ => TokenKind.noConfusion,
      List.forall_mem_cons.2 ⟨hcolon, v.isInner _⟩⟩

theorem commaFree_of_isInner {run : List Token} (h : ∀ token ∈ run, IsInner token) :
    Invocation.CommaFree run := by
  induction run with
  | nil => exact .nil
  | cons token run ih =>
    obtain ⟨⟨hbracket, hcomma⟩, hrun⟩ := List.forall_mem_cons.1 h
    exact .plain hbracket hcomma (ih hrun)

/-- Only a written label is taken for one. -/
theorem Item.not_startsWithLabel {item : Item} (h : item.label? = none) (offset : Nat) :
    ¬ Invocation.StartsWithLabel (item.tokens offset) := by
  rintro ⟨name, colon, rest, htokens, hname, -⟩
  rw [Item.tokens, h, Option.elim_none] at htokens
  cases hvalue : item.value with
  | number n => rw [hvalue] at htokens; cases htokens
  | negative n =>
    rw [hvalue] at htokens
    obtain ⟨rfl, -⟩ := List.cons.inj htokens
    cases hname
  | quoted b => rw [hvalue] at htokens; cases htokens

theorem Item.isArgumentRun (item : Item) (offset : Nat) :
    Invocation.IsArgumentRun (item.tokens offset) where
  ne_nil := by
    obtain ⟨label, v⟩ := item
    cases label <;> cases v <;> exact List.cons_ne_nil _ _
  commaFree := commaFree_of_isInner (item.isInner offset)
  not_only_label := by
    rintro ⟨hlabel, hlength⟩
    cases hlabel? : item.label? with
    | none => exact item.not_startsWithLabel hlabel? offset hlabel
    | some l =>
      rw [Item.tokens, hlabel?, Option.elim_some] at hlength
      cases hvalue : item.value <;> rw [hvalue] at hlength <;> cases hlength

/-- The text between the brackets is read as one run for each item, with commas between them. -/
theorem exists_runs (items : List Item) (offset : Nat) (ht : Delimited t) :
    ∃ runs body, Invocation.Separated runs body ∧ ReadsAs offset (bodyText items) t body ∧
      (∀ run ∈ runs, Invocation.IsArgumentRun run) ∧
      List.Forall₂ (fun item run => ∃ start, run = item.tokens start) items runs := by
  induction items generalizing offset with
  | nil => exact ⟨[], [], .none, readsAs_nil offset t, List.forall_mem_nil _, .nil⟩
  | cons item rest ih =>
    cases rest with
    | nil =>
      have htext : bodyText [item] = item.text := by simp [bodyText, Text.joinWith]
      rw [htext]
      exact ⟨[item.tokens offset], item.tokens offset, .one, item.readsAs offset ht,
        List.forall_mem_singleton.2 (item.isArgumentRun offset), .cons ⟨offset, rfl⟩ .nil⟩
    | cons next rest =>
      obtain ⟨runs, body, hseparated, hbody, hall, hruns⟩ := ih (offset + item.text.length + 1 + 1)
      obtain ⟨run, runs, hrun, -, rfl⟩ := List.forall₂_cons_left_iff.1 hruns
      have htext : bodyText (item :: next :: rest) =
          item.text ++ (',' :: ' ' :: bodyText (next :: rest)) := by
        simp [bodyText, Text.joinWith]
      have hcomma : Delimited ((',' :: ' ' :: bodyText (next :: rest)) ++ t) :=
        delimited_cons (by decide) _
      have hrest : ReadsAs (offset + item.text.length) (',' :: ' ' :: bodyText (next :: rest)) t _ :=
        .mark (by decide) (.space hbody)
      have hseparator : Token.IsComma ⟨.punctuation ',', [','], offset + item.text.length⟩ := rfl
      refine ⟨item.tokens offset :: run :: runs, _, .more hseparator hseparated, ?_,
        List.forall_mem_cons.2 ⟨item.isArgumentRun offset, hall⟩, .cons ⟨offset, rfl⟩ hruns⟩
      rw [htext]
      exact (item.readsAs offset hcomma).append hrest

/-! ### Arguments -/

theorem Numeral.isReadAs_ofToken (n : Numeral) (offset : Nat) :
    n.IsReadAs (Expr.ofToken ⟨n.kind, n.text, offset⟩) := by
  cases hfloat : n.isFloat with
  | false =>
    rw [Numeral.kind, hfloat]
    exact .integer hfloat
  | true =>
    rw [Numeral.kind, hfloat]
    exact .float hfloat

/-- The tokens of a literal give it back. That the text of a prefixed number is the minus sign and
the number is known for every parsed expression. -/
theorem Value.isReadAs_ofRun {v : Value} {source : Text} {offset : Nat} {first : Token}
    {rest : List Token} (htokens : first :: rest = v.tokens offset)
    (hexact : (Expr.ofRun source first rest).IsPrefixExact) :
    v.IsReadAs (Expr.ofRun source first rest) := by
  cases v with
  | number n =>
    obtain ⟨rfl, rfl⟩ := List.cons.inj htokens
    exact .number (n.isReadAs_ofToken offset)
  | negative n =>
    obtain ⟨rfl, rfl⟩ := List.cons.inj htokens
    rw [Expr.ofRun_of_touch rfl rfl hexact]
    exact .negative (n.isReadAs_ofToken (offset + 1))
  | quoted b =>
    obtain ⟨rfl, rfl⟩ := List.cons.inj htokens
    exact .quoted

/-- The run of an item spells an argument with its label and its literal. -/
theorem Item.isReadAs_of_spells {item : Item} {source : Text} {offset : Nat} {a : Argument}
    (h : Invocation.Spells source (item.tokens offset) a) (hexact : a.expr.IsPrefixExact) :
    item.IsReadAs a := by
  generalize hrun : item.tokens offset = run at h
  cases hlabel : item.label? with
  | none =>
    have hno := item.not_startsWithLabel hlabel offset
    rw [Item.tokens, hlabel, Option.elim_none] at hrun
    cases h with
    | labelled hname hcolon =>
      rw [Item.tokens, hlabel, Option.elim_none, hrun] at hno
      exact absurd ⟨_, _, _, rfl, hname, hcolon⟩ hno
    | unlabelled => exact ⟨by rw [hlabel]; rfl, Value.isReadAs_ofRun hrun.symm hexact⟩
  | some l =>
    rw [Item.tokens, hlabel, Option.elim_some] at hrun
    cases h with
    | labelled hname hcolon =>
      obtain ⟨hfirst, hrun⟩ := List.cons.inj hrun
      obtain ⟨-, hrun⟩ := List.cons.inj hrun
      rw [← hfirst]
      exact ⟨by rw [hlabel]; rfl, Value.isReadAs_ofRun hrun.symm hexact⟩
    | unlabelled hno =>
      rw [← hrun] at hno
      exact absurd ⟨_, _, _, rfl, rfl, rfl⟩ hno

/-! ### Calls -/

theorem Call.exists_tokens (call : Call) :
    ∃ tokens runs, Token.readAll call.text = .ok tokens ∧
      Invocation.IsInvocation tokens ⟨.identifier, call.name.text, 1⟩ runs ∧
      List.Forall₂ (fun item run => ∃ start, run = item.tokens start) call.items runs := by
  have hend : Delimited ([')'] ++ []) := delimited_cons (by decide) _
  obtain ⟨runs, body, hseparated, hbody, hall, hruns⟩ :=
    exists_runs call.items (1 + call.name.text.length + 1) hend
  have hopen : Delimited (('(' :: (bodyText call.items ++ [')'])) ++ []) :=
    delimited_cons (by decide) _
  have harguments := hbody.append (.mark (by decide) (readsAs_nil _ []))
  have hread : ReadsAs 0 call.text []
      (⟨.punctuation '#', ['#'], 0⟩ :: ⟨.identifier, call.name.text, 1⟩ ::
        ⟨.punctuation '(', ['('], 1 + call.name.text.length⟩ :: (body ++ [⟨.punctuation ')', [')'],
          1 + call.name.text.length + 1 + (bodyText call.items).length⟩])) :=
    .mark (by decide) ((call.name.readsAs 1 hopen).append (.mark (by decide) harguments))
  exact ⟨_, runs, readAll_of_readsAs hread, .mk rfl rfl rfl rfl hseparated hall rfl, hruns⟩

/-- The runs of the items spell arguments that give the items back. -/
theorem isReadAs_arguments {items : List Item} {runs : List (List Token)} {source : Text}
    {arguments : List Argument}
    (hruns : List.Forall₂ (fun item run => ∃ start, run = item.tokens start) items runs)
    (hspells : List.Forall₂ (Invocation.Spells source) runs arguments)
    (hexact : ∀ a ∈ arguments, a.expr.IsPrefixExact) :
    List.Forall₂ Item.IsReadAs items arguments := by
  induction hruns generalizing arguments with
  | nil =>
    cases hspells
    exact .nil
  | @cons item _ _ _ hrun _ ih =>
    obtain ⟨a, rest, ha, hrest, rfl⟩ := List.forall₂_cons_left_iff.1 hspells
    obtain ⟨start, rfl⟩ := hrun
    obtain ⟨hfirst, hothers⟩ := List.forall_mem_cons.1 hexact
    exact .cons (item.isReadAs_of_spells ha hfirst) (ih hrest hothers)

/-- A call that is written is parsed. -/
theorem Call.exists_parse (call : Call) :
    ∃ i, Invocation.parse call.text = .ok i ∧ i.name = call.name.text ∧
      List.Forall₂ Item.IsReadAs call.items i.arguments := by
  obtain ⟨tokens, runs, htokens, hform, hruns⟩ := call.exists_tokens
  obtain ⟨i, hbuilt⟩ := Invocation.exists_isBuiltFrom call.text hform
  have hparse : Invocation.parse call.text = .ok i :=
    Invocation.parse_eq_ok_iff.2
      ⟨tokens, htokens, Invocation.ofTokens_iff.2 ⟨_, runs, hform, hbuilt⟩⟩
  obtain ⟨-, hexact⟩ := Invocation.cut_parse hparse
  exact ⟨i, hparse, hbuilt.name_eq, isReadAs_arguments hruns hbuilt.spells hexact⟩

end Written

/-- A written call is parsed back: into its name, and into one argument for each item, in order, with
the same label and the same literal. -/
theorem Invocation.parse_written (call : Written.Call) :
    ∃ i, parse call.text = .ok i ∧ i.name = call.name.text ∧
      List.Forall₂ Written.Item.IsReadAs call.items i.arguments :=
  call.exists_parse

end ColorLiteral
