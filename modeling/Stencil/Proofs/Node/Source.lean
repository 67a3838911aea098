import Stencil.Proofs.Lexer.Symbols

/-!
# `Stencil.Proofs.Node.Source` — trees written as templates

A tree is written as the template it may have come from (`Node.source`).  Not every tree can be: two
literals in a row would come back as one, and a name with a blank would not come back at all.  The trees
that can be written are singled out by what they look like (`Node.Normal`), and then characterized by
their symbols: they are the plain trees whose symbols can come out of a text
(`NormalStatements.lexes`, `NormalStatements.of_good`).

## Contents
- **`Node.source`** and **`sourceAll`**.
- **`NormalStatements`** and **`Node.Normal`**.
- **The symbols of normal trees**, there and back.
-/

namespace Stencil

/-! ## Writing -/

mutual

/-- A tree as a template: a literal as itself, a variable as its name in a marker, a conditional as its
body between two markers; a node of another kind is not written. -/
def Node.source : Node → Text
  | .literal text => text
  | .variable name => braced name
  | .block statements => sourceAll statements
  | .conditional condition body =>
    braced (Text.of "if " ++ condition) ++ (sourceAll body ++ braced (Text.of "endif"))
  | .other _ => []

/-- Trees one after the other, as a template. -/
def sourceAll : List Node → Text
  | [] => []
  | node :: rest => node.source ++ sourceAll rest

end

/-! ## Normal trees -/

/-- **Statements that can be written**: literals, variables and conditionals, where a literal is some
text in which no marker is found, and no literal follows another. -/
inductive NormalStatements : List Node → Prop where
  | nil : NormalStatements []
  | literal {text : Text} {rest : List Node} (hnil : text ≠ []) (hfree : markerSpans text = [])
      (hrest : NormalStatements rest) (hapart : ∀ t more, rest ≠ .literal t :: more) :
      NormalStatements (.literal text :: rest)
  | variable {name : Text} {rest : List Node} (hname : IsName name)
      (hrest : NormalStatements rest) : NormalStatements (.variable name :: rest)
  | conditional {condition : Text} {body rest : List Node} (hcondition : IsCondition condition)
      (hbody : NormalStatements body) (hrest : NormalStatements rest) :
      NormalStatements (.conditional condition body :: rest)

/-- A tree that can be written: a block of such statements. -/
def Node.Normal (tree : Node) : Prop :=
  ∃ statements, tree = .block statements ∧ NormalStatements statements

theorem NormalStatements.plain {statements : List Node} (h : NormalStatements statements) :
    Plain statements := by
  induction h with
  | nil => exact .nil
  | literal _ _ _ _ ih => exact .literal ih
  | «variable» _ _ ih => exact .variable ih
  | conditional _ _ _ ihbody ih => exact .conditional ihbody ih

/-! ## From trees to symbols -/

/-- The space before a condition is a gap. -/
theorem isGap_space : IsGap [' '] :=
  ⟨List.cons_ne_nil _ _, List.forall_mem_singleton.2 (by decide)⟩

theorem IsCondition.isBody {condition : Text} (h : IsCondition condition) :
    IsBody (Text.of "if " ++ condition) := by
  have hword (c : Char) (hc : c ∉ Text.of "if ") (hcondition : c ∉ condition) :
      c ∉ Text.of "if " ++ condition := fun hmem =>
    (List.mem_append.1 hmem).elim hc hcondition
  exact isBody_of_no_brace (List.append_ne_nil_of_right_ne_nil _ h.ne_nil)
    (hword '{' (by decide) h.no_opening) (hword '}' (by decide) h.no_closing)

theorem isBody_endif : IsBody (Text.of "endif") :=
  isBody_of_no_brace (by decide) (by decide) (by decide)

/-- Where plain statements begin with text, they begin with a literal. -/
theorem Plain.beginsWithText {statements : List Node} (h : Plain statements) {after : List Symbol}
    (hbegins : BeginsWithText (symbolsAll statements ++ after)) :
    BeginsWithText after ∨ ∃ t more, statements = .literal t :: more := by
  cases h with
  | nil => exact .inl hbegins
  | literal _ => exact .inr ⟨_, _, rfl⟩
  | «variable» _ => exact absurd hbegins (not_beginsWithText_cons TokenKind.noConfusion _)
  | conditional _ _ => exact absurd hbegins (not_beginsWithText_cons TokenKind.noConfusion _)

/-- **What normal statements are written as is made of their symbols**, if what follows does not begin
with text. -/
theorem NormalStatements.lexes {statements : List Node} (h : NormalStatements statements)
    {after : Text} {symbols : List Symbol} (hafter : Lexes after symbols)
    (hend : ¬ BeginsWithText symbols) :
    Lexes (sourceAll statements ++ after) (symbolsAll statements ++ symbols) := by
  induction h generalizing after symbols with
  | nil => exact hafter
  | @literal text rest hnil hfree hrest hapart ih =>
    rw [sourceAll, Node.source, symbolsAll, Node.symbols, List.append_assoc]
    refine .text hnil (markerSpans_eq_nil_iff.1 hfree) (ih hafter hend) ?_
    intro hbegins
    rcases hrest.plain.beginsWithText hbegins with hbegins | ⟨t, more, hliteral⟩
    · exact hend hbegins
    · exact hapart t more hliteral
  | @«variable» name rest hname hrest ih =>
    rw [sourceAll, Node.source, symbolsAll, Node.symbols, List.append_assoc]
    exact .marker hname.isBody (.naming hname) (ih hafter hend)
  | @conditional condition body rest hcondition hbody hrest ihbody ih =>
    have hclosing := Lexes.marker isBody_endif .closing (ih hafter hend)
    have hinside := ihbody hclosing (not_beginsWithText_cons TokenKind.noConfusion _)
    have hopening := Lexes.marker hcondition.isBody (.opening isGap_space hcondition) hinside
    simpa [sourceAll, Node.source, symbolsAll, Node.symbols, Symbol.closing] using hopening

/-! ## From symbols to trees -/

/-- **Plain statements are normal if their symbols can come out of a text.** -/
theorem NormalStatements.of_good {statements : List Node} (h : Plain statements)
    (hgood : ∀ s ∈ symbolsAll statements, s.IsGood) (hapart : Apart (symbolsAll statements)) :
    NormalStatements statements := by
  induction h with
  | nil => exact .nil
  | @literal text rest hrest ih =>
    rw [symbolsAll, Node.symbols, List.singleton_append] at hgood hapart
    obtain ⟨hhead, htail⟩ := List.forall_mem_cons.1 hgood
    refine .literal hhead.1 (markerSpans_eq_nil_iff.2 hhead.2)
      (ih htail (hapart.of_infix (List.infix_cons List.infix_rfl))) ?_
    rintro t more rfl
    exact hapart text t ⟨[], symbolsAll more, rfl⟩
  | @«variable» name rest hrest ih =>
    rw [symbolsAll, Node.symbols, List.singleton_append] at hgood hapart
    obtain ⟨hhead, htail⟩ := List.forall_mem_cons.1 hgood
    exact .variable hhead (ih htail (hapart.of_infix (List.infix_cons List.infix_rfl)))
  | @conditional condition body rest hbody hrest ihbody ih =>
    rw [symbolsAll, Node.symbols] at hgood hapart
    have hbodyInfix : symbolsAll body <:+:
        ⟨.ifOpen, condition⟩ :: (symbolsAll body ++ [.closing]) ++ symbolsAll rest :=
      ⟨[⟨.ifOpen, condition⟩], .closing :: symbolsAll rest, by simp⟩
    have hrestInfix : symbolsAll rest <:+:
        ⟨.ifOpen, condition⟩ :: (symbolsAll body ++ [.closing]) ++ symbolsAll rest :=
      (List.suffix_append _ _).isInfix
    exact .conditional (hgood _ List.mem_cons_self)
      (ihbody (fun s hs => hgood s (hbodyInfix.subset hs)) (hapart.of_infix hbodyInfix))
      (ih (fun s hs => hgood s (hrestInfix.subset hs)) (hapart.of_infix hrestInfix))

end Stencil
