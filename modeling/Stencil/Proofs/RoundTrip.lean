import Stencil.Proofs.Node.Source
import Stencil.Proofs.Parse.Lossless

/-!
# `Stencil.Proofs.RoundTrip` — templates that are written and read back

Reading what a normal tree is written as gives that tree, and every template that is read without a
report comes from a normal tree.  The lexer and the parser meet at the symbols: the lexer gives the
symbols of a written tree (`NormalStatements.lexes`), and whatever tokens have the symbols of a tree are
read as that tree (`readsAs_of_symbols`).

## Contents
- **Reading a tree.** `ReadsAs`, `readsAs_of_symbols` and `parseTokens_plain`.
- **Reading without a report.** `exists_plain_of_silent`.
- **`parse_source_roundtrip`**.
-/

namespace Stencil

/-! ## Reading a tree -/

theorem Token.kind_of_symbol {t : Token} {s : Symbol} (h : t.symbol = s) : t.kind = s.kind :=
  congrArg Symbol.kind h

theorem Token.value_of_symbol {t : Token} {s : Symbol} (h : t.symbol = s) (hs : s.kind ≠ .endif) :
    t.value = s.value := by
  have hkind := Token.kind_of_symbol h
  rw [Token.symbol_of_ne_endif (by rw [hkind]; exact hs)] at h
  exact congrArg Symbol.value h

/-- What came of a reading, if some tokens were read before it. -/
def Parse.later (r : Parse) (count : Nat) : Parse :=
  { r with position := r.position + count }

theorem Parse.later_later (r : Parse) (m n : Nat) : (r.later m).later n = r.later (m + n) := by
  rw [Parse.later, Parse.later, Parse.later, Nat.add_assoc]

section Reading

variable {strict : Bool} {statements : List Node} {tokens : List Token}

/-- A token without a report is read, and the reading goes on. -/
theorem read_cons {p next : Progress} {t : Token} (hstep : p.step t = (next, none))
    (rest : List Token) : p.read strict (t :: rest) = (next.read strict rest).later 1 := by
  rw [Progress.read, hstep]
  rfl

/-- **Tokens are read as some statements**, wherever a reading stands and whatever follows. -/
def ReadsAs (strict : Bool) (tokens : List Token) (statements : List Node) : Prop :=
  ∀ (p : Progress) (rest : List Token),
    p.read strict (tokens ++ rest) =
      (Progress.read strict ⟨p.opened, statements.reverse ++ p.statements⟩ rest).later tokens.length

theorem readsAs_nil : ReadsAs strict [] [] :=
  fun _ _ => rfl

/-- A token that becomes a statement. -/
theorem ReadsAs.cons {t : Token} {node : Node} (h : ReadsAs strict tokens statements)
    (hstep : ∀ p : Progress, p.step t = (p.push node, none)) :
    ReadsAs strict (t :: tokens) (node :: statements) := by
  intro p rest
  rw [List.cons_append, read_cons (hstep p), h, Parse.later_later, List.reverse_cons,
    List.append_assoc]
  rfl

/-- The tokens of a conditional: those of its body become its statements when it is closed. -/
theorem ReadsAs.conditional {t c : Token} {inner : List Token} {body : List Node}
    (h : ReadsAs strict tokens statements) (hbody : ReadsAs strict inner body)
    (ht : t.kind = .ifOpen) (hc : c.kind = .endif) :
    ReadsAs strict (t :: (inner ++ c :: tokens)) (.conditional t.value body :: statements) := by
  intro p rest
  have hopen : p.step t = (⟨⟨t, p.statements⟩ :: p.opened, []⟩, none) := by
    rw [Progress.step, ht]
  have hclose : Progress.step ⟨⟨t, p.statements⟩ :: p.opened, body.reverse ++ []⟩ c =
      (p.push (.conditional t.value body), none) := by
    rw [Progress.step, hc, List.append_nil]
    show (Progress.close _ _ _, none) = _
    rw [Progress.close, List.reverse_reverse]
    rfl
  have hlength : tokens.length + (1 + (inner.length + 1)) = (t :: (inner ++ c :: tokens)).length := by
    simp only [List.length_cons, List.length_append]
    omega
  rw [List.cons_append, read_cons hopen, List.append_assoc, hbody, List.cons_append,
    read_cons hclose, h, Parse.later_later, Parse.later_later, Parse.later_later, hlength,
    List.reverse_cons, List.append_assoc]
  rfl

/-- **Tokens that have the symbols of some statements are read as these statements.** -/
theorem readsAs_of_symbols (h : Plain statements)
    (hsymbols : tokens.map Token.symbol = symbolsAll statements) :
    ReadsAs strict tokens statements := by
  induction h generalizing tokens with
  | nil =>
    rw [symbolsAll, List.map_eq_nil_iff] at hsymbols
    rw [hsymbols]
    exact readsAs_nil
  | literal _ ih =>
    rw [symbolsAll, Node.symbols, List.singleton_append] at hsymbols
    obtain ⟨t, others, rfl, ht, hothers⟩ := List.map_eq_cons_iff.1 hsymbols
    refine (ih hothers).cons fun p => ?_
    rw [Progress.step, Token.kind_of_symbol ht, Token.value_of_symbol ht TokenKind.noConfusion]
  | «variable» _ ih =>
    rw [symbolsAll, Node.symbols, List.singleton_append] at hsymbols
    obtain ⟨t, others, rfl, ht, hothers⟩ := List.map_eq_cons_iff.1 hsymbols
    refine (ih hothers).cons fun p => ?_
    rw [Progress.step, Token.kind_of_symbol ht, Token.value_of_symbol ht TokenKind.noConfusion]
  | conditional _ _ ihbody ih =>
    rw [symbolsAll, Node.symbols, List.cons_append, List.append_assoc, List.singleton_append]
      at hsymbols
    obtain ⟨t, others, rfl, ht, hothers⟩ := List.map_eq_cons_iff.1 hsymbols
    obtain ⟨inner, others, rfl, hinner, hothers⟩ := List.map_eq_append_iff.1 hothers
    obtain ⟨c, outer, rfl, hc, houter⟩ := List.map_eq_cons_iff.1 hothers
    have hread := (@ih outer houter).conditional (@ihbody inner hinner) (Token.kind_of_symbol ht)
      (Token.kind_of_symbol hc)
    rw [Token.value_of_symbol ht TokenKind.noConfusion] at hread
    exact hread

/-- Tokens that have the symbols of some statements are read as the block of them. -/
theorem parseTokens_plain (h : Plain statements)
    (hsymbols : tokens.map Token.symbol = symbolsAll statements) (strict : Bool) :
    parseTokens strict tokens = ⟨.ok (.block statements), [], tokens.length⟩ := by
  have hread := @readsAs_of_symbols strict _ _ h hsymbols .start []
  rw [List.append_nil] at hread
  rw [parseTokens, hread, Progress.read, Progress.finish]
  show Parse.later ⟨.ok (.block (statements.reverse ++ []).reverse), [], 0⟩ tokens.length = _
  rw [List.append_nil, List.reverse_reverse, Parse.later, Nat.zero_add]

/-! ## Reading without a report -/

/-- A reading that has nothing to report does not stop, however strict it is. -/
theorem read_of_silent {p : Progress} (h : (p.read strict tokens).reported = []) :
    p.read false tokens = p.read strict tokens := by
  cases strict with
  | false => rfl
  | true =>
    induction tokens generalizing p with
    | nil =>
      obtain ⟨opened, statements⟩ := p
      cases opened with
      | nil => rfl
      | cons block outer => exact absurd h (List.cons_ne_nil _ _)
    | cons t tokens ih =>
      rw [Progress.read] at h ⊢
      rw [Progress.read]
      cases hstep : p.step t with
      | mk next report =>
        rw [hstep] at h
        cases report with
        | none => simp only [ih h]
        | some report => exact absurd h (List.cons_ne_nil _ _)

/-- **Tokens on which nothing is reported have the symbols of some statements.** -/
theorem exists_plain_of_silent (h : (parseTokens strict tokens).reported = []) :
    ∃ statements, Plain statements ∧ tokens.map Token.symbol = symbolsAll statements := by
  obtain ⟨⟨opened, statements⟩, ds, hreads, hparse⟩ := parseTokens_lenient tokens
  have hsilent : ds ++ opened.map OpenBlock.report = [] := by
    rw [← h, parseTokens, ← read_of_silent h, ← parseTokens, hparse]
  obtain ⟨rfl, hopened⟩ := List.append_eq_nil_iff.1 hsilent
  obtain rfl := List.map_eq_nil_iff.1 hopened
  obtain ⟨hsymbols, hunmatched⟩ := hreads.openSymbols_eq
  have hall := matched_eq_of_unmatched_eq_nil (List.map_eq_nil_iff.1 hunmatched.symm)
  rw [hall] at hsymbols
  exact ⟨statements.reverse, hreads.plain.1, hsymbols.symm⟩

end Reading

/-! ## There and back -/

/-- What normal statements are written as is read as these statements. -/
theorem NormalStatements.parse_source {statements : List Node} (h : NormalStatements statements)
    (strict : Bool) :
    parseTemplate strict (sourceAll statements) = (.ok (.block statements), []) := by
  have hlexes := h.lexes .nil not_beginsWithText_nil
  rw [List.append_nil, List.append_nil] at hlexes
  obtain ⟨hreports, hsymbols⟩ := lexes_iff.1 hlexes
  rw [parseTemplate_eq, hreports, parseTokens_plain h.plain hsymbols strict]
  rfl

/-- **The template language round-trips**, in a strict reading and in one that is not.  Every normal
tree is read back from what it is written as, without a report; and what is read from a text
without a report is a normal tree, which therefore is read back from what it is written as. -/
theorem parse_source_roundtrip (strict : Bool) :
    (∀ tree : Node, tree.Normal → parseTemplate strict tree.source = (.ok tree, [])) ∧
      ∀ text : Text, (parseTemplate strict text).2 = [] →
        ∃ tree : Node, (parseTemplate strict text).1 = .ok tree ∧ tree.Normal ∧
          parseTemplate strict tree.source = (.ok tree, []) := by
  constructor
  · rintro tree ⟨statements, rfl, hnormal⟩
    exact hnormal.parse_source strict
  · intro text hsilent
    rw [parseTemplate_eq] at hsilent
    obtain ⟨hmarkers, hnesting⟩ := List.append_eq_nil_iff.1 hsilent
    obtain ⟨statements, hplain, hsymbols⟩ := exists_plain_of_silent hnesting
    have hlexes : Lexes text (symbolsAll statements) := lexes_iff.2 ⟨hmarkers, hsymbols⟩
    have hnormal := NormalStatements.of_good hplain hlexes.good.1 hlexes.good.2
    refine ⟨.block statements, ?_, ⟨statements, rfl, hnormal⟩, hnormal.parse_source strict⟩
    rw [parseTemplate_eq, parseTokens_plain hplain hsymbols strict]

/-- A condition that is one blank comes back, between braces that belong to no marker. -/
theorem parse_source_blank_condition :
    parseTemplate true (['{'] ++ braced (Text.of "if  ") ++ braced ['x'] ++
          braced (Text.of "endif") ++ ['}']) =
        (.ok (.block [.literal ['{'], .conditional [' '] [.variable ['x']], .literal ['}']]), []) ∧
      ∃ tree : Node,
        (parseTemplate false (['{'] ++ braced (Text.of "if  ") ++ braced ['x'] ++
          braced (Text.of "endif") ++ ['}'])).1 = .ok tree ∧ tree.Normal ∧
          parseTemplate false tree.source = (.ok tree, []) := by
  have hname : IsName ['x'] :=
    ⟨by decide, by decide, by decide, List.forall_mem_singleton.2 (by decide), by decide⟩
  have hcondition : IsCondition [' '] :=
    ⟨by decide, by decide, by decide, fun _ _ h _ => (List.cons.inj h).2.symm⟩
  have hopening : markerSpans ['{'] = [] := markerSpans_eq_nil_iff.2 (markerFree_of_unopened rfl)
  have hclosing : markerSpans ['}'] = [] := markerSpans_eq_nil_iff.2 (markerFree_of_unopened rfl)
  have hnormal : Node.Normal
      (.block [.literal ['{'], .conditional [' '] [.variable ['x']], .literal ['}']]) := by
    refine ⟨_, rfl, .literal (by decide) hopening ?_ (fun _ _ => by simp)⟩
    refine .conditional hcondition (.variable hname .nil) ?_
    exact .literal (by decide) hclosing .nil (fun _ _ => by simp)
  refine ⟨(parse_source_roundtrip true).1 _ hnormal, (parse_source_roundtrip false).2 _ ?_⟩
  exact congrArg Prod.snd ((parse_source_roundtrip false).1 _ hnormal)

end Stencil
