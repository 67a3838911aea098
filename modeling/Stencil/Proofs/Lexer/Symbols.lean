import Stencil.Proofs.Lexer.Tokens
import Stencil.Proofs.Marker.Form
import Stencil.Proofs.Node.Symbols

/-!
# `Stencil.Proofs.Lexer.Symbols` — the texts that are read without a report

A text on whose markers nothing is reported is made of pieces: literal stretches, and markers that say
something.  `Lexes` puts such a text together from its end, piece by piece, and two literal stretches
never meet.  What a piece gives depends on the piece alone, so the pieces of a text can be read off its
symbols, and the other way round.

## Contents
- **Pieces.** `segmentsAt_marker` and `segmentsAt_text`.
- **`Lexes`**, and **`lexes_iff`**: these are the texts without a report, with their symbols.
- **What their symbols are like.** `Symbol.IsGood`, `Apart`.
-/

namespace Stencil

/-! ## Pieces -/

/-- A marker at the beginning is one segment. -/
theorem segmentsAt_marker (offset : Nat) {m : Text} (hm : IsMarker m) (a : Text) :
    segmentsAt offset (m ++ a) = .marker offset m :: segmentsAt (offset + m.length) a := by
  have h := segmentsAt_of_first offset markerFree_nil hm a
  rw [literalSegments, if_pos rfl] at h
  exact h

/-- Literal text before a marker is one segment; the rest is as it would be alone. -/
theorem segmentsAt_text (offset : Nat) {t m : Text} (hnil : t ≠ []) (ht : MarkerFree t)
    (hm : IsMarker m) (a : Text) :
    segmentsAt offset (t ++ (m ++ a)) =
      .literal offset t :: segmentsAt (offset + t.length) (m ++ a) := by
  rw [segmentsAt_of_first offset ht hm a, literalSegments, if_neg hnil, segmentsAt_marker _ hm]
  rfl

theorem Declares.kind_ne_text {body value : Text} {kind : TokenKind} (h : Declares body kind value) :
    kind ≠ .text := by
  cases h <;> exact TokenKind.noConfusion

/-- The token of a marker has the kind and the value that the marker says. -/
theorem Declares.symbol_eq {body value : Text} {kind : TokenKind} (h : Declares body kind value)
    (place : Place) : (Token.mk kind value place).symbol = ⟨kind, value⟩ := by
  cases h <;> rfl

/-- The marker gives that token wherever it stands, and no report. -/
theorem Declares.read {body value : Text} {kind : TokenKind} (h : Declares body kind value)
    (hbody : IsBody body) (text : Text) (start : Nat) :
    (Segment.marker start (braced body)).token? text = some ⟨kind, value, Place.at text start⟩ ∧
      (Segment.marker start (braced body)).report? text = none := by
  rw [Segment.token?_marker, Segment.report?_marker, (classifyMarker_eq_some_iff hbody).2 h]
  exact ⟨rfl, rfl⟩

/-! ## Texts without a report -/

/-- Symbols of which the first is text. -/
def BeginsWithText (symbols : List Symbol) : Prop :=
  ∃ t rest, symbols = ⟨.text, t⟩ :: rest

theorem not_beginsWithText_nil : ¬ BeginsWithText [] := by
  rintro ⟨t, rest, h⟩
  exact List.cons_ne_nil _ _ h.symm

theorem not_beginsWithText_cons {s : Symbol} (hs : s.kind ≠ .text) (symbols : List Symbol) :
    ¬ BeginsWithText (s :: symbols) := by
  rintro ⟨t, rest, h⟩
  exact hs (congrArg Symbol.kind (List.cons.inj h).1)

/-- **A text is made of pieces that give these symbols**, one each. -/
inductive Lexes : Text → List Symbol → Prop where
  | nil : Lexes [] []
  | text {t a : Text} {symbols : List Symbol} (hnil : t ≠ []) (hfree : MarkerFree t)
      (hrest : Lexes a symbols) (hapart : ¬ BeginsWithText symbols) :
      Lexes (t ++ a) (⟨.text, t⟩ :: symbols)
  | marker {body a value : Text} {kind : TokenKind} {symbols : List Symbol} (hbody : IsBody body)
      (hform : Declares body kind value) (hrest : Lexes a symbols) :
      Lexes (braced body ++ a) (⟨kind, value⟩ :: symbols)

section Texts

variable {text : Text} {symbols : List Symbol}

/-- Every piece gives its symbol, wherever the text stands, and no report. -/
theorem Lexes.symbols_eq (h : Lexes text symbols) (whole : Text) (offset : Nat) :
    ((segmentsAt offset text).filterMap (Segment.token? whole)).map Token.symbol = symbols ∧
      (segmentsAt offset text).filterMap (Segment.report? whole) = [] := by
  induction h generalizing offset with
  | nil =>
    rw [segmentsAt_of_free offset markerFree_nil]
    exact ⟨rfl, rfl⟩
  | @text t a symbols hnil hfree hrest hapart ih =>
    have hpiece : segmentsAt offset (t ++ a) =
        .literal offset t :: segmentsAt (offset + t.length) a := by
      cases hrest with
      | nil =>
        rw [List.append_nil, segmentsAt_of_free offset hfree, literalSegments, if_neg hnil,
          segmentsAt_of_free _ markerFree_nil]
        rfl
      | text => exact absurd ⟨_, _, rfl⟩ hapart
      | marker hbody _ _ => exact segmentsAt_text offset hnil hfree ⟨_, hbody, rfl⟩ _
    obtain ⟨htokens, hreports⟩ := ih (offset + t.length)
    rw [hpiece, List.filterMap_cons_some (Segment.token?_literal whole t offset),
      List.filterMap_cons_none (Segment.report?_literal whole t offset), List.map_cons, htokens]
    exact ⟨rfl, hreports⟩
  | @marker body a value kind symbols hbody hform hrest ih =>
    obtain ⟨htoken, hreport⟩ := hform.read hbody whole offset
    obtain ⟨htokens, hreports⟩ := ih (offset + (braced body).length)
    rw [segmentsAt_marker offset ⟨body, hbody, rfl⟩, List.filterMap_cons_some htoken,
      List.filterMap_cons_none hreport, List.map_cons, htokens, hform.symbol_eq]
    exact ⟨rfl, hreports⟩

/-- A text without a report is made of pieces. -/
theorem exists_lexes (whole : Text) (offset : Nat)
    (h : (segmentsAt offset text).filterMap (Segment.report? whole) = []) :
    ∃ symbols, Lexes text symbols := by
  induction text using marker_induction generalizing offset with
  | free text hfree =>
    by_cases hnil : text = []
    · exact ⟨[], hnil ▸ .nil⟩
    · have hlexes := Lexes.text hnil hfree .nil not_beginsWithText_nil
      rw [List.append_nil] at hlexes
      exact ⟨_, hlexes⟩
  | first b m a hb hm ih =>
    rw [segmentsAt_of_first offset hb hm, List.filterMap_append, List.append_eq_nil_iff,
      List.filterMap_cons, Segment.report?_marker] at h
    obtain ⟨body, hbody, rfl⟩ := hm
    cases hclass : classifyMarker (braced body) with
    | none => exact absurd h.2 (by simp [hclass])
    | some form =>
      obtain ⟨kind, value⟩ := form
      have hform := (classifyMarker_eq_some_iff hbody).1 hclass
      rw [hclass] at h
      obtain ⟨symbols, hrest⟩ := ih _ h.2
      have hlexes := Lexes.marker hbody hform hrest
      by_cases hnil : b = []
      · rw [hnil, List.nil_append]
        exact ⟨_, hlexes⟩
      · exact ⟨_, .text hnil hb hlexes (not_beginsWithText_cons hform.kind_ne_text symbols)⟩

/-- **The texts that are made of pieces are those without a report**, and the symbols of the pieces are
those of the tokens. -/
theorem lexes_iff : Lexes text symbols ↔
    (tokenize text).2 = [] ∧ (tokenize text).1.map Token.symbol = symbols := by
  rw [tokenize_eq]
  constructor
  · intro h
    exact (h.symbols_eq text 0).symm
  · rintro ⟨hreports, rfl⟩
    obtain ⟨symbols, h⟩ := exists_lexes text 0 hreports
    have hsymbols := (h.symbols_eq text 0).1
    exact hsymbols ▸ h

end Texts

/-! ## The symbols of such a text -/

/-- What a symbol has to be to come out of a text: literal text is some text without a marker, a name
and a condition are such as a marker can give. -/
def Symbol.IsGood (s : Symbol) : Prop :=
  match s.kind with
  | .text => s.value ≠ [] ∧ MarkerFree s.value
  | .variable => IsName s.value
  | .ifOpen => IsCondition s.value
  | .endif => s.value = []

/-- No two symbols of text follow each other. -/
def Apart (symbols : List Symbol) : Prop :=
  ∀ t u, ¬ [⟨.text, t⟩, ⟨.text, u⟩] <:+: symbols

theorem Apart.of_infix {part symbols : List Symbol} (h : Apart symbols) (hpart : part <:+: symbols) :
    Apart part :=
  fun t u hpair => h t u (hpair.trans hpart)

theorem apart_nil : Apart [] := by
  intro t u h
  exact absurd (List.infix_nil.1 h) (by simp)

/-- A symbol in front keeps the others apart, if it is not text before text. -/
theorem Apart.cons {s : Symbol} {symbols : List Symbol} (h : Apart symbols)
    (hs : s.kind = .text → ¬ BeginsWithText symbols) : Apart (s :: symbols) := by
  intro t u hpair
  rcases List.infix_cons_iff.1 hpair with hprefix | hinside
  · obtain ⟨rfl, rest, hrest⟩ := List.cons_prefix_cons.1 hprefix
    exact hs rfl ⟨u, rest, hrest.symm⟩
  · exact h t u hinside

/-- The symbols of a text are good, and those of text are apart. -/
theorem Lexes.good {text : Text} {symbols : List Symbol} (h : Lexes text symbols) :
    (∀ s ∈ symbols, s.IsGood) ∧ Apart symbols := by
  induction h with
  | nil => exact ⟨fun s hs => absurd hs List.not_mem_nil, apart_nil⟩
  | text hnil hfree hrest hapart ih =>
    refine ⟨fun s hs => ?_, ih.2.cons fun _ => hapart⟩
    rcases List.mem_cons.1 hs with rfl | hs
    · exact ⟨hnil, hfree⟩
    · exact ih.1 s hs
  | marker hbody hform hrest ih =>
    refine ⟨fun s hs => ?_, ih.2.cons fun hkind => absurd hkind hform.kind_ne_text⟩
    rcases List.mem_cons.1 hs with rfl | hs
    · cases hform with
      | opening _ hcondition => exact hcondition
      | closing => exact rfl
      | naming hname => exact hname
    · exact ih.1 s hs

end Stencil
