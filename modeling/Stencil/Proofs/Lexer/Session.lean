import Stencil.Proofs.Lexer.Tokens

/-!
# `Stencil.Proofs.Lexer.Session` — a lexer that is asked again and again

A lexer may read its text more than once, be asked for the markers, and be asked for the places of any
offsets in between.  It remembers how far it has counted lines, but no answer shows that: every answer is
the one that a text gives without any history (`Lexer.Call.answer`), and the reports are added each time.
What carries this is the invariant of the count, which every call keeps (`Lexer.call_eq`).

## Contents
- **Sessions.** `Lexer.Call`, `Lexer.Answer`, `Lexer.call` and `Lexer.calls`.
- **Answers without history.** `Lexer.Call.answer` and `Lexer.Call.reports`.
- **Tokens and reports at their places.** `Token.placedIn` and `Diagnostic.placedIn`.
- **`calls_eq_of_text`**.
-/

namespace Stencil

/-! ## Sessions -/

namespace Lexer

/-- A lexer that adds its reports to others. -/
def withReports (lexer : Lexer) (earlier : List Diagnostic) : Lexer :=
  { lexer with diagnostics := earlier ++ lexer.diagnostics }

/-- What a lexer may be asked for. -/
inductive Call where
  /-- All tokens. -/
  | tokenize
  /-- The spans of the markers. -/
  | scan
  /-- The place of an offset, inside the text or behind its end. -/
  | locate (offset : Nat)
deriving DecidableEq, Repr

/-- What a lexer answers. -/
inductive Answer where
  | tokens (tokens : List Token)
  | spans (spans : List Span)
  | place (place : Place)
deriving DecidableEq, Repr

/-- One call: the answer, and the lexer afterwards. -/
def call (lexer : Lexer) : Call → Answer × Lexer
  | .tokenize =>
    let (tokens, lexer) := lexer.tokenize
    (.tokens tokens, lexer)
  | .scan => (.spans (markerSpans lexer.text), lexer)
  | .locate offset =>
    let (place, lexer) := lexer.locate offset
    (.place place, lexer)

/-- One call after the other: the answers in order, and the lexer afterwards. -/
def calls (lexer : Lexer) : List Call → List Answer × Lexer
  | [] => ([], lexer)
  | call :: more =>
    let (answer, next) := lexer.call call
    let (answers, last) := next.calls more
    (answer :: answers, last)

/-! ## Answers without history -/

/-- What a text answers that has not been asked for anything before. -/
def Call.answer (text : Text) : Call → Answer
  | .tokenize => .tokens (Stencil.tokenize text).1
  | .scan => .spans (markerSpans text)
  | .locate offset => .place (Place.at text offset)

/-- What a call reports. -/
def Call.reports (text : Text) : Call → List Diagnostic
  | .tokenize => (Stencil.tokenize text).2
  | .scan | .locate _ => []

/-- **A call gives the answer without history**, if the lexer has counted its lines rightly, and then it has
still. -/
theorem call_eq {lexer : Lexer} (h : lexer.counted.Counts lexer.text) (c : Call) :
    (lexer.call c).1 = c.answer lexer.text ∧ (lexer.call c).2.text = lexer.text ∧
      (lexer.call c).2.diagnostics = lexer.diagnostics ++ c.reports lexer.text ∧
      (lexer.call c).2.counted.Counts lexer.text := by
  cases c with
  | tokenize =>
    obtain ⟨htokens, htext, hreports, hcounts⟩ := readSegments_eq h (segments lexer.text)
    rw [Call.answer, Call.reports, tokenize_eq]
    exact ⟨congrArg Answer.tokens htokens, htext, hreports, hcounts⟩
  | scan => exact ⟨rfl, rfl, (List.append_nil _).symm, h⟩
  | locate offset =>
    have hplace := h.place_goTo offset
    exact ⟨congrArg Answer.place hplace, rfl, (List.append_nil _).symm, h.goTo offset⟩

/-- **So do all calls of a session.** -/
theorem calls_eq {lexer : Lexer} (h : lexer.counted.Counts lexer.text) (cs : List Call) :
    (lexer.calls cs).1 = cs.map (Call.answer lexer.text) ∧
      (lexer.calls cs).2.diagnostics = lexer.diagnostics ++ cs.flatMap (Call.reports lexer.text) := by
  induction cs generalizing lexer with
  | nil => exact ⟨rfl, (List.append_nil _).symm⟩
  | cons c more ih =>
    obtain ⟨hanswer, htext, hreports, hcounts⟩ := call_eq h c
    have hnext : (lexer.call c).2.counted.Counts (lexer.call c).2.text := by
      rw [htext]
      exact hcounts
    obtain ⟨hanswers, hmore⟩ := ih hnext
    rw [htext] at hanswers hmore
    rw [hreports] at hmore
    rw [calls, List.map_cons, List.flatMap_cons, ← List.append_assoc, ← hanswer, ← hanswers]
    exact ⟨rfl, hmore⟩

end Lexer

/-! ## Tokens and reports at their places -/

/-- A token with the place of its offset in a text. -/
def Token.placedIn (text : Text) (t : Token) : Token :=
  { t with place := Place.at text t.place.offset.toNat }

/-- A report with the line and the column of its position in a text, if it has one. -/
def Diagnostic.placedIn (text : Text) (d : Diagnostic) : Diagnostic :=
  match d.position with
  | none => d
  | some position =>
    let place := Place.at text position.toNat
    { d with line := some place.line, column := some place.column }

/-- Every token of a text stands at the place of its offset. -/
theorem map_placedIn_tokens (text : Text) :
    (tokenize text).1.map (Token.placedIn text) = (tokenize text).1 := by
  have hplaced (t : Token) (ht : t ∈ (tokenize text).1) : t.placedIn text = t := by
    rw [tokenize_eq, List.mem_filterMap] at ht
    obtain ⟨segment, _, hsegment⟩ := ht
    have hplace := Segment.place_of_token? hsegment
    rw [Token.placedIn, hplace]
    show { t with place := Place.at text segment.start } = t
    rw [← hplace]
  exact (List.map_congr_left hplaced).trans (List.map_id _)

/-- Every report on a text has the line and the column of its position. -/
theorem map_placedIn_reports (text : Text) :
    (tokenize text).2.map (Diagnostic.placedIn text) = (tokenize text).2 := by
  rw [reports_eq_dropped, List.map_map]
  rfl

/-- **A lexer answers as if it had never been asked before.**  Whatever calls are made of it, in whatever
order, each answer is the one without history; every reading adds the same reports again, behind those
that were there.  Lines and columns are those of the offsets: one more than the line feeds before, and
the way from the last of them.  They are what is counted a stretch at once, whichever offsets are asked
for in whatever order. -/
theorem calls_eq_of_text (text : Text) (earlier : List Diagnostic) (calls : List Lexer.Call) :
    (((Lexer.ofText text).withReports earlier).calls calls).1 =
        calls.map (Lexer.Call.answer text) ∧
      (((Lexer.ofText text).withReports earlier).calls calls).2.diagnostics =
        earlier ++ calls.flatMap (Lexer.Call.reports text) ∧
      (tokenize text).1.map (Token.placedIn text) = (tokenize text).1 ∧
      (tokenize text).2.map (Diagnostic.placedIn text) = (tokenize text).2 ∧
      (∀ offset : Nat, Place.at text offset =
        { offset := offset
          line := 1 + (text.take offset).count '\n'
          column := (offset : Int) - lastLineStart (text.take offset) + 1 }) ∧
      ∀ offsets : List Nat,
        LineCount.start.places text offsets = offsets.map (Place.at text) := by
  have hearlier : ((Lexer.ofText text).withReports earlier).diagnostics = earlier :=
    List.append_nil earlier
  obtain ⟨hanswers, hreports⟩ := @Lexer.calls_eq ((Lexer.ofText text).withReports earlier)
    (LineCount.counts_start text) calls
  rw [hearlier] at hreports
  exact ⟨hanswers, hreports, map_placedIn_tokens text, map_placedIn_reports text, fun _ => rfl,
    (LineCount.counts_start text).places_eq⟩

end Stencil
