import Mathlib.Data.List.Basic
import Stencil.Proofs.Lexer.Tokens

/-!
# `Stencil.Proofs.Lexer.Seam` — the tokens of two texts in a row

Where two texts meet, a marker may come about that belongs to neither.  If that does not happen
(`SeamFree`), the markers of the whole are those of the two texts, and so are its tokens, with one
exception: literal text at the end of the first and at the beginning of the second is one token.  That
is why the segments of the whole are described by what lies on both sides of the seam
(`segmentsAt_append`), not as a sum.

What belongs to the second text stands further on in the whole, so its places are moved (`behind`): the
offset by the length of the first text, the line by its line feeds, and the column by what stands on its
last line, if it is still that line.

## Contents
- **Places behind a text.** `Place.behind`, and **`Place.at_append`**.
- **The seam.** `SeamFree`, and `segmentsAt_append`.
- **What segments give.** `Token.behind`, `Diagnostic.behind`, and **`tokenize_append`**.
-/

namespace Stencil

/-! ## Places behind a text -/

/-- How far the end of a text stands from the start of its last line. -/
def lastLineLength (text : Text) : Int :=
  (text.length : Int) - lastLineStart text

/-- A place of a text, if another text is put before it. -/
def Place.behind (front : Text) (p : Place) : Place where
  offset := p.offset + front.length
  line := p.line + front.count '\n'
  column := if p.line = 1 then p.column + lastLineLength front else p.column

/-- The first line is the one without a line feed before. -/
theorem Place.line_at_eq_one_iff {text : Text} {offset : Nat} :
    (Place.at text offset).line = 1 ↔ '\n' ∉ text.take offset := by
  rw [← List.count_eq_zero]
  show (1 : Int) + ((text.take offset).count '\n' : Nat) = 1 ↔ _
  omega

/-- **The places behind a text** are those that are moved. -/
theorem Place.at_append (front text : Text) (offset : Nat) :
    Place.at (front ++ text) (front.length + offset) = (Place.at text offset).behind front := by
  have htake : (front ++ text).take (front.length + offset) = front ++ text.take offset :=
    List.take_length_add_append offset
  have hline : (Place.at (front ++ text) (front.length + offset)).line =
      (Place.at text offset).line + front.count '\n' := by
    simp only [Place.at, htake, List.count_append]
    omega
  have hcolumn : (Place.at (front ++ text) (front.length + offset)).column =
      if (Place.at text offset).line = 1 then
        (Place.at text offset).column + lastLineLength front
      else (Place.at text offset).column := by
    simp only [Place.line_at_eq_one_iff]
    simp only [Place.at, htake, lastLineStart_append, lastLineLength]
    by_cases hfeed : '\n' ∈ text.take offset
    · rw [if_pos hfeed, if_neg (not_not_intro hfeed)]
      omega
    · have hstart : lastLineStart (text.take offset) = 0 := by
        rw [lastLineStart, Text.lastIndexOf?_eq_none_iff.2 hfeed]
      rw [if_neg hfeed, if_pos hfeed, hstart]
      omega
  have hoffset : (Place.at (front ++ text) (front.length + offset)).offset =
      (Place.at text offset).offset + front.length := by
    simp only [Place.at]
    omega
  rw [Place.behind, ← hline, ← hcolumn, ← hoffset]

/-- What follows a text does not change its places. -/
theorem Place.at_append_of_le {front : Text} {offset : Nat} (h : offset ≤ front.length)
    (back : Text) : Place.at (front ++ back) offset = Place.at front offset := by
  simp only [Place.at, List.take_append_of_le_length h]

/-! ## The seam -/

/-- **No marker of two texts in a row lies across the seam**: each ends in the first text or begins in
the second one. -/
def SeamFree (front back : Text) : Prop :=
  ∀ b m a, front ++ back = b ++ (m ++ a) → IsMarker m →
    b.length + m.length ≤ front.length ∨ front.length ≤ b.length

/-- The same, said of the spans that are found. -/
theorem seamFree_iff {front back : Text} :
    SeamFree front back ↔
      ∀ span ∈ markerSpans (front ++ back),
        span.stop ≤ front.length ∨ front.length ≤ span.start := by
  simp only [markerSpans, isScan_markerSpansFrom.mem_iff, Nat.zero_add]
  constructor
  · rintro h span ⟨b, m, a, hwhole, hm, rfl⟩
    exact h b m a hwhole hm
  · intro h b m a hwhole hm
    exact h _ ⟨b, m, a, hwhole, hm, rfl⟩

section Seam

variable {front back : Text}

/-- A marker of two texts lies in the first or in the second one. -/
theorem SeamFree.side (h : SeamFree front back) {b m a : Text}
    (hwhole : front ++ back = b ++ (m ++ a)) (hm : IsMarker m) :
    (∃ y, front = b ++ m ++ y) ∨ ∃ y, back = y ++ (m ++ a) := by
  rcases h b m a hwhole hm with hside | hside
  · refine .inl ?_
    have hprefix : b ++ m <+: front ++ back := ⟨a, by rw [hwhole, List.append_assoc]⟩
    obtain ⟨y, hy⟩ := List.prefix_of_prefix_length_le hprefix (List.prefix_append front back)
      (by rw [List.length_append]; exact hside)
    exact ⟨y, hy.symm⟩
  · refine .inr ?_
    have hprefix : b <+: front ++ back := ⟨m ++ a, hwhole.symm⟩
    obtain ⟨y, rfl⟩ := List.prefix_of_prefix_length_le (List.prefix_append front back) hprefix hside
    rw [List.append_assoc] at hwhole
    exact ⟨y, List.append_cancel_left hwhole⟩

/-- Two texts without markers have none where they meet. -/
theorem SeamFree.markerFree (h : SeamFree front back) (hfront : MarkerFree front)
    (hback : MarkerFree back) : MarkerFree (front ++ back) := by
  rintro m ⟨b, a, hwhole⟩ hm
  rcases h.side (by rw [← hwhole, List.append_assoc]) hm with ⟨y, hy⟩ | ⟨y, hy⟩
  · exact hfront m ⟨b, y, hy.symm⟩ hm
  · exact hback m ⟨y, a, by rw [hy, List.append_assoc]⟩ hm

/-- The seam is the same if something is put before the first text. -/
theorem SeamFree.of_append {x : Text} (h : SeamFree (x ++ front) back) : SeamFree front back := by
  intro b m a hwhole hm
  have hside := h (x ++ b) m a (by rw [List.append_assoc, hwhole, List.append_assoc]) hm
  rw [List.length_append, List.length_append] at hside
  omega

/-- The seam is the same if something follows the second text. -/
theorem SeamFree.of_prefix {x : Text} (h : SeamFree front (back ++ x)) : SeamFree front back := by
  intro b m a hwhole hm
  exact h b m (a ++ x) (by rw [← List.append_assoc, hwhole, List.append_assoc, List.append_assoc]) hm

/-- **The segments of two texts in a row** are those of the two, save for literal text on both sides of
the seam, which is one segment. -/
theorem segmentsAt_append (h : SeamFree front back) (offset : Nat) :
    ∃ before start s t after,
      segmentsAt offset front = before ++ literalSegments start s ∧
        segmentsAt (offset + front.length) back = literalSegments (start + s.length) t ++ after ∧
        segmentsAt offset (front ++ back) = before ++ (literalSegments start (s ++ t) ++ after) := by
  induction front using marker_induction generalizing offset with
  | free front hfront =>
    refine ⟨[], offset, front, ?_⟩
    rw [segmentsAt_of_free offset hfront]
    induction back using marker_induction with
    | free back hback =>
      refine ⟨back, [], rfl, ?_, ?_⟩
      · rw [segmentsAt_of_free _ hback, List.append_nil]
      · rw [segmentsAt_of_free _ (h.markerFree hfront hback), List.append_nil, List.nil_append]
    | first b m a hb hm _ =>
      refine ⟨b, _, rfl, segmentsAt_of_first _ hb hm a, ?_⟩
      rw [← List.append_assoc, segmentsAt_of_first offset (h.of_prefix.markerFree hfront hb) hm a,
        List.length_append, ← Nat.add_assoc, List.nil_append]
  | first b m a hb hm ih =>
    have hrest : SeamFree a back := by
      rw [← List.append_assoc] at h
      exact h.of_append
    obtain ⟨before, start, s, t, after, hfront, hback, hwhole⟩ :=
      ih hrest (offset + b.length + m.length)
    refine ⟨literalSegments offset b ++ .marker (offset + b.length) m :: before, start, s, t, after,
      ?_, ?_, ?_⟩
    · rw [segmentsAt_of_first offset hb hm a, hfront, List.append_assoc, List.cons_append]
    · rw [← hback, List.length_append, List.length_append, ← Nat.add_assoc, ← Nat.add_assoc]
    · rw [List.append_assoc, List.append_assoc, segmentsAt_of_first offset hb hm (a ++ back), hwhole,
        List.append_assoc, List.cons_append]

end Seam

/-- A segment that stands so much further on. -/
def Segment.behind (count : Nat) : Segment → Segment
  | .literal start text => .literal (count + start) text
  | .marker start text => .marker (count + start) text

theorem literalSegments_behind (count offset : Nat) (text : Text) :
    literalSegments (count + offset) text = (literalSegments offset text).map (Segment.behind count) := by
  rw [literalSegments, literalSegments]
  split <;> rfl

/-- A text that stands further on has its segments further on. -/
theorem segmentsAt_behind (count offset : Nat) (text : Text) :
    segmentsAt (count + offset) text = (segmentsAt offset text).map (Segment.behind count) := by
  induction text using marker_induction generalizing offset with
  | free text hfree =>
    rw [segmentsAt_of_free _ hfree, segmentsAt_of_free _ hfree, literalSegments_behind]
  | first b m a hb hm ih =>
    rw [segmentsAt_of_first _ hb hm, segmentsAt_of_first _ hb hm, literalSegments_behind, Nat.add_assoc,
      Nat.add_assoc, ih, List.map_append, List.map_cons]
    rfl

/-- No segment of a text starts behind the text. -/
theorem start_le_of_mem_segmentsAt {offset : Nat} {text : Text} {s : Segment}
    (h : s ∈ segmentsAt offset text) : s.start ≤ offset + text.length := by
  induction text using marker_induction generalizing offset with
  | free text hfree =>
    rw [segmentsAt_of_free offset hfree] at h
    rw [(start_of_mem_literalSegments h).1]
    exact Nat.le_add_right _ _
  | first b m a hb hm ih =>
    rw [segmentsAt_of_first offset hb hm, List.mem_append, List.mem_cons] at h
    rw [List.length_append, List.length_append]
    rcases h with h | rfl | h
    · rw [(start_of_mem_literalSegments h).1]
      exact Nat.le_add_right _ _
    · show offset + b.length ≤ _
      omega
    · have := ih h
      omega

/-! ## What segments give -/

/-- A token of a text, if another text is put before it. -/
def Token.behind (front : Text) (t : Token) : Token :=
  { t with place := t.place.behind front }

/-- A report on a text, if another text is put before it: its place is moved, if it has one. -/
def Diagnostic.behind (front : Text) (d : Diagnostic) : Diagnostic :=
  { d with
    position := d.position.map (· + (front.length : Int))
    line := d.line.map (· + (front.count '\n' : Int))
    column := if d.line = some 1 then d.column.map (· + lastLineLength front) else d.column }

theorem Diagnostic.behind_errorAt (front message : Text) (code : DiagnosticCode) (place : Place) :
    (Diagnostic.errorAt code message place).behind front =
      Diagnostic.errorAt code message (place.behind front) := by
  simp only [Diagnostic.behind, Diagnostic.errorAt, Place.behind, Option.some.injEq]
  split <;> rfl

section Given

variable {front : Text}

/-- A segment of the first text gives the same in the whole. -/
theorem Segment.read_of_le {segment : Segment} (h : segment.start ≤ front.length) (back : Text) :
    segment.token? (front ++ back) = segment.token? front ∧
      segment.report? (front ++ back) = segment.report? front := by
  rw [token?, report?, Place.at_append_of_le h]
  exact ⟨rfl, rfl⟩

/-- A segment of the second text gives the same in the whole, further on. -/
theorem Segment.read_behind (front back : Text) (segment : Segment) :
    (segment.behind front.length).token? (front ++ back) =
        (segment.token? back).map (Token.behind front) ∧
      (segment.behind front.length).report? (front ++ back) =
        (segment.report? back).map (Diagnostic.behind front) := by
  cases segment with
  | literal start text =>
    simp only [behind, token?_literal, report?_literal, Place.at_append]
    exact ⟨rfl, rfl⟩
  | marker start text =>
    simp only [behind, token?_marker, report?_marker, Place.at_append]
    cases classifyMarker text with
    | none => exact ⟨rfl, congrArg some (Diagnostic.behind_errorAt _ _ _ _).symm⟩
    | some form => exact ⟨rfl, rfl⟩

/-- Literal text as tokens: none if there is no text. -/
def textTokens (place : Place) (text : Text) : List Token :=
  if text = [] then [] else [⟨.text, text, place⟩]

theorem filterMap_literalSegments (whole text : Text) (start : Nat) :
    (literalSegments start text).filterMap (Segment.token? whole) =
        textTokens (Place.at whole start) text ∧
      (literalSegments start text).filterMap (Segment.report? whole) = [] := by
  rw [literalSegments, textTokens]
  split <;> exact ⟨rfl, rfl⟩

/-- What the first text gives, read off the whole. -/
theorem tokenize_front (front back : Text) :
    tokenize front =
      ((segmentsAt 0 front).filterMap (Segment.token? (front ++ back)),
        (segmentsAt 0 front).filterMap (Segment.report? (front ++ back))) := by
  have hread : ∀ s ∈ segmentsAt 0 front, s.token? (front ++ back) = s.token? front ∧
      s.report? (front ++ back) = s.report? front := by
    intro s hs
    have hstart := start_le_of_mem_segmentsAt hs
    rw [Nat.zero_add] at hstart
    exact Segment.read_of_le hstart back
  rw [tokenize_eq, List.filterMap_congr fun s hs => (hread s hs).1,
    List.filterMap_congr fun s hs => (hread s hs).2]
  rfl

/-- What the second text gives, read off the whole. -/
theorem tokenize_back (front back : Text) :
    (tokenize back).1.map (Token.behind front) =
        (segmentsAt front.length back).filterMap (Segment.token? (front ++ back)) ∧
      (tokenize back).2.map (Diagnostic.behind front) =
        (segmentsAt front.length back).filterMap (Segment.report? (front ++ back)) := by
  have hsegments : segmentsAt front.length back =
      (segments back).map (Segment.behind front.length) := segmentsAt_behind front.length 0 back
  rw [tokenize_eq, hsegments, List.filterMap_map, List.filterMap_map, List.map_filterMap,
    List.map_filterMap]
  exact ⟨List.filterMap_congr fun s _ => (Segment.read_behind front back s).1.symm,
    List.filterMap_congr fun s _ => (Segment.read_behind front back s).2.symm⟩

/-- **The tokens of two texts in a row** are those of the two, the second ones further on, save for
literal text on both sides of the seam, which is one token.  The reports are those of the two. -/
theorem tokenize_append {back : Text} (h : SeamFree front back) :
    (∃ before p s q t after,
      (tokenize front).1 = before ++ textTokens p s ∧
        (tokenize back).1.map (Token.behind front) = textTokens q t ++ after ∧
        (tokenize (front ++ back)).1 = before ++ (textTokens p (s ++ t) ++ after)) ∧
      (tokenize (front ++ back)).2 =
        (tokenize front).2 ++ (tokenize back).2.map (Diagnostic.behind front) := by
  obtain ⟨before, start, s, t, after, hfront, hback, hwhole⟩ := segmentsAt_append h 0
  rw [Nat.zero_add] at hback
  have htext (start : Nat) (text : Text) := filterMap_literalSegments (front ++ back) text start
  have hsegments : segments (front ++ back) = segmentsAt 0 (front ++ back) := rfl
  obtain ⟨hbackTokens, hbackReports⟩ := tokenize_back front back
  rw [hbackTokens, hbackReports, tokenize_front front back, tokenize_eq, hsegments, hwhole, hfront,
    hback]
  simp only [List.filterMap_append, htext, List.append_nil, List.nil_append]
  exact ⟨⟨_, _, s, _, t, _, rfl, rfl, rfl⟩, trivial⟩

end Given

end Stencil
