import Stencil.Lexer
import Stencil.Proofs.Marker.Scan
import Stencil.Proofs.Place

/-!
# `Stencil.Proofs.Lexer.Tokens` — the tokens of a text, segment by segment

A lexer walks a text once and remembers how far it has come.  What it gives does not depend on that:
each segment gives its token, or its report, at the place where it starts (`tokenize_eq`).  The segments
themselves follow the first markers of the text (`segmentsAt_of_free`, `segmentsAt_of_first`), so what
holds of them is proved by `marker_induction`.

## Contents
- **One segment.** `Segment.token?` and `Segment.report?`.
- **All segments.** `readSegments_eq` and `tokenize_eq`.
- **The segments of a text.** `segmentsAt`, its two equations, and the order of its segments.
- **Dropped markers.** `droppedSpans`; `reports_eq_dropped` says that these are what is reported.
-/

namespace Stencil

/-! ## One segment -/

namespace Segment

/-- The token that a segment of a text gives. -/
def token? (text : Text) (segment : Segment) : Option Token :=
  (segment.read (Place.at text segment.start)).getLeft?

/-- The report that a segment of a text gives. -/
def report? (text : Text) (segment : Segment) : Option Diagnostic :=
  (segment.read (Place.at text segment.start)).getRight?

@[simp] theorem token?_literal (text t : Text) (start : Nat) :
    token? text (.literal start t) = some ⟨.text, t, Place.at text start⟩ := rfl

@[simp] theorem report?_literal (text t : Text) (start : Nat) :
    report? text (.literal start t) = none := rfl

theorem token?_marker (text m : Text) (start : Nat) :
    token? text (.marker start m) =
      (classifyMarker m).map fun (kind, value) => ⟨kind, value, Place.at text start⟩ := by
  rw [token?, read]
  cases classifyMarker m <;> rfl

theorem report?_marker (text m : Text) (start : Nat) :
    report? text (.marker start m) =
      if (classifyMarker m).isNone then some (Diagnostic.unknownMarker m (Place.at text start))
      else none := by
  rw [report?, read]
  cases classifyMarker m <;> rfl

/-- A token stands at the place of its segment. -/
theorem place_of_token? {text : Text} {segment : Segment} {t : Token}
    (h : segment.token? text = some t) : t.place = Place.at text segment.start := by
  cases segment with
  | literal start s =>
    rw [token?_literal, Option.some.injEq] at h
    rw [← h]
    rfl
  | marker start s =>
    rw [token?_marker, Option.map_eq_some_iff] at h
    obtain ⟨_, _, rfl⟩ := h
    rfl

/-- A token stands where its segment starts. -/
theorem offset_of_token? {text : Text} {segment : Segment} {t : Token}
    (h : segment.token? text = some t) : t.place.offset = segment.start := by
  rw [place_of_token? h]
  rfl

end Segment

/-! ## All segments -/

/-- **A lexer that has counted its lines rightly gives each segment its token or its report**, at the place
where the segment starts, and has counted them rightly still. -/
theorem readSegments_eq {lexer : Lexer} (h : lexer.counted.Counts lexer.text)
    (segs : List Segment) :
    (lexer.readSegments segs).1 = segs.filterMap (Segment.token? lexer.text) ∧
      (lexer.readSegments segs).2.text = lexer.text ∧
      (lexer.readSegments segs).2.diagnostics =
        lexer.diagnostics ++ segs.filterMap (Segment.report? lexer.text) ∧
      (lexer.readSegments segs).2.counted.Counts lexer.text := by
  induction segs generalizing lexer with
  | nil => exact ⟨rfl, rfl, (List.append_nil _).symm, h⟩
  | cons segment more ih =>
    rw [Lexer.readSegments]
    simp only [Lexer.locate, h.place_goTo segment.start]
    cases hread : segment.read (Place.at lexer.text segment.start) with
    | inl token =>
      have htoken : segment.token? lexer.text = some token := by rw [Segment.token?, hread]; rfl
      have hreport : segment.report? lexer.text = none := by rw [Segment.report?, hread]; rfl
      obtain ⟨htokens, htext, hreports, hcounts⟩ :=
        @ih { lexer with counted := lexer.counted.goTo lexer.text segment.start } (h.goTo _)
      rw [List.filterMap_cons_some htoken, List.filterMap_cons_none hreport]
      exact ⟨congrArg _ htokens, htext, hreports, hcounts⟩
    | inr report =>
      have htoken : segment.token? lexer.text = none := by rw [Segment.token?, hread]; rfl
      have hreport : segment.report? lexer.text = some report := by rw [Segment.report?, hread]; rfl
      obtain ⟨htokens, htext, hreports, hcounts⟩ :=
        @ih { lexer with
          counted := lexer.counted.goTo lexer.text segment.start
          diagnostics := lexer.diagnostics ++ [report] } (h.goTo _)
      rw [List.filterMap_cons_none htoken, List.filterMap_cons_some hreport]
      exact ⟨htokens, htext, hreports.trans (List.append_assoc _ _ _), hcounts⟩

/-- **The tokens and the reports of a text**: those of its segments, in order. -/
theorem tokenize_eq (text : Text) :
    tokenize text =
      ((segments text).filterMap (Segment.token? text),
        (segments text).filterMap (Segment.report? text)) := by
  obtain ⟨htokens, _, hreports, _⟩ :=
    @readSegments_eq (Lexer.ofText text) (LineCount.counts_start text) (segments text)
  exact Prod.ext htokens hreports

/-! ## The segments of a text -/

/-- The segments of a text that stands at an offset. -/
def segmentsAt (offset : Nat) (text : Text) : List Segment :=
  segmentsFrom offset text (markerSpansFrom offset text)

/-- Literal text as segments: none if there is no text. -/
def literalSegments (offset : Nat) (text : Text) : List Segment :=
  if text = [] then [] else [.literal offset text]

/-- A text without markers is literal. -/
theorem segmentsAt_of_free (offset : Nat) {text : Text} (h : MarkerFree text) :
    segmentsAt offset text = literalSegments offset text := by
  rw [segmentsAt, (isScan_markerSpansFrom offset text).eq_nil h]
  rfl

/-- Before the first marker a text is literal, and behind it is what the rest is. -/
theorem segmentsAt_of_first (offset : Nat) {b m : Text} (hb : MarkerFree b) (hm : IsMarker m)
    (a : Text) :
    segmentsAt offset (b ++ (m ++ a)) =
      literalSegments offset b ++
        .marker (offset + b.length) m :: segmentsAt (offset + b.length + m.length) a := by
  rw [segmentsAt, (isScan_markerSpansFrom offset _).eq_cons rfl hb hm, segmentsFrom]
  have hbefore : (b ++ (m ++ a)).take (offset + b.length - offset) = b := by
    rw [Nat.add_sub_cancel_left, List.take_left]
  have hmarker : ((b ++ (m ++ a)).drop (offset + b.length - offset)).take
      (offset + b.length + m.length - (offset + b.length)) = m := by
    rw [Nat.add_sub_cancel_left, Nat.add_sub_cancel_left, List.drop_left, List.take_left]
  have hafter : (b ++ (m ++ a)).drop (offset + b.length + m.length - offset) = a := by
    rw [Nat.add_assoc, Nat.add_sub_cancel_left, List.drop_length_add_append, List.drop_left]
  simp only [hbefore, hmarker, hafter]
  by_cases hnil : b = []
  · rw [if_pos hnil, literalSegments, if_pos hnil]
    rfl
  · rw [if_neg hnil, literalSegments, if_neg hnil]
    rfl

theorem start_of_mem_literalSegments {offset : Nat} {text : Text} {s : Segment}
    (h : s ∈ literalSegments offset text) : s.start = offset ∧ text ≠ [] := by
  rw [literalSegments] at h
  split at h
  · exact absurd h List.not_mem_nil
  · next hnil => rw [List.mem_singleton.1 h]; exact ⟨rfl, hnil⟩

/-- No segment of a text starts before the text. -/
theorem le_start_of_mem_segmentsAt {offset : Nat} {text : Text} {s : Segment}
    (h : s ∈ segmentsAt offset text) : offset ≤ s.start := by
  induction text using marker_induction generalizing offset with
  | free text hfree =>
    rw [segmentsAt_of_free offset hfree] at h
    exact Nat.le_of_eq (start_of_mem_literalSegments h).1.symm
  | first b m a hb hm ih =>
    rw [segmentsAt_of_first offset hb hm, List.mem_append, List.mem_cons] at h
    rcases h with h | rfl | h
    · exact Nat.le_of_eq (start_of_mem_literalSegments h).1.symm
    · exact Nat.le_add_right _ _
    · have := ih h
      omega

/-- **Segments come in the order of their places.** -/
theorem segmentsAt_pairwise (offset : Nat) (text : Text) :
    (segmentsAt offset text).Pairwise fun s t => s.start < t.start := by
  induction text using marker_induction generalizing offset with
  | free text hfree =>
    rw [segmentsAt_of_free offset hfree, literalSegments]
    split
    · exact .nil
    · exact List.pairwise_singleton _ _
  | first b m a hb hm ih =>
    have hpos := List.length_pos_iff.2 hm.ne_nil
    rw [segmentsAt_of_first offset hb hm, List.pairwise_append, List.pairwise_cons]
    refine ⟨?_, ⟨?_, ih _⟩, ?_⟩
    · rw [literalSegments]
      split
      · exact .nil
      · exact List.pairwise_singleton _ _
    · intro t ht
      have hle := le_start_of_mem_segmentsAt ht
      show offset + b.length < t.start
      omega
    · intro s hs t ht
      obtain ⟨hstart, hnil⟩ := start_of_mem_literalSegments hs
      have hlength := List.length_pos_iff.2 hnil
      rcases List.mem_cons.1 ht with rfl | ht
      · show s.start < offset + b.length
        omega
      · have hle := le_start_of_mem_segmentsAt ht
        omega

/-- The tokens of a text come in the order of their places. -/
theorem tokens_pairwise (text : Text) :
    (tokenize text).1.Pairwise fun s t => s.place.offset < t.place.offset := by
  rw [tokenize_eq]
  refine List.Pairwise.filterMap _ ?_ (segmentsAt_pairwise 0 text)
  intro s t hst a ha b hb
  rw [Segment.offset_of_token? ha, Segment.offset_of_token? hb]
  exact Int.ofNat_lt.2 hst

/-! ## Dropped markers -/

/-- The markers of a text that are of no known form. -/
def droppedSpans (text : Text) : List Span :=
  (markerSpans text).filter fun span => (classifyMarker (span.slice text)).isNone

/-- What is reported on a text whose segments start behind `front`. -/
theorem reports_segmentsAt (front text : Text) :
    (segmentsAt front.length text).filterMap (Segment.report? (front ++ text)) =
      ((markerSpansFrom front.length text).filter fun span =>
        (classifyMarker (span.slice (front ++ text))).isNone).map fun span =>
          Diagnostic.unknownMarker (span.slice (front ++ text))
            (Place.at (front ++ text) span.start) := by
  induction text using marker_induction generalizing front with
  | free text hfree =>
    rw [segmentsAt_of_free _ hfree, (isScan_markerSpansFrom _ text).eq_nil hfree, literalSegments]
    split <;> rfl
  | first b m a hb hm ih =>
    have hfront : front.length + b.length + m.length = (front ++ b ++ m).length := by
      simp only [List.length_append]
    have hwhole : front ++ (b ++ (m ++ a)) = front ++ b ++ m ++ a := by simp
    have hslice : Span.slice ⟨front.length + b.length, (front ++ b ++ m).length⟩
        (front ++ b ++ m ++ a) = m := by
      rw [← hfront, ← List.length_append, List.append_assoc, Span.slice_append]
    rw [segmentsAt_of_first _ hb hm, (isScan_markerSpansFrom _ _).eq_cons rfl hb hm,
      List.filterMap_append, List.filterMap_cons, Segment.report?_marker, List.filter_cons, hwhole,
      hfront, hslice, ih (front ++ b ++ m)]
    have hliteral : (literalSegments front.length b).filterMap
        (Segment.report? (front ++ b ++ m ++ a)) = [] := by
      rw [literalSegments]
      split <;> rfl
    rw [hliteral, List.nil_append]
    by_cases hdropped : (classifyMarker m).isNone = true
    · rw [if_pos hdropped, if_pos hdropped, List.map_cons, hslice]
    · rw [if_neg hdropped, if_neg hdropped]

/-- **What a lexer reports are the dropped markers**, each at its place, in their order. -/
theorem reports_eq_dropped (text : Text) :
    (tokenize text).2 =
      (droppedSpans text).map fun span =>
        Diagnostic.unknownMarker (span.slice text) (Place.at text span.start) := by
  rw [tokenize_eq]
  exact reports_segmentsAt [] text

/-- All that a lexer reports is about markers of no known form. -/
theorem code_of_mem_tokenize {text : Text} {d : Diagnostic} (h : d ∈ (tokenize text).2) :
    d.code = .unknownMarker := by
  rw [reports_eq_dropped, List.mem_map] at h
  obtain ⟨_, _, rfl⟩ := h
  rfl

end Stencil
