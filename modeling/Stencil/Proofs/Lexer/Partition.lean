import Mathlib.Data.List.Forall2
import Stencil.Proofs.Lexer.Symbols

/-!
# `Stencil.Proofs.Lexer.Partition` — a text is cut without loss

A lexer gives tokens, and reports on the markers that give none.  Put in one row by where they stand
(`findings`), they cut the text into stretches without a gap and without an overlap (`Tiles`), and each
of them stands for what is written in its stretch (`Covers`): literal text for itself, a token of another
kind or a report for a marker.

The row is sorted, so nothing is known of it but its order.  That it is the row of the segments follows
from their places being all different (`findings_eq`); what remains are facts about segments, which go by
`marker_induction`.

## Contents
- **Findings.** `Finding`, `findings` and **`findings_eq`**.
- **Tilings.** `Tiles`, and that the slices of a tiling make up the text.
- **Segments as slices.** `Segment.span`, `tiles_segmentsAt`, `markers_segmentsAt`, and that no literal
  follows another.
- **What stands at a marker.** `madeAt`, and **`madeAt_eq`**: one token, or one report.
- **The partition.** `Covers`, what a finding stands for, and what lies between neighbouring tokens of
  text.
- **`tokenize_partition`**.
-/

namespace Stencil

/-! ## Findings -/

/-- What is found in a text: a token, or the report on a marker that gives none. -/
abbrev Finding := Token ⊕ Diagnostic

/-- Where a finding stands. -/
def Finding.offset : Finding → Int
  | .inl token => token.place.offset
  | .inr report => report.position.getD 0

/-- **All that is found in a text**, tokens and reports together, ordered by where they stand. -/
def findings (text : Text) : List Finding :=
  ((tokenize text).1.map Sum.inl ++ (tokenize text).2.map Sum.inr).mergeSort
    fun a b => decide (Finding.offset a ≤ Finding.offset b)

/-- The two parts of a list are together all of it. -/
theorem perm_of_parts {α β : Type} (found : List (α ⊕ β)) :
    ((found.filterMap Sum.getLeft?).map Sum.inl ++ (found.filterMap Sum.getRight?).map Sum.inr).Perm
      found := by
  induction found with
  | nil => exact List.Perm.refl []
  | cons f rest ih =>
    cases f with
    | inl a =>
      simp only [List.filterMap_cons, Sum.getLeft?, Sum.getRight?, List.map_cons, List.cons_append]
      exact ih.cons _
    | inr b =>
      simp only [List.filterMap_cons, Sum.getLeft?, Sum.getRight?, List.map_cons]
      exact List.perm_middle.trans (ih.cons _)

/-- What a segment of a text gives. -/
def Segment.finding (text : Text) (s : Segment) : Finding :=
  s.read (Place.at text s.start)

/-- What a segment gives stands where the segment starts. -/
theorem Segment.offset_finding (text : Text) (s : Segment) :
    (s.finding text).offset = s.start := by
  cases s with
  | literal start t => rfl
  | marker start m =>
    show Finding.offset (Segment.read (.marker start m) (Place.at text start)) = start
    rw [Segment.read]
    cases classifyMarker m <;> rfl

/-- The tokens and the reports of a text are the two parts of what its segments give. -/
theorem tokenize_eq_parts (text : Text) :
    (tokenize text).1 = ((segments text).map (Segment.finding text)).filterMap Sum.getLeft? ∧
      (tokenize text).2 = ((segments text).map (Segment.finding text)).filterMap Sum.getRight? := by
  rw [tokenize_eq, List.filterMap_map, List.filterMap_map]
  exact ⟨rfl, rfl⟩

/-- Only one segment of a text starts where a segment starts. -/
theorem filter_start_eq {text : Text} {s : Segment} (hs : s ∈ segments text) :
    (segments text).filter (fun t => t.start = s.start) = [s] := by
  have hordered := segmentsAt_pairwise 0 text
  change (segments text).Pairwise _ at hordered
  obtain ⟨before, after, hsplit⟩ := List.append_of_mem hs
  rw [hsplit, List.pairwise_append, List.pairwise_cons] at hordered
  have hbefore : before.filter (fun t => t.start = s.start) = [] := by
    refine List.filter_eq_nil_iff.2 ?_
    intro t ht hstart
    have hlt := hordered.2.2 t ht s List.mem_cons_self
    simp only [decide_eq_true_eq] at hstart
    omega
  have hafter : after.filter (fun t => t.start = s.start) = [] := by
    refine List.filter_eq_nil_iff.2 ?_
    intro t ht hstart
    have hlt := hordered.2.1.1 t ht
    simp only [decide_eq_true_eq] at hstart
    omega
  rw [hsplit, List.filter_append, List.filter_cons, hbefore, hafter]
  simp

/-- **What is found in a text is what its segments give**, in their order. -/
theorem findings_eq (text : Text) : findings text = (segments text).map (Segment.finding text) := by
  obtain ⟨htokens, hreports⟩ := tokenize_eq_parts text
  have hperm : (findings text).Perm ((segments text).map (Segment.finding text)) := by
    unfold findings
    rw [htokens, hreports]
    exact (List.mergeSort_perm _ _).trans (perm_of_parts _)
  have hsorted : (findings text).Pairwise fun a b => Finding.offset a ≤ Finding.offset b := by
    refine (List.pairwise_mergeSort ?_ ?_ _).imp fun h => of_decide_eq_true h
    · intro a b c hab hbc
      exact decide_eq_true (Int.le_trans (of_decide_eq_true hab) (of_decide_eq_true hbc))
    · intro a b
      simpa using Int.le_total (Finding.offset a) (Finding.offset b)
  have hplaces : ((segments text).map (Segment.finding text)).Pairwise
      fun a b => Finding.offset a ≤ Finding.offset b := by
    refine List.pairwise_map.2 ((segmentsAt_pairwise 0 text).imp ?_)
    intro s t hst
    rw [Segment.offset_finding, Segment.offset_finding]
    exact Int.ofNat_le.2 (Nat.le_of_lt hst)
  -- two findings at one place are one, so there is only one order by places
  refine List.Perm.eq_of_pairwise ?_ hsorted hplaces hperm
  intro a b ha hb hab hba
  obtain ⟨s, hs, rfl⟩ := List.mem_map.1 (hperm.mem_iff.1 ha)
  obtain ⟨t, ht, rfl⟩ := List.mem_map.1 hb
  have hstart : t.start = s.start := by
    rw [Segment.offset_finding, Segment.offset_finding] at hab hba
    omega
  have hmem : t ∈ (segments text).filter fun t => t.start = s.start :=
    List.mem_filter.2 ⟨ht, decide_eq_true hstart⟩
  rw [filter_start_eq hs, List.mem_singleton] at hmem
  rw [hmem]

/-! ## Tilings -/

/-- **Spans tile a stretch**: the first begins where the stretch begins, each further one where the one
before it ends, and the last ends where the stretch ends; none of them is empty. -/
inductive Tiles : Nat → Nat → List Span → Prop where
  | nil {stop : Nat} : Tiles stop stop []
  | cons {start middle stop : Nat} {spans : List Span} (hlt : start < middle)
      (hrest : Tiles middle stop spans) : Tiles start stop (⟨start, middle⟩ :: spans)

section Tilings

variable {start middle stop : Nat} {spans others : List Span}

theorem Tiles.le (h : Tiles start stop spans) : start ≤ stop := by
  induction h with
  | nil => exact Nat.le_refl _
  | cons hlt _ ih => omega

theorem Tiles.append (h : Tiles start middle spans) (hothers : Tiles middle stop others) :
    Tiles start stop (spans ++ others) := by
  induction h with
  | nil => exact hothers
  | cons hlt _ ih => exact .cons hlt (ih hothers)

/-- The spans of a tiling come in order and apart. -/
theorem Tiles.pairwise (h : Tiles start stop spans) :
    (∀ span ∈ spans, start ≤ span.start) ∧ spans.Pairwise fun s t => s.stop ≤ t.start := by
  induction h with
  | nil => exact ⟨fun span hspan => absurd hspan List.not_mem_nil, .nil⟩
  | cons hlt _ ih =>
    refine ⟨?_, .cons ih.1 ih.2⟩
    intro span hspan
    rcases List.mem_cons.1 hspan with rfl | hspan
    · exact Nat.le_refl _
    · have hle := ih.1 span hspan
      omega

/-- **The slices of a tiling make up the stretch**: nothing is lost, doubled or moved. -/
theorem Tiles.flatten_slices (h : Tiles start stop spans) (text : Text) :
    (spans.map fun span => span.slice text).flatten = Span.slice ⟨start, stop⟩ text := by
  induction h with
  | nil => simp [Span.slice]
  | @cons start middle stop spans hlt hrest ih =>
    have hle := hrest.le
    have hwhole : (text.take middle) = (text.take stop).take middle := by
      rw [List.take_take, Nat.min_eq_left hle]
    have hbehind : (text.take stop).drop middle =
        ((text.take stop).drop start).drop (middle - start) := by
      rw [List.drop_drop, Nat.add_sub_cancel' (Nat.le_of_lt hlt)]
    rw [List.map_cons, List.flatten_cons, ih]
    show (text.take middle).drop start ++ (text.take stop).drop middle = (text.take stop).drop start
    rw [hwhole, List.drop_take, hbehind, List.take_append_drop]

end Tilings

/-! ## Segments as slices -/

namespace Segment

/-- The stretch that a segment covers. -/
def span (s : Segment) : Span :=
  ⟨s.start, s.start + s.text.length⟩

/-- Whether a segment is a marker. -/
def isMarker : Segment → Bool
  | .literal _ _ => false
  | .marker _ _ => true

/-- A literal segment is some text without a marker in it; the other segments are markers. -/
def IsSound : Segment → Prop
  | .literal _ t => t ≠ [] ∧ MarkerFree t
  | .marker _ m => IsMarker m

end Segment

theorem tiles_literalSegments (offset : Nat) (text : Text) :
    Tiles offset (offset + text.length) ((literalSegments offset text).map Segment.span) := by
  unfold literalSegments
  by_cases hnil : text = []
  · rw [if_pos hnil, hnil]
    exact .nil
  · rw [if_neg hnil]
    have hlength := List.length_pos_iff.2 hnil
    exact .cons (Nat.lt_add_of_pos_right hlength) .nil

/-- **The segments of a text tile it.** -/
theorem tiles_segmentsAt (offset : Nat) (text : Text) :
    Tiles offset (offset + text.length) ((segmentsAt offset text).map Segment.span) := by
  induction text using marker_induction generalizing offset with
  | free text hfree =>
    rw [segmentsAt_of_free offset hfree]
    exact tiles_literalSegments offset text
  | first b m a hb hm ih =>
    have hlength := List.length_pos_iff.2 hm.ne_nil
    have hrest := ih (offset + b.length + m.length)
    have hend : offset + (b ++ (m ++ a)).length = offset + b.length + m.length + a.length := by
      simp only [List.length_append]
      omega
    rw [segmentsAt_of_first offset hb hm, List.map_append, List.map_cons, hend]
    exact (tiles_literalSegments offset b).append
      (.cons (Nat.lt_add_of_pos_right hlength) hrest)

/-- The markers among the segments stand where the scan has found them. -/
theorem markers_segmentsAt (offset : Nat) (text : Text) :
    ((segmentsAt offset text).filter Segment.isMarker).map Segment.span =
      markerSpansFrom offset text := by
  have hliteral (offset : Nat) (t : Text) :
      (literalSegments offset t).filter Segment.isMarker = [] := by
    unfold literalSegments
    split <;> rfl
  induction text using marker_induction generalizing offset with
  | free text hfree =>
    rw [segmentsAt_of_free offset hfree, hliteral, (isScan_markerSpansFrom offset text).eq_nil hfree]
    rfl
  | first b m a hb hm ih =>
    rw [segmentsAt_of_first offset hb hm, (isScan_markerSpansFrom offset _).eq_cons rfl hb hm,
      List.filter_append, hliteral, List.nil_append, List.filter_cons_of_pos rfl, List.map_cons, ih]
    rfl

/-- A segment is a piece of the text, and it stands where that piece stands. -/
theorem exists_of_mem_segmentsAt {offset : Nat} {text : Text} {s : Segment}
    (h : s ∈ segmentsAt offset text) :
    s.IsSound ∧ ∃ b a, text = b ++ (s.text ++ a) ∧ s.start = offset + b.length := by
  have hliteral {offset : Nat} {t : Text} (ht : MarkerFree t) (h : s ∈ literalSegments offset t) :
      s.IsSound ∧ s.text = t ∧ s.start = offset := by
    unfold literalSegments at h
    split at h
    · exact absurd h List.not_mem_nil
    · next hnil =>
      rw [List.mem_singleton.1 h]
      exact ⟨⟨hnil, ht⟩, rfl, rfl⟩
  induction text using marker_induction generalizing offset with
  | free text hfree =>
    rw [segmentsAt_of_free offset hfree] at h
    obtain ⟨hsound, htext, hstart⟩ := hliteral hfree h
    refine ⟨hsound, [], [], ?_, hstart⟩
    rw [htext, List.append_nil, List.nil_append]
  | first b m a hb hm ih =>
    rw [segmentsAt_of_first offset hb hm, List.mem_append, List.mem_cons] at h
    rcases h with h | rfl | h
    · obtain ⟨hsound, htext, hstart⟩ := hliteral hb h
      refine ⟨hsound, [], m ++ a, ?_, hstart⟩
      rw [htext, List.nil_append]
    · exact ⟨hm, b, a, rfl, rfl⟩
    · obtain ⟨hsound, b', a', ha, hstart⟩ := ih h
      refine ⟨hsound, b ++ m ++ b', a', ?_, ?_⟩
      · rw [ha]
        simp only [List.append_assoc]
      · rw [hstart]
        simp only [List.length_append]
        omega

/-- A segment of a text covers the text that stands in it. -/
theorem slice_span_of_mem {text : Text} {s : Segment} (h : s ∈ segments text) :
    s.span.slice text = s.text ∧ s.span.stop ≤ text.length := by
  obtain ⟨_, b, a, htext, hstart⟩ := exists_of_mem_segmentsAt h
  rw [Nat.zero_add] at hstart
  unfold Segment.span
  rw [hstart, htext, Span.slice_append]
  refine ⟨rfl, ?_⟩
  simp only [List.length_append]
  omega

/-- **No literal segment follows another.** -/
theorem isMarker_of_pair_infix {offset : Nat} {text : Text} {s t : Segment}
    (h : [s, t] <:+: segmentsAt offset text) : s.isMarker = true ∨ t.isMarker = true := by
  induction text using marker_induction generalizing offset with
  | free text hfree =>
    -- there is one segment at most
    rw [segmentsAt_of_free offset hfree] at h
    have hlength := h.length_le
    unfold literalSegments at hlength
    split at hlength <;> simp at hlength
  | first b m a hb hm ih =>
    have hmarker {more : List Segment} (hmore : more = segmentsAt (offset + b.length + m.length) a)
        (h : [s, t] <:+: .marker (offset + b.length) m :: more) :
        s.isMarker = true ∨ t.isMarker = true := by
      rcases List.infix_cons_iff.1 h with hprefix | hinside
      · rw [(List.cons_prefix_cons.1 hprefix).1]
        exact .inl rfl
      · rw [hmore] at hinside
        exact ih hinside
    rw [segmentsAt_of_first offset hb hm] at h
    unfold literalSegments at h
    split at h
    · exact hmarker rfl h
    · rcases List.infix_cons_iff.1 h with hprefix | hinside
      · obtain ⟨_, hnext⟩ := List.cons_prefix_cons.1 hprefix
        rw [(List.cons_prefix_cons.1 hnext).1]
        exact .inr rfl
      · exact hmarker rfl hinside

/-! ## What stands at a marker -/

/-- A marker that the scan has found is a segment. -/
theorem marker_mem_segments {text : Text} {span : Span} (h : span ∈ markerSpans text) :
    .marker span.start (span.slice text) ∈ segments text := by
  unfold markerSpans at h
  rw [← markers_segmentsAt, List.mem_map] at h
  obtain ⟨s, hs, rfl⟩ := h
  obtain ⟨hmem, hmarker⟩ := List.mem_filter.1 hs
  rw [(slice_span_of_mem hmem).1]
  cases s with
  | literal start t => exact absurd hmarker Bool.false_ne_true
  | marker start m => exact hmem

/-- The report that a segment gives stands where the segment starts. -/
theorem Segment.position_of_report? {text : Text} {s : Segment} {d : Diagnostic}
    (h : s.report? text = some d) : d.position = some (s.start : Int) := by
  cases s with
  | literal start t =>
    rw [report?_literal] at h
    exact absurd h (by simp)
  | marker start m =>
    rw [report?_marker] at h
    split at h
    · rw [← Option.some.inj h]
      rfl
    · exact absurd h (by simp)

section AtSegment

variable {text : Text} {s : Segment}

/-- What segments give at a place is what the one segment there gives. -/
theorem filterMap_at {β : Type} {give : Segment → Option β} {stands : β → Bool}
    (hs : s ∈ segments text)
    (hstands : ∀ t b, give t = some b → stands b = decide (t.start = s.start)) :
    ((segments text).filterMap give).filter stands = (give s).toList := by
  have hgive : (fun t => (give t).filter stands) =
      fun t => if decide (t.start = s.start) = true then give t else none := by
    funext t
    cases hgiven : give t with
    | none => simp
    | some b => simp [Option.filter, hstands t b hgiven]
  rw [List.filter_filterMap, hgive, ← List.filterMap_filter, filter_start_eq hs,
    List.filterMap_cons, List.filterMap_nil]
  cases give s <;> rfl

/-- The tokens where a segment starts are the one that it gives, if it gives one. -/
theorem tokens_at (hs : s ∈ segments text) :
    (tokenize text).1.filter (fun t => t.place.offset = (s.start : Int)) =
      (s.token? text).toList := by
  rw [tokenize_eq]
  refine filterMap_at hs ?_
  intro t token htoken
  rw [Segment.offset_of_token? htoken, decide_eq_decide]
  exact Int.ofNat_inj

/-- The reports where a segment starts are the one that it gives, if it gives one. -/
theorem reports_at (hs : s ∈ segments text) :
    (tokenize text).2.filter (fun d => d.position = some (s.start : Int)) =
      (s.report? text).toList := by
  rw [tokenize_eq]
  refine filterMap_at hs ?_
  intro t report hreport
  rw [Segment.position_of_report? hreport, decide_eq_decide, Option.some.injEq]
  exact Int.ofNat_inj

end AtSegment

/-- **What a lexer makes of a marker**: the tokens and the reports that stand where the marker begins. -/
def madeAt (text : Text) (span : Span) : List Token × List Diagnostic :=
  ((tokenize text).1.filter fun t => t.place.offset = (span.start : Int),
    (tokenize text).2.filter fun d => d.position = some (span.start : Int))

/-- **A marker of a known form gives one token, and any other marker one report.** -/
theorem madeAt_eq {text : Text} {span : Span} (h : span ∈ markerSpans text) :
    madeAt text span =
      match classifyMarker (span.slice text) with
      | some (kind, value) => ([⟨kind, value, Place.at text span.start⟩], [])
      | none => ([], [Diagnostic.unknownMarker (span.slice text) (Place.at text span.start)]) := by
  have hmem := marker_mem_segments h
  have htokens := tokens_at hmem
  have hreports := reports_at hmem
  rw [Segment.token?_marker] at htokens
  rw [Segment.report?_marker] at hreports
  have hmade : madeAt text span = (_, _) := congrArg₂ Prod.mk htokens hreports
  rw [hmade]
  cases classifyMarker (span.slice text) <;> rfl

/-! ## The partition -/

/-- **What a finding stands for.**  Literal text stands for itself, and there is some, with no marker in
it.  A token of another kind stands for a marker of that form, and a report for a marker of no known
form; both say where the marker begins. -/
inductive Covers (text : Text) : Finding → Span → Prop where
  | literal {span : Span} (hnil : span.slice text ≠ []) (hfree : MarkerFree (span.slice text)) :
      Covers text (.inl ⟨.text, span.slice text, Place.at text span.start⟩) span
  | token {span : Span} {kind : TokenKind} {value : Text} (hspan : span ∈ markerSpans text)
      (hform : classifyMarker (span.slice text) = some (kind, value)) (hkind : kind ≠ .text) :
      Covers text (.inl ⟨kind, value, Place.at text span.start⟩) span
  | dropped {span : Span} (hspan : span ∈ markerSpans text)
      (hform : classifyMarker (span.slice text) = none) :
      Covers text (.inr (Diagnostic.unknownMarker (span.slice text) (Place.at text span.start))) span

/-- A marker never gives literal text. -/
theorem IsMarker.kind_ne_text {m value : Text} {kind : TokenKind} (hm : IsMarker m)
    (h : classifyMarker m = some (kind, value)) : kind ≠ .text := by
  obtain ⟨body, hbody, rfl⟩ := hm
  exact ((classifyMarker_eq_some_iff hbody).1 h).kind_ne_text

section Covering

variable {text : Text} {s r : Segment}

/-- A segment that is a marker is where the scan has found one. -/
theorem span_mem_markerSpans (h : s ∈ segments text) (hmarker : s.isMarker = true) :
    s.span ∈ markerSpans text := by
  unfold markerSpans
  rw [← markers_segmentsAt]
  exact List.mem_map_of_mem (List.mem_filter.2 ⟨h, hmarker⟩)

/-- What a segment gives stands for the segment. -/
theorem covers_of_mem (h : s ∈ segments text) : Covers text (s.finding text) s.span := by
  obtain ⟨hsound, _⟩ := exists_of_mem_segmentsAt h
  obtain ⟨hslice, _⟩ := slice_span_of_mem h
  cases s with
  | literal start t =>
    have hliteral := @Covers.literal text (Segment.span (.literal start t))
    rw [hslice] at hliteral
    exact hliteral hsound.1 hsound.2
  | marker start m =>
    have hspan := span_mem_markerSpans h rfl
    show Covers text (Segment.read (.marker start m) (Place.at text start)) _
    rw [Segment.read]
    cases hform : classifyMarker m with
    | none =>
      have hdropped := @Covers.dropped text _ hspan
      rw [hslice] at hdropped
      exact hdropped hform
    | some form =>
      refine .token hspan ?_ (hsound.kind_ne_text hform)
      rw [hslice]
      exact hform

/-- A segment that gives literal text is literal. -/
theorem literal_of_token? (h : s ∈ segments text) {t : Token} (ht : s.token? text = some t)
    (hkind : t.kind = .text) : s.isMarker = false ∧ s.text = t.value := by
  obtain ⟨hsound, _⟩ := exists_of_mem_segmentsAt h
  cases s with
  | literal start piece =>
    rw [Segment.token?_literal, Option.some.injEq] at ht
    rw [← ht]
    exact ⟨rfl, rfl⟩
  | marker start m =>
    rw [Segment.token?_marker, Option.map_eq_some_iff] at ht
    obtain ⟨⟨kind, value⟩, hform, rfl⟩ := ht
    exact absurd hkind (hsound.kind_ne_text hform)

/-- A segment that gives no token is a dropped marker. -/
theorem dropped_of_token? (h : s ∈ segments text) (hnone : s.token? text = none) :
    s.span ∈ droppedSpans text := by
  obtain ⟨hslice, _⟩ := slice_span_of_mem h
  cases s with
  | literal start piece => exact absurd hnone (by simp)
  | marker start m =>
    rw [Segment.token?_marker, Option.map_eq_none_iff] at hnone
    refine List.mem_filter.2 ⟨span_mem_markerSpans h rfl, ?_⟩
    rw [hslice]
    exact Option.isNone_iff_eq_none.2 hnone

/-- Segments that follow each other in a text do so in their order, each behind the end of the other. -/
theorem stop_le_start_of_sublist (h : [s, r].Sublist (segments text)) :
    s.span.stop ≤ r.span.start := by
  have hordered := (tiles_segmentsAt 0 text).pairwise.2
  rw [List.pairwise_map] at hordered
  exact List.rel_of_pairwise_cons (hordered.sublist h) List.mem_cons_self

end Covering

/-- **Between two neighbouring tokens of text a marker was dropped.** -/
theorem exists_dropped_between {text : Text} {t u : Token} (h : [t, u] <:+: (tokenize text).1)
    (ht : t.kind = .text) (hu : u.kind = .text) :
    ∃ span ∈ droppedSpans text,
      t.place.offset + t.value.length ≤ span.start ∧ (span.stop : Int) ≤ u.place.offset := by
  obtain ⟨front, back, htokens⟩ := h
  rw [tokenize_eq, List.append_assoc] at htokens
  obtain ⟨before, behind, hsegments, _, hbehind⟩ := List.filterMap_eq_append_iff.1 htokens.symm
  obtain ⟨skipped, s, rest, rfl, _, hs, hrest⟩ := List.filterMap_eq_cons_iff.1 hbehind
  obtain ⟨between, r, others, rfl, hbetween, hr, _⟩ := List.filterMap_eq_cons_iff.1 hrest
  have hinfix : s :: (between ++ [r]) <:+: segments text :=
    ⟨before ++ skipped, others, by rw [hsegments]; simp⟩
  have hmem (x : Segment) (hx : x ∈ s :: (between ++ [r])) : x ∈ segments text := hinfix.subset hx
  obtain ⟨hsliteral, hstext⟩ := literal_of_token? (hmem s (by simp)) hs ht
  obtain ⟨hrliteral, _⟩ := literal_of_token? (hmem r (by simp)) hr hu
  rw [Segment.offset_of_token? hs, Segment.offset_of_token? hr, ← hstext]
  cases between with
  | nil =>
    -- two literal segments would be neighbours
    rcases isMarker_of_pair_infix hinfix with hmarker | hmarker
    · rw [hsliteral] at hmarker
      exact absurd hmarker Bool.false_ne_true
    · rw [hrliteral] at hmarker
      exact absurd hmarker Bool.false_ne_true
  | cons m more =>
    have hdropped := dropped_of_token? (hmem m (by simp)) (hbetween m List.mem_cons_self)
    have hafter : [s, m].Sublist (segments text) :=
      List.Sublist.trans (by simp) hinfix.sublist
    have hbefore : [m, r].Sublist (segments text) :=
      List.Sublist.trans (by simp) hinfix.sublist
    refine ⟨m.span, hdropped, ?_, ?_⟩
    · have hle := stop_le_start_of_sublist hafter
      exact Int.ofNat_le.2 hle
    · have hle := stop_le_start_of_sublist hbefore
      exact Int.ofNat_le.2 hle

/-- **A text is cut without loss.**  The tokens and the reports of a text, put in one row by where they
stand, stand for stretches that tile the text.  Literal text stands for itself and holds no marker;
any other token, and any report, stands for one marker.  Each marker is one of the stretches, so it
gives one token or one report and not both.  Literal text follows literal text only where a marker
was dropped between them.  So the stretches make up the text: nothing is lost, doubled or moved. -/
theorem tokenize_partition (text : Text) :
    ∃ spans : List Span,
      Tiles 0 text.length spans ∧
        List.Forall₂ (Covers text) (findings text) spans ∧
        (findings text).filterMap Sum.getLeft? = (tokenize text).1 ∧
        (findings text).filterMap Sum.getRight? = (tokenize text).2 ∧
        (markerSpans text).Sublist spans ∧
        (∀ span ∈ markerSpans text,
          (madeAt text span).1.length + (madeAt text span).2.length = 1) ∧
        (∀ t u, [t, u] <:+: (tokenize text).1 → t.kind = .text → u.kind = .text →
          ∃ span ∈ droppedSpans text,
            t.place.offset + t.value.length ≤ span.start ∧ (span.stop : Int) ≤ u.place.offset) ∧
        (spans.map fun span => span.slice text).flatten = text := by
  refine ⟨(segments text).map Segment.span, ?_, ?_, ?_, ?_, ?_, ?_, ?_, ?_⟩
  · have htiles := tiles_segmentsAt 0 text
    rw [Nat.zero_add] at htiles
    exact htiles
  · rw [findings_eq, List.forall₂_map_left_iff, List.forall₂_map_right_iff, List.forall₂_same]
    intro s hs
    exact covers_of_mem hs
  · rw [findings_eq, ← (tokenize_eq_parts text).1]
  · rw [findings_eq, ← (tokenize_eq_parts text).2]
  · unfold markerSpans
    rw [← markers_segmentsAt]
    exact List.filter_sublist.map _
  · intro span hspan
    rw [madeAt_eq hspan]
    cases classifyMarker (span.slice text) <;> rfl
  · intro t u h ht hu
    exact exists_dropped_between h ht hu
  · have htiles := tiles_segmentsAt 0 text
    rw [Nat.zero_add] at htiles
    refine (htiles.flatten_slices text).trans ?_
    simp [Span.slice]

end Stencil
