import Stencil.Proofs.Marker.Shape

/-!
# `Stencil.Proofs.Marker.Scan` — the scan finds exactly the markers

The scan skips forward in several ways, and stops early where no closing braces follow.  What it does
is said once (`ScanStep`): either the text holds no marker and nothing is found, or the first marker is
found and the scan goes on behind it.  No skip passes over a beginning, since all starts up to the last
opening brace share the closing braces with the one that was rejected (`body_of_begins`), and so would
have a body with an opening brace in it.

## Contents
- **The starts that are passed over.** `body_of_begins`, `Passed`.
- **One step of the scan.** `ScanStep`, which comes to one thing only (`ScanStep.unique`), `IsScan`, and
  `isScan_markerSpansFrom`.
- **`marker_induction`**, which takes a text apart at its first markers.
- **The whole scan.** `IsScan.eq_other`, `IsScan.mem_iff`, `IsScan.pairwise`, `markerSpans_eq_nil_iff`.
- **The spans as slices.** `mem_markerSpans_iff`, **`markerSpans_exact`**.
-/

namespace Stencil

variable {text before inside body after m a u x rest : Text} {offset : Nat}

/-! ## The starts that are passed over -/

/-- No pair of opening braces stands before the first one. -/
theorem before_le_of_opening (hopen : Text.splitAtPair '{' text = some (before, inside))
    {v : Text} (h : text = u ++ '{' :: '{' :: v) : before.length ≤ u.length := by
  obtain ⟨hwhole, hfirst⟩ := Text.splitAtPair_eq_some_iff.1 hopen
  rw [hwhole] at h
  rcases List.append_eq_append_iff.1 h with ⟨x, hu, _⟩ | ⟨x, hbefore, hx⟩
  · rw [hu, List.length_append]
    exact Nat.le_add_right _ _
  · -- a pair at `u` would lie before the first one, or reach into it
    rcases x with _ | ⟨c, _ | ⟨d, x⟩⟩
    · exact Nat.le_of_eq (by rw [hbefore, List.append_nil])
    · rw [List.cons_append, List.cons.injEq] at hx
      exact absurd ⟨u, [], by rw [hbefore, ← hx.1]; simp⟩ hfirst
    · simp only [List.cons_append, List.cons.injEq] at hx
      exact absurd ⟨u, x ++ ['{'], by rw [hbefore, ← hx.1, ← hx.2.1]; simp⟩ hfirst

/-- Every marker begins with the first opening braces, or behind them. -/
theorem begins_behind_opening (hopen : Text.splitAtPair '{' text = some (before, inside))
    (hm : IsMarker m) (h : text = u ++ (m ++ a)) :
    ∃ z, u = before ++ z ∧ '{' :: '{' :: inside = z ++ (m ++ a) := by
  have hle : before.length ≤ u.length := by
    obtain ⟨own, _, rfl⟩ := hm
    exact before_le_of_opening hopen (v := own ++ ['}', '}'] ++ a) (by simpa [braced] using h)
  have hwhole := (Text.splitAtPair_eq_some_iff.1 hopen).1
  rcases List.append_eq_append_iff.1 (hwhole.symm.trans h) with ⟨z, hu, hz⟩ | ⟨z, hb, hz⟩
  · exact ⟨z, hu, hz⟩
  · have hnil : z = [] := List.eq_nil_of_length_eq_zero (by
      rw [hb, List.length_append] at hle
      omega)
    exact ⟨[], by rw [hb, hnil, List.append_nil, List.append_nil], by rw [hz, hnil]; rfl⟩

/-- **All starts up to the closing braces share them**: a marker that begins `j` characters behind the
first opening braces has the body that remains there. -/
theorem body_of_begins (hopen : Text.splitAtPair '{' text = some (before, inside))
    (hclose : Text.splitAtPair '}' inside = some (body, after)) (hm : IsMarker m)
    (h : text = u ++ (m ++ a)) (hu : u.length ≤ before.length + body.length) :
    ∃ j, u.length = before.length + j ∧ IsBody (body.drop j) := by
  obtain ⟨hinside, hfirst⟩ := Text.splitAtPair_eq_some_iff.1 hclose
  obtain ⟨z, rfl, hz⟩ := begins_behind_opening hopen hm h
  obtain ⟨own, hown, rfl⟩ := hm
  rw [List.length_append] at hu ⊢
  refine ⟨z.length, rfl, ?_⟩
  -- what follows the opening braces of the marker, told in both ways
  have htail : own ++ '}' :: '}' :: a = body.drop z.length ++ '}' :: '}' :: after := by
    have hdrop := congrArg (List.drop (z.length + 2)) hz
    rw [List.drop_succ_cons, List.drop_succ_cons, List.drop_length_add_append, hinside,
      List.drop_append_of_le_length (by omega)] at hdrop
    simpa [braced] using hdrop.symm
  have hpair : ¬ ['}', '}'] <:+: body.drop z.length ++ ['}'] := by
    intro hp
    refine hfirst (hp.trans ⟨body.take z.length, [], ?_⟩)
    rw [List.append_nil, ← List.append_assoc, List.take_append_drop]
  have hsame := hown.splitAtPair a
  rw [htail, Text.splitAtPair_eq_some_iff.2 ⟨rfl, hpair⟩, Option.some.injEq, Prod.mk.injEq] at hsame
  rw [hsame.1]
  exact hown

/-- Where `rest` follows, no marker begins inside `x`. -/
def Passed (x rest : Text) : Prop :=
  ∀ u m a, IsMarker m → x ++ rest = u ++ (m ++ a) → x.length ≤ u.length

/-- What was passed over holds no marker, not even together with text that holds none. -/
theorem Passed.markerFree_append {y z : Text} (h : Passed x (y ++ z)) (hy : MarkerFree y) :
    MarkerFree (x ++ y) := by
  rintro p ⟨u, v, hp⟩ hmarker
  have hle := h u p (v ++ z) hmarker (by rw [← List.append_assoc, ← hp]; simp)
  rw [List.append_assoc] at hp
  rcases List.append_eq_append_iff.1 hp with ⟨w, hx, hw⟩ | ⟨w, hu, hw⟩
  · have hnil : w = [] := List.eq_nil_of_length_eq_zero (by
      rw [hx, List.length_append] at hle
      omega)
    rw [hnil, List.nil_append] at hw
    exact hy p ⟨[], v, hw⟩ hmarker
  · exact hy p ⟨w, v, by rw [List.append_assoc]; exact hw.symm⟩ hmarker

/-- **The skip behind a rejected start is sound**: if what remains of the body is no body up to its
`k`-th character, then no marker begins before that. -/
theorem passed_of_rejected (hopen : Text.splitAtPair '{' text = some (before, inside))
    (hclose : Text.splitAtPair '}' inside = some (body, after)) {k : Nat} (hk : k ≤ body.length)
    (hreject : ∀ j, j ≤ k → ¬ IsBody (body.drop j)) :
    text = before ++ '{' :: ('{' :: inside).take k ++ ('{' :: inside).drop k ∧
      (before ++ '{' :: ('{' :: inside).take k).length = before.length + 1 + k ∧
      Passed (before ++ '{' :: ('{' :: inside).take k) (('{' :: inside).drop k) := by
  have hwhole : text = before ++ '{' :: ('{' :: inside).take k ++ ('{' :: inside).drop k := by
    rw [List.append_assoc, List.cons_append, List.take_append_drop]
    exact (Text.splitAtPair_eq_some_iff.1 hopen).1
  have hlength : (before ++ '{' :: ('{' :: inside).take k).length = before.length + 1 + k := by
    have hinside := Text.length_of_splitAtPair hclose
    rw [List.length_append, List.length_cons, List.length_take, List.length_cons]
    omega
  refine ⟨hwhole, hlength, ?_⟩
  intro u m a hm h
  rw [hlength]
  refine Nat.le_of_not_lt fun hlt => ?_
  obtain ⟨j, hj, hbody⟩ := body_of_begins hopen hclose hm (hwhole.trans h) (by omega)
  exact hreject j (by omega) hbody

/-- Without opening braces there is no marker. -/
theorem markerFree_of_unopened (hopen : Text.splitAtPair '{' text = none) : MarkerFree text := by
  rintro p hp ⟨own, _, rfl⟩
  exact Text.splitAtPair_eq_none_iff.1 hopen (List.IsInfix.trans ⟨[], own ++ ['}', '}'], rfl⟩ hp)

/-- Without closing braces behind the first opening ones there is no marker. -/
theorem markerFree_of_unclosed (hopen : Text.splitAtPair '{' text = some (before, inside))
    (hclose : Text.splitAtPair '}' inside = none) : MarkerFree text := by
  rintro p ⟨u, v, hp⟩ hmarker
  obtain ⟨z, _, hz⟩ := begins_behind_opening hopen hmarker (by rw [← hp, List.append_assoc])
  obtain ⟨own, _, rfl⟩ := hmarker
  have hpair : ['}', '}'] <:+: '{' :: '{' :: inside :=
    ⟨z ++ '{' :: '{' :: own, v, by rw [hz]; simp [braced]⟩
  rw [Text.pair_infix_cons_of_ne (by decide), Text.pair_infix_cons_of_ne (by decide)] at hpair
  exact Text.splitAtPair_eq_none_iff.1 hclose hpair

/-- Nothing before the first opening braces is a marker. -/
theorem markerFree_of_opening (hopen : Text.splitAtPair '{' text = some (before, inside)) :
    MarkerFree before := by
  obtain ⟨hwhole, hfirst⟩ := Text.splitAtPair_eq_some_iff.1 hopen
  rintro p hp ⟨own, _, rfl⟩
  have hpair : ['{', '{'] <:+: before := List.IsInfix.trans ⟨[], own ++ ['}', '}'], rfl⟩ hp
  exact hfirst (hpair.trans (List.infix_append [] before ['{']))

/-- A body with something in it, and without an opening brace, makes a marker with the braces around
it. -/
theorem marker_of_accepted (hopen : Text.splitAtPair '{' text = some (before, inside))
    (hclose : Text.splitAtPair '}' inside = some (body, after)) (hnil : body ≠ [])
    (hbrace : '{' ∉ body) : text = before ++ (braced body ++ after) ∧ IsMarker (braced body) := by
  obtain ⟨hinside, hfirst⟩ := Text.splitAtPair_eq_some_iff.1 hclose
  refine ⟨?_, body, isBody_of_first_pair hnil hbrace hfirst, rfl⟩
  rw [(Text.splitAtPair_eq_some_iff.1 hopen).1, hinside]
  simp [braced]

/-! ## One step of the scan -/

/-- What a scan of `text`, which stands at `offset`, comes to, where `next` is what it comes to further
on: nothing if there is no marker, and else the first marker and what is found behind it. -/
inductive ScanStep (next : Nat → Text → List Span) (offset : Nat) (text : Text) : List Span → Prop where
  | free (h : MarkerFree text) : ScanStep next offset text []
  | first {b m a : Text} (h : text = b ++ (m ++ a)) (hb : MarkerFree b) (hm : IsMarker m) :
      ScanStep next offset text
        (⟨offset + b.length, offset + b.length + m.length⟩ :: next (offset + b.length + m.length) a)

variable {next : Nat → Text → List Span} {spans : List Span}

/-- Text in which no marker begins may be passed over. -/
theorem ScanStep.skip {x rest : Text} (hx : Passed x rest)
    (h : ScanStep next (offset + x.length) rest spans) : ScanStep next offset (x ++ rest) spans := by
  cases h with
  | free hfree =>
    rw [← List.append_nil rest] at hx
    exact .free (hx.markerFree_append hfree)
  | @first b m a hrest hb hm =>
    subst hrest
    have hstep : ScanStep next offset (x ++ (b ++ (m ++ a))) _ :=
      .first (List.append_assoc x b (m ++ a)).symm (hx.markerFree_append hb) hm
    rwa [List.length_append, ← Nat.add_assoc] at hstep

/-- Where there is no marker, nothing is found. -/
theorem ScanStep.eq_nil (h : ScanStep next offset text spans) (hfree : MarkerFree text) :
    spans = [] := by
  cases h with
  | free => rfl
  | @first b m a hwhole _ hm => exact absurd hm (hfree m ⟨b, a, by rw [hwhole, List.append_assoc]⟩)

/-- Where there is a first marker, that is found first. -/
theorem ScanStep.eq_cons (h : ScanStep next offset text spans) (hwhole : text = b ++ (m ++ a))
    (hb : MarkerFree b) (hm : IsMarker m) :
    spans = ⟨offset + b.length, offset + b.length + m.length⟩ ::
      next (offset + b.length + m.length) a := by
  cases h with
  | free hfree => exact absurd hm (hfree m ⟨b, a, by rw [hwhole, List.append_assoc]⟩)
  | first hwhole' hb' hm' =>
    obtain ⟨rfl, rfl, rfl⟩ := hb.first_unique hm hb' hm' (hwhole.symm.trans hwhole')
    rfl

/-- A scan can come to one thing only. -/
theorem ScanStep.unique {others : List Span} (h : ScanStep next offset text spans)
    (hothers : ScanStep next offset text others) : spans = others := by
  cases h with
  | free hfree => exact (hothers.eq_nil hfree).symm
  | first hwhole hb hm => exact (hothers.eq_cons hwhole hb hm).symm

/-- A scan of texts at offsets that finds the first marker of every text and goes on behind it. -/
def IsScan (scan : Nat → Text → List Span) : Prop :=
  ∀ offset text, ScanStep scan offset text (scan offset text)

/-- **The scan finds the first marker of every text**, and goes on behind it. -/
theorem isScan_markerSpansFrom : IsScan markerSpansFrom := by
  intro offset text
  fun_induction markerSpansFrom offset text with
  | case1 offset text hopen => exact .free (markerFree_of_unopened hopen)
  | case2 offset text before inside hopen hclose => exact .free (markerFree_of_unclosed hopen hclose)
  | case3 offset text before inside hopen after start hclose ih =>
    -- an empty body: this start is passed over
    obtain ⟨hwhole, hlength, hpassed⟩ := passed_of_rejected hopen hclose (Nat.zero_le _)
      (fun j _ hbody => hbody.ne_nil List.drop_nil)
    rw [hwhole]
    refine .skip hpassed ?_
    rw [hlength]
    exact ih
  | case4 offset text before inside hopen body after hclose start hnil k hk ih =>
    -- an opening brace in the body: all starts up to that brace are passed over
    obtain ⟨hwhole, hlength, hpassed⟩ := passed_of_rejected hopen hclose
      (Nat.le_of_lt (Text.lastIndexOf?_lt hk))
      (fun j hj hbody => hbody.no_opening (Text.mem_drop_of_lastIndexOf? hk hj))
    rw [hwhole]
    refine .skip hpassed ?_
    rw [hlength]
    simpa only [start, Nat.add_assoc] using ih
  | case5 offset text before inside hopen body after hclose start hnil hk stop ih =>
    obtain ⟨hwhole, hmarker⟩ :=
      marker_of_accepted hopen hclose hnil (Text.lastIndexOf?_eq_none_iff.1 hk)
    have hstep : ScanStep markerSpansFrom offset text _ :=
      .first hwhole (markerFree_of_opening hopen) hmarker
    rwa [length_braced, ← Nat.add_assoc] at hstep

/-- **A text is taken apart at its first markers**: what holds of every text without markers, and of a
text with a first marker if it holds of the text behind that, holds of every text. -/
@[elab_as_elim]
theorem marker_induction {motive : Text → Prop} (free : ∀ text, MarkerFree text → motive text)
    (first : ∀ b m a, MarkerFree b → IsMarker m → motive a → motive (b ++ (m ++ a)))
    (text : Text) : motive text := by
  induction hlength : text.length using Nat.strongRecOn generalizing text with
  | ind n ih =>
    have hstep := isScan_markerSpansFrom 0 text
    generalize markerSpansFrom 0 text = spans at hstep
    cases hstep with
    | free hfree => exact free text hfree
    | @first b m a hwhole hb hm =>
      have hpos := List.length_pos_iff.2 hm.ne_nil
      have hshorter : a.length < n := by
        rw [← hlength, hwhole, List.length_append, List.length_append]
        omega
      rw [hwhole]
      exact first b m a hb hm (ih a.length hshorter a rfl)

/-! ## The whole scan -/

variable {scan other : Nat → Text → List Span}

/-- Where no marker begins, a scan may as well begin later. -/
theorem IsScan.eq_of_passed (hscan : IsScan scan) {x rest : Text} (hx : Passed x rest)
    (offset : Nat) : scan offset (x ++ rest) = scan (offset + x.length) rest :=
  (hscan offset (x ++ rest)).unique (.skip hx (hscan (offset + x.length) rest))

/-- **All scans find the same.** -/
theorem IsScan.eq_other (hscan : IsScan scan) (hother : IsScan other) (offset : Nat) (text : Text) :
    scan offset text = other offset text := by
  induction text using marker_induction generalizing offset with
  | free text hfree => rw [(hscan offset text).eq_nil hfree, (hother offset text).eq_nil hfree]
  | first b m a hb hm ih =>
    rw [(hscan offset _).eq_cons rfl hb hm, (hother offset _).eq_cons rfl hb hm, ih]

/-- **A scan finds exactly the markers**: the spans are the places where a piece of the text is a
marker. -/
theorem IsScan.mem_iff (hscan : IsScan scan) {span : Span} :
    span ∈ scan offset text ↔
      ∃ b m a, text = b ++ (m ++ a) ∧ IsMarker m ∧
        span = ⟨offset + b.length, offset + b.length + m.length⟩ := by
  induction text using marker_induction generalizing offset with
  | free text hfree =>
    rw [(hscan offset text).eq_nil hfree]
    constructor
    · exact fun h => absurd h List.not_mem_nil
    · rintro ⟨b, m, a, hwhole, hm, _⟩
      exact absurd hm (hfree m ⟨b, a, by rw [hwhole, List.append_assoc]⟩)
  | first b m a hb hm ih =>
    rw [(hscan offset _).eq_cons rfl hb hm, List.mem_cons, ih]
    constructor
    · rintro (rfl | ⟨b', m', a', rfl, hm', rfl⟩)
      · exact ⟨b, m, a, rfl, hm, rfl⟩
      · refine ⟨b ++ m ++ b', m', a', by simp, hm', ?_⟩
        simp only [List.length_append, Nat.add_assoc]
    · rintro ⟨b', m', a', hwhole, hm', rfl⟩
      rcases hm.apart hm' hwhole with ⟨rfl, rfl⟩ | ⟨y, rfl⟩ | ⟨y, rfl⟩
      · exact .inl rfl
      · -- behind the first marker
        refine .inr ⟨y, m', a', ?_, hm', ?_⟩
        · rw [List.append_assoc, List.append_assoc] at hwhole
          exact List.append_cancel_left (List.append_cancel_left hwhole)
        · simp only [List.length_append, Nat.add_assoc]
      · -- before the first marker there is none
        exact absurd hm' (hb m' (List.infix_append b' m' y))

/-- The spans lie at the offset of the text or behind it. -/
theorem IsScan.le_start (hscan : IsScan scan) {span : Span} (h : span ∈ scan offset text) :
    offset ≤ span.start := by
  obtain ⟨b, m, a, _, _, rfl⟩ := hscan.mem_iff.1 h
  exact Nat.le_add_right _ _

/-- No span is empty. -/
theorem IsScan.start_lt_stop (hscan : IsScan scan) {span : Span} (h : span ∈ scan offset text) :
    span.start < span.stop := by
  obtain ⟨b, m, a, _, hm, rfl⟩ := hscan.mem_iff.1 h
  exact Nat.lt_add_of_pos_right (List.length_pos_iff.2 hm.ne_nil)

/-- **The spans come in order and apart**: each ends before the next begins. -/
theorem IsScan.pairwise (hscan : IsScan scan) (offset : Nat) (text : Text) :
    (scan offset text).Pairwise fun s t => s.stop ≤ t.start := by
  induction text using marker_induction generalizing offset with
  | free text hfree => rw [(hscan offset text).eq_nil hfree]; exact .nil
  | first b m a hb hm ih =>
    rw [(hscan offset _).eq_cons rfl hb hm]
    exact .cons (fun t ht => hscan.le_start ht) (ih _)

/-- Nothing is found exactly in a text without markers. -/
theorem markerSpans_eq_nil_iff : markerSpans text = [] ↔ MarkerFree text := by
  constructor
  · rintro hnil piece ⟨b, a, hwhole⟩ hmarker
    have hmem : (⟨0 + b.length, 0 + b.length + piece.length⟩ : Span) ∈ markerSpans text :=
      isScan_markerSpansFrom.mem_iff.2
        ⟨b, piece, a, by rw [← hwhole, List.append_assoc], hmarker, rfl⟩
    rw [hnil] at hmem
    exact absurd hmem List.not_mem_nil
  · exact (isScan_markerSpansFrom 0 text).eq_nil

/-! ## Spans as slices -/

/-- A piece of a text is what a span covers if it stands there. -/
theorem Span.slice_append (b m a : Text) :
    Span.slice ⟨b.length, b.length + m.length⟩ (b ++ (m ++ a)) = m := by
  rw [Span.slice, List.take_length_add_append, List.drop_left, List.take_left]

/-- A span that covers something and does not reach beyond the text cuts it into three. -/
theorem Span.append_slice {span : Span} (hstop : span.stop ≤ text.length)
    (hslice : span.slice text ≠ []) :
    ∃ b a, text = b ++ (span.slice text ++ a) ∧
      span = ⟨b.length, b.length + (span.slice text).length⟩ := by
  have hlt : span.start < span.stop := by
    have hpos := List.length_pos_iff.2 hslice
    rw [Span.slice, List.length_drop, List.length_take] at hpos
    omega
  refine ⟨text.take span.start, text.drop span.stop, ?_, ?_⟩
  · have hfront : text.take span.start = (text.take span.stop).take span.start := by
      rw [List.take_take, Nat.min_eq_left (Nat.le_of_lt hlt)]
    rw [← List.append_assoc, Span.slice, hfront, List.take_append_drop, List.take_append_drop]
  · have hlength : (text.take span.start).length = span.start := by
      rw [List.length_take]
      omega
    have hslice : (span.slice text).length = span.stop - span.start := by
      rw [Span.slice, List.length_drop, List.length_take]
      omega
    rw [hlength, hslice, Nat.add_sub_cancel' (Nat.le_of_lt hlt)]

/-- A span is found exactly if it lies in the text and what it covers is a marker. -/
theorem mem_markerSpans_iff {span : Span} :
    span ∈ markerSpans text ↔ span.stop ≤ text.length ∧ IsMarker (span.slice text) := by
  rw [markerSpans, isScan_markerSpansFrom.mem_iff]
  simp only [Nat.zero_add]
  constructor
  · rintro ⟨b, m, a, rfl, hm, rfl⟩
    rw [Span.slice_append]
    exact ⟨by simp only [List.length_append]; omega, hm⟩
  · rintro ⟨hstop, hm⟩
    obtain ⟨b, a, hwhole, hspan⟩ := Span.append_slice hstop hm.ne_nil
    exact ⟨b, _, a, hwhole, hm, hspan⟩

/-- **The scan finds exactly the markers of a text.**  A span is found if and only if it lies in the
text and covers a marker, that is, a body between two opening and two closing braces; the spans
come in ascending order and apart; and whether a piece of text is found depends on that piece
alone, whatever stands before and behind it. -/
theorem markerSpans_exact :
    (∀ (text : Text) (start stop : Nat), ⟨start, stop⟩ ∈ markerSpans text ↔
      stop ≤ text.length ∧
        ∃ body, IsBody body ∧
          Span.slice ⟨start, stop⟩ text = ['{', '{'] ++ body ++ ['}', '}']) ∧
    (∀ text : Text, (markerSpans text).Pairwise fun s t => s.start < t.start ∧ s.stop ≤ t.start) ∧
    (∀ b piece a b' a' : Text,
      ⟨b.length, b.length + piece.length⟩ ∈ markerSpans (b ++ piece ++ a) ↔
        ⟨b'.length, b'.length + piece.length⟩ ∈ markerSpans (b' ++ piece ++ a')) := by
  have hlocal : ∀ b piece a : Text,
      ⟨b.length, b.length + piece.length⟩ ∈ markerSpans (b ++ piece ++ a) ↔ IsMarker piece := by
    intro b piece a
    rw [mem_markerSpans_iff, List.append_assoc, Span.slice_append]
    exact and_iff_right (by simp only [List.length_append]; omega)
  refine ⟨?_, ?_, ?_⟩
  · intro text start stop
    exact mem_markerSpans_iff
  · intro text
    refine (isScan_markerSpansFrom.pairwise 0 text).imp_of_mem ?_
    intro s t hs _ hst
    exact ⟨Nat.lt_of_lt_of_le (isScan_markerSpansFrom.start_lt_stop hs) hst, hst⟩
  · intro b piece a b' a'
    rw [hlocal b piece a, hlocal b' piece a']

end Stencil
