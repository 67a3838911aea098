import Stencil.Proofs.Marker.Scan

/-!
# `Stencil.Proofs.Marker.Rounds` — the scan and the plain scan, round by round

A scan is a loop.  From where it stands it looks for opening braces and for closing braces behind them;
then it is at its end, or it has found a marker and goes on behind it, or it rejects that start and goes
on a little further.  How much further is all in which the scan and the plain scan differ (`skip`).

A skip is safe as long as no start that is passed over could begin a marker (`SafeSkip`).  With a safe
skip what has been found together with what is still to be found stays the same in every round
(`ScanState.total_round`), and every round gets further (`ScanState.Advanced.round`), so that the loop
comes to its end and has then found the markers, however far it skips.

## Contents
- **One round.** `ScanState`, `ScanState.round`.
- **Safe skips.** `SafeSkip`; `noSkip` and `skipToLastBrace` are safe.
- **What a round keeps.** `ScanState.total_round`, `ScanState.Advanced.round`.
- **All rounds.** `ScanState.rounds_eq`, and **`markerSpans_eq_plain`**.
-/

namespace Stencil

variable {text before inside body after : Text} {offset : Nat}

/-! ## One round -/

/-- A scan under way: where it goes on, unless it is at its end, and what it has found so far. -/
structure ScanState where
  next? : Option Nat
  found : List Span
deriving DecidableEq, Repr

namespace ScanState

/-- At the beginning of a text. -/
def start : ScanState :=
  ⟨some 0, []⟩

/-- One round of the loop.  Behind a start that is rejected with some body, `skip body` further starts
are passed over. -/
def round (skip : Text → Nat) (text : Text) (s : ScanState) : ScanState :=
  match s.next? with
  | none => s
  | some offset =>
    match Text.splitAtPair '{' (text.drop offset) with
    | none => { s with next? := none }
    | some (before, inside) =>
      match Text.splitAtPair '}' inside with
      | none => { s with next? := none }
      | some (body, _) =>
        let start := offset + before.length
        if body = [] ∨ '{' ∈ body then { s with next? := some (start + 1 + skip body) }
        else
          let stop := start + body.length + 4
          ⟨some stop, s.found ++ [⟨start, stop⟩]⟩

/-- So many rounds. -/
def rounds (skip : Text → Nat) (text : Text) : Nat → ScanState → ScanState
  | 0, s => s
  | n + 1, s => rounds skip text n (s.round skip text)

end ScanState

/-! ## Safe skips -/

/-- The plain scan passes over no further start. -/
def noSkip (_body : Text) : Nat := 0

/-- The scan passes over all starts up to the last opening brace of the body. -/
def skipToLastBrace (body : Text) : Nat :=
  (Text.lastIndexOf? '{' body).getD 0

/-- No start that is passed over leaves something that could be the body of a marker. -/
def SafeSkip (skip : Text → Nat) : Prop :=
  ∀ body, body = [] ∨ '{' ∈ body →
    skip body ≤ body.length ∧ ∀ j, j ≤ skip body → ¬ IsBody (body.drop j)

theorem safe_noSkip : SafeSkip noSkip := by
  intro body hreject
  refine ⟨Nat.zero_le _, fun j hj hbody => ?_⟩
  obtain rfl : j = 0 := Nat.le_zero.1 hj
  rw [List.drop_zero] at hbody
  rcases hreject with hnil | hbrace
  · exact hbody.ne_nil hnil
  · exact hbody.no_opening hbrace

theorem safe_skipToLastBrace : SafeSkip skipToLastBrace := by
  intro body hreject
  rcases hreject with rfl | hbrace
  · exact ⟨Nat.le_refl _, fun j _ hbody => hbody.ne_nil List.drop_nil⟩
  · cases hlast : Text.lastIndexOf? '{' body with
    | none => exact absurd hbrace (Text.lastIndexOf?_eq_none_iff.1 hlast)
    | some k =>
      have hskip : skipToLastBrace body = k := by rw [skipToLastBrace, hlast, Option.getD_some]
      rw [hskip]
      refine ⟨Nat.le_of_lt (Text.lastIndexOf?_lt hlast), fun j hj hbody => ?_⟩
      exact hbody.no_opening (Text.mem_drop_of_lastIndexOf? hlast hj)

/-- **A scan may go on behind a safe skip**: no marker begins before that. -/
theorem IsScan.eq_of_rejected {scan : Nat → Text → List Span} (hscan : IsScan scan)
    (hopen : Text.splitAtPair '{' text = some (before, inside))
    (hclose : Text.splitAtPair '}' inside = some (body, after)) {k : Nat} (hk : k ≤ body.length)
    (hreject : ∀ j, j ≤ k → ¬ IsBody (body.drop j)) (offset : Nat) :
    scan offset text =
      scan (offset + (before.length + 1 + k)) (text.drop (before.length + 1 + k)) := by
  obtain ⟨hwhole, hlength, hpassed⟩ := passed_of_rejected hopen hclose hk hreject
  have hrest : text.drop (before.length + 1 + k) = ('{' :: inside).drop k := by
    have hdrop := congrArg (List.drop (before.length + 1 + k)) hwhole
    rw [← hlength, List.drop_left] at hdrop
    rw [← hlength, hdrop]
  have hskip := hscan.eq_of_passed hpassed offset
  rw [← hwhole, hlength] at hskip
  rw [hskip, hrest]

/-- Behind a marker that is accepted a scan goes on. -/
theorem IsScan.eq_of_accepted {scan : Nat → Text → List Span} (hscan : IsScan scan)
    (hopen : Text.splitAtPair '{' text = some (before, inside))
    (hclose : Text.splitAtPair '}' inside = some (body, after)) (hnil : body ≠ [])
    (hbrace : '{' ∉ body) (offset : Nat) :
    scan offset text =
      ⟨offset + before.length, offset + before.length + body.length + 4⟩ ::
        scan (offset + before.length + body.length + 4)
          (text.drop (before.length + body.length + 4)) := by
  obtain ⟨hwhole, hmarker⟩ := marker_of_accepted hopen hclose hnil hbrace
  have hrest : text.drop (before.length + body.length + 4) = after := by
    rw [hwhole, Nat.add_assoc, ← length_braced, List.drop_length_add_append, List.drop_left]
  have hfirst := (hscan offset text).eq_cons hwhole (markerFree_of_opening hopen) hmarker
  rw [length_braced, ← Nat.add_assoc] at hfirst
  rw [hfirst, hrest]

/-! ## What a round keeps -/

/-- What a round comes to that looks from an offset on. -/
inductive RoundStep (skip : Text → Nat) (text : Text) (offset : Nat) (found : List Span) :
    ScanState → Prop where
  | ended (h : MarkerFree (text.drop offset)) : RoundStep skip text offset found ⟨none, found⟩
  | rejected {before inside body after : Text}
      (hopen : Text.splitAtPair '{' (text.drop offset) = some (before, inside))
      (hclose : Text.splitAtPair '}' inside = some (body, after)) (h : body = [] ∨ '{' ∈ body) :
      RoundStep skip text offset found ⟨some (offset + (before.length + 1 + skip body)), found⟩
  | accepted {before inside body after : Text}
      (hopen : Text.splitAtPair '{' (text.drop offset) = some (before, inside))
      (hclose : Text.splitAtPair '}' inside = some (body, after)) (hnil : body ≠ [])
      (hbrace : '{' ∉ body) :
      RoundStep skip text offset found
        ⟨some (offset + before.length + body.length + 4),
          found ++ [⟨offset + before.length, offset + before.length + body.length + 4⟩]⟩

namespace ScanState

variable {skip : Text → Nat} {s : ScanState} {n : Nat}

theorem roundStep (skip : Text → Nat) (text : Text) (offset : Nat) (found : List Span) :
    RoundStep skip text offset found (round skip text ⟨some offset, found⟩) := by
  cases hopen : Text.splitAtPair '{' (text.drop offset) with
  | none =>
    simp only [round, hopen]
    exact .ended (markerFree_of_unopened hopen)
  | some opened =>
    obtain ⟨before, inside⟩ := opened
    cases hclose : Text.splitAtPair '}' inside with
    | none =>
      simp only [round, hopen, hclose]
      exact .ended (markerFree_of_unclosed hopen hclose)
    | some closed =>
      obtain ⟨body, after⟩ := closed
      simp only [round, hopen, hclose]
      by_cases hreject : body = [] ∨ '{' ∈ body
      · rw [if_pos hreject, Nat.add_assoc, Nat.add_assoc, ← Nat.add_assoc before.length]
        exact .rejected hopen hclose hreject
      · rw [if_neg hreject]
        rw [not_or] at hreject
        exact .accepted hopen hclose hreject.1 hreject.2

/-- What has been found, together with what is still to be found. -/
def total (text : Text) (s : ScanState) : List Span :=
  match s.next? with
  | none => s.found
  | some offset => s.found ++ markerSpansFrom offset (text.drop offset)

/-- **No round changes what is found in the end.** -/
theorem total_round (hskip : SafeSkip skip) (text : Text) (s : ScanState) :
    (s.round skip text).total text = s.total text := by
  have hscan := isScan_markerSpansFrom
  obtain ⟨next?, found⟩ := s
  cases next? with
  | none => rfl
  | some offset =>
    show _ = found ++ markerSpansFrom offset (text.drop offset)
    have hstep := roundStep skip text offset found
    generalize round skip text ⟨some offset, found⟩ = s' at hstep ⊢
    cases hstep with
    | ended hfree =>
      rw [(hscan offset _).eq_nil hfree, List.append_nil]
      rfl
    | @rejected before inside body after hopen hclose hreject =>
      obtain ⟨hk, hno⟩ := hskip body hreject
      rw [hscan.eq_of_rejected hopen hclose hk hno offset, List.drop_drop]
      rfl
    | @accepted before inside body after hopen hclose hnil hbrace =>
      rw [hscan.eq_of_accepted hopen hclose hnil hbrace offset, List.drop_drop]
      simp only [total, List.append_assoc, List.singleton_append, ← Nat.add_assoc]

/-- After `n` rounds a scan is at its end, or looks from the `n`-th character on at least, and inside
the text. -/
def Advanced (text : Text) (n : Nat) (s : ScanState) : Prop :=
  ∀ offset, s.next? = some offset → n ≤ offset ∧ offset ≤ text.length

theorem advanced_of_ended (text : Text) (n : Nat) (found : List Span) :
    Advanced text n ⟨none, found⟩ := by
  intro offset hnext
  cases hnext

/-- **Every round gets further.** -/
theorem Advanced.round (hskip : SafeSkip skip) (h : Advanced text n s) :
    Advanced text (n + 1) (s.round skip text) := by
  obtain ⟨next?, found⟩ := s
  cases next? with
  | none => exact advanced_of_ended text (n + 1) found
  | some offset =>
    obtain ⟨hle, hinside⟩ := h offset rfl
    have hstep := roundStep skip text offset found
    generalize ScanState.round skip text ⟨some offset, found⟩ = s' at hstep ⊢
    cases hstep with
    | ended hfree => exact advanced_of_ended text (n + 1) found
    | @rejected before inside body after hopen hclose hreject =>
      obtain ⟨hk, _⟩ := hskip body hreject
      have hwhole := Text.length_of_splitAtPair hopen
      have hpart := Text.length_of_splitAtPair hclose
      rw [List.length_drop] at hwhole
      intro next hnext
      cases hnext
      omega
    | @accepted before inside body after hopen hclose hnil hbrace =>
      have hwhole := Text.length_of_splitAtPair hopen
      have hpart := Text.length_of_splitAtPair hclose
      rw [List.length_drop] at hwhole
      intro next hnext
      cases hnext
      omega

/-! ## All rounds -/

theorem total_rounds (hskip : SafeSkip skip) (text : Text) (n : Nat) (s : ScanState) :
    (s.rounds skip text n).total text = s.total text := by
  induction n generalizing s with
  | zero => rfl
  | succ n ih => rw [rounds, ih, total_round hskip]

theorem Advanced.rounds (hskip : SafeSkip skip) {m : Nat} (h : Advanced text m s) (n : Nat) :
    Advanced text (m + n) (s.rounds skip text n) := by
  induction n generalizing m s with
  | zero => exact h
  | succ n ih =>
    have hrest := ih (h.round hskip)
    rwa [Nat.add_right_comm, Nat.add_assoc] at hrest

/-- **With any safe skip the loop comes to its end and has found the markers**: there are at most as many
rounds as characters, and one. -/
theorem rounds_eq (hskip : SafeSkip skip) (text : Text) (more : Nat) :
    start.rounds skip text (text.length + 1 + more) = ⟨none, markerSpans text⟩ := by
  have htotal := total_rounds hskip text (text.length + 1 + more) start
  have hstart : Advanced text 0 start := by
    intro offset hnext
    cases hnext
    exact ⟨Nat.le_refl 0, Nat.zero_le _⟩
  have hadvanced := hstart.rounds hskip (text.length + 1 + more)
  generalize start.rounds skip text (text.length + 1 + more) = s at htotal hadvanced ⊢
  obtain ⟨next?, found⟩ := s
  cases next? with
  | none => exact congrArg (ScanState.mk none) htotal
  | some offset =>
    obtain ⟨hle, hinside⟩ := hadvanced offset rfl
    omega

end ScanState

/-- **The plain scan finds the first marker of every text** too. -/
theorem isScan_markerSpansPlainFrom : IsScan markerSpansPlainFrom := by
  intro offset text
  fun_induction markerSpansPlainFrom offset text with
  | case1 offset text hopen => exact .free (markerFree_of_unopened hopen)
  | case2 offset text before inside hopen hclose => exact .free (markerFree_of_unclosed hopen hclose)
  | case3 offset text before inside hopen body after hclose start hreject ih =>
    obtain ⟨hk, hno⟩ := safe_noSkip body hreject
    obtain ⟨hwhole, hlength, hpassed⟩ := passed_of_rejected hopen hclose hk hno
    rw [hwhole]
    refine .skip hpassed ?_
    rw [hlength]
    exact ih
  | case4 offset text before inside hopen body after hclose start haccept stop ih =>
    rw [not_or] at haccept
    obtain ⟨hwhole, hmarker⟩ := marker_of_accepted hopen hclose haccept.1 haccept.2
    have hstep : ScanStep markerSpansPlainFrom offset text _ :=
      .first hwhole (markerFree_of_opening hopen) hmarker
    rwa [length_braced, ← Nat.add_assoc] at hstep

/-- **The scan that skips to the last opening brace of a rejected body finds what the plain scan finds**,
which goes on one character behind every rejected start; and each of them, as a loop over the whole
text, comes to its end with that. -/
theorem markerSpans_eq_plain (text : Text) :
    markerSpans text = markerSpansPlain text ∧
      ∀ more : Nat,
        ScanState.start.rounds skipToLastBrace text (text.length + 1 + more) =
            ⟨none, markerSpans text⟩ ∧
          ScanState.start.rounds noSkip text (text.length + 1 + more) =
            ⟨none, markerSpansPlain text⟩ := by
  have hsame : markerSpans text = markerSpansPlain text :=
    isScan_markerSpansFrom.eq_other isScan_markerSpansPlainFrom 0 text
  refine ⟨hsame, fun more => ⟨ScanState.rounds_eq safe_skipToLastBrace text more, ?_⟩⟩
  rw [← hsame]
  exact ScanState.rounds_eq safe_noSkip text more

/-- Behind five opening braces the scan is done after three rounds, the plain scan after five. -/
example :
    ScanState.start.rounds skipToLastBrace (List.replicate 5 '{' ++ ['x', '}', '}']) 3 =
        ⟨none, [⟨3, 8⟩]⟩ ∧
      ScanState.start.rounds noSkip (List.replicate 5 '{' ++ ['x', '}', '}']) 5 =
        ⟨none, [⟨3, 8⟩]⟩ := by
  decide

end Stencil
