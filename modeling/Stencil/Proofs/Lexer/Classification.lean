import Mathlib.Data.List.TakeWhile
import Stencil.Proofs.Lexer.Partition

/-!
# `Stencil.Proofs.Lexer.Classification` — the forms of markers, told by their bodies

The forms of a marker are patterns that are tried in order, and a pattern may give back what it has
taken.  Here the forms are told by the body alone, without any order and without giving back: three
conditions of which no two hold together (`Opens`, `Closes`, `Names`).  A body that meets none of them
makes no token, and is reported once, where its marker begins.

What remains of giving back is the case distinction in `OpensBehind`: behind the word *if* all blanks
belong to the gap, unless nothing else follows; then the last of them is the condition.

## Contents
- **The three conditions.** `OpensBehind`, `Opens`, `Closes` and `Names`.
- **Forms and conditions.** What opens a condition is a gap and the condition behind it
  (`OpensBehind.of_gap`, `OpensBehind.exists_gap`); what `Declares` says of each kind.
- **`Classified`** and **`exists_classified`**.
-/

namespace Stencil

/-! ## The three conditions -/

/-- **A text behind the word *if* opens a condition** of this value: it begins with a blank and holds no
closing brace.  If it is not all blank, its value is what follows the blanks at its beginning; if it is,
it has two blanks at least, and its value is the last of them. -/
structure OpensBehind (rest value : Text) : Prop where
  no_closing : '}' ∉ rest
  blank_first : ∃ c more, rest = c :: more ∧ isBlank c = true
  value_eq : ((∃ c ∈ rest, isBlank c = false) ∧ value = rest.dropWhile isBlank) ∨
    ((∀ c ∈ rest, isBlank c = true) ∧ 2 ≤ rest.length ∧ ∃ c, rest.getLast? = some c ∧ value = [c])

/-- A body opens a condition of this value. -/
def Opens (body value : Text) : Prop :=
  ∃ rest, body = Text.of "if" ++ rest ∧ OpensBehind rest value

/-- A body closes a condition. -/
def Closes (body : Text) : Prop :=
  body = Text.of "endif"

/-- A body names a variable, which is the body itself. -/
structure Names (body : Text) : Prop where
  no_blank : ∀ c ∈ body, isBlank c = false
  no_closing : '}' ∉ body
  not_closes : ¬ Closes body

/-! ## Forms and conditions -/

section Forms

variable {rest body value : Text}

/-- A gap and a condition behind it open a condition. -/
theorem OpensBehind.of_gap {blanks : Text} (hblanks : IsGap blanks) (hvalue : IsCondition value) :
    OpensBehind (blanks ++ value) value := by
  obtain ⟨b, more, rfl⟩ := List.exists_cons_of_ne_nil hblanks.ne_nil
  obtain ⟨c, tail, rfl⟩ := List.exists_cons_of_ne_nil hvalue.ne_nil
  refine ⟨?_, ⟨b, more ++ c :: tail, rfl, hblanks.all_blank b List.mem_cons_self⟩, ?_⟩
  · intro hmem
    rcases List.mem_append.1 hmem with hmem | hmem
    · have hblank := hblanks.all_blank _ hmem
      rw [not_isBlank_brace.2] at hblank
      exact absurd hblank Bool.false_ne_true
    · exact hvalue.no_closing hmem
  · by_cases hc : isBlank c = true
    · -- nothing but blanks: the condition is the last of them
      obtain rfl := hvalue.blank_alone c tail rfl hc
      refine .inr ⟨?_, ?_, c, List.getLast?_concat, rfl⟩
      · exact List.forall_mem_append.2 ⟨hblanks.all_blank, List.forall_mem_singleton.2 hc⟩
      · simp
    · refine .inl ⟨⟨c, by simp, Bool.eq_false_iff.2 hc⟩, ?_⟩
      rw [List.dropWhile_append_of_pos hblanks.all_blank, List.dropWhile_cons_of_neg hc]

/-- What opens a condition is a gap and the condition behind it. -/
theorem OpensBehind.exists_gap (h : OpensBehind rest value) (hopening : '{' ∉ rest) :
    ∃ blanks, rest = blanks ++ value ∧ IsGap blanks ∧ IsCondition value := by
  obtain ⟨first, more, hfirst, hblank⟩ := h.blank_first
  rcases h.value_eq with ⟨⟨c, hc, hshown⟩, rfl⟩ | ⟨hall, hlength, c, hlast, rfl⟩
  · have hsub : ∀ d ∈ rest.dropWhile isBlank, d ∈ rest := fun d hd =>
      (List.dropWhile_suffix isBlank).subset hd
    refine ⟨rest.takeWhile isBlank, List.takeWhile_append_dropWhile.symm, ⟨?_, ?_⟩, ?_⟩
    · rw [hfirst, List.takeWhile_cons_of_pos hblank]
      exact List.cons_ne_nil _ _
    · intro d hd
      exact List.mem_takeWhile_imp hd
    · refine ⟨?_, fun hd => hopening (hsub _ hd), fun hd => h.no_closing (hsub _ hd), ?_⟩
      · intro hnil
        have hblanks := List.dropWhile_eq_nil_iff.1 hnil c hc
        rw [hshown] at hblanks
        exact absurd hblanks Bool.false_ne_true
      · intro d tail hd hdblank
        -- what follows the blanks does not begin with one
        have hhead := List.head?_dropWhile_not isBlank rest
        rw [hd] at hhead
        simp only [List.head?_cons] at hhead
        rw [hdblank] at hhead
        exact absurd hhead (by simp)
  · obtain ⟨blanks, rfl⟩ := List.getLast?_eq_some_iff.1 hlast
    have hc : isBlank c = true := hall c (by simp)
    refine ⟨blanks, rfl, ⟨?_, ?_⟩, ?_⟩
    · intro hnil
      rw [hnil] at hlength
      simp at hlength
    · intro d hd
      exact hall d (List.mem_append_left _ hd)
    · refine ⟨List.cons_ne_nil _ _, fun hd => hopening (List.mem_append_right _ hd),
        fun hd => h.no_closing (List.mem_append_right _ hd), ?_⟩
      intro d tail hd _
      exact (List.cons.inj hd).2.symm

/-- **A body is of the form that opens a condition** exactly if it opens one. -/
theorem declares_ifOpen_iff (hbody : IsBody body) : Declares body .ifOpen value ↔ Opens body value := by
  constructor
  · intro h
    cases h with
    | opening hblanks hcondition => exact ⟨_, rfl, .of_gap hblanks hcondition⟩
  · rintro ⟨rest, rfl, h⟩
    have hopening : '{' ∉ rest := fun hmem => hbody.no_opening (List.mem_append_right _ hmem)
    obtain ⟨blanks, rfl, hblanks, hcondition⟩ := h.exists_gap hopening
    exact .opening hblanks hcondition

/-- A body is of the form that closes a condition exactly if it closes one. -/
theorem declares_endif_iff : Declares body .endif value ↔ Closes body ∧ value = [] := by
  constructor
  · intro h
    cases h with
    | closing => exact ⟨rfl, rfl⟩
  · rintro ⟨hcloses, rfl⟩
    rw [hcloses]
    exact .closing

/-- A body is of the form that names a variable exactly if it names one. -/
theorem declares_variable_iff (hbody : IsBody body) :
    Declares body .variable value ↔ Names body ∧ value = body := by
  constructor
  · intro h
    cases h with
    | naming hname => exact ⟨⟨hname.no_blank, hname.no_closing, hname.ne_endif⟩, rfl⟩
  · rintro ⟨hnames, rfl⟩
    exact .naming ⟨hbody.ne_nil, hbody.no_opening, hnames.no_closing, hnames.no_blank,
      hnames.not_closes⟩

end Forms

/-! ## The classification -/

/-- **How the marker at a span is classified**, told by its body, and what a lexer makes of it. -/
structure Classified (text : Text) (span : Span) (body : Text) : Prop where
  /-- It opens a condition exactly if its body does, and of the same value. -/
  opening : ∀ value, classifyMarker (span.slice text) = some (.ifOpen, value) ↔ Opens body value
  /-- It closes a condition exactly if its body does. -/
  closing : ∀ value,
    classifyMarker (span.slice text) = some (.endif, value) ↔ Closes body ∧ value = []
  /-- It names a variable exactly if its body does, and then its body is the name. -/
  naming : ∀ value,
    classifyMarker (span.slice text) = some (.variable, value) ↔ Names body ∧ value = body
  /-- It is of no known form exactly in all other cases. -/
  unknown : classifyMarker (span.slice text) = none ↔
    (∀ value, ¬ Opens body value) ∧ ¬ Closes body ∧ ¬ Names body
  /-- A marker of a known form gives one token, where it begins, and no report. -/
  made : ∀ kind value, classifyMarker (span.slice text) = some (kind, value) →
    madeAt text span = ([⟨kind, value, Place.at text span.start⟩], [])
  /-- Any other marker gives no token, and one report, where it begins. -/
  dropped : classifyMarker (span.slice text) = none →
    madeAt text span =
      ([], [Diagnostic.unknownMarker (span.slice text) (Place.at text span.start)])
  /-- The value of a condition is some text without braces, which begins with a blank only if it is that
  blank alone. -/
  condition : ∀ value, Opens body value → IsCondition value

/-- **Every marker of a text is classified by its body.** -/
theorem exists_classified (text : Text) (span : Span) (h : span ∈ markerSpans text) :
    ∃ body, IsBody body ∧ span.slice text = braced body ∧ Classified text span body := by
  obtain ⟨_, body, hbody, hslice⟩ := mem_markerSpans_iff.1 h
  have hforms (kind : TokenKind) (value : Text) :
      classifyMarker (span.slice text) = some (kind, value) ↔ Declares body kind value := by
    rw [hslice]
    exact classifyMarker_eq_some_iff hbody
  have hopening (value : Text) := (hforms .ifOpen value).trans (declares_ifOpen_iff hbody)
  have hclosing (value : Text) := (hforms .endif value).trans declares_endif_iff
  have hnaming (value : Text) := (hforms .variable value).trans (declares_variable_iff hbody)
  have hmade := madeAt_eq h
  refine ⟨body, hbody, hslice, hopening, hclosing, hnaming, ?_, ?_, ?_, ?_⟩
  · constructor
    · intro hnone
      refine ⟨fun value hopens => ?_, fun hcloses => ?_, fun hnames => ?_⟩
      · rw [(hopening value).2 hopens] at hnone
        exact absurd hnone (by simp)
      · rw [(hclosing []).2 ⟨hcloses, rfl⟩] at hnone
        exact absurd hnone (by simp)
      · rw [(hnaming body).2 ⟨hnames, rfl⟩] at hnone
        exact absurd hnone (by simp)
    · rintro ⟨hopens, hcloses, hnames⟩
      refine Option.eq_none_iff_forall_ne_some.2 ?_
      rintro ⟨kind, value⟩ hform
      have hdeclares := (hforms kind value).1 hform
      cases kind with
      | text => exact hdeclares.kind_ne_text rfl
      | ifOpen => exact hopens value ((hopening value).1 hform)
      | endif => exact hcloses ((hclosing value).1 hform).1
      | «variable» => exact hnames ((hnaming value).1 hform).1
  · intro kind value hform
    rw [hmade, hform]
  · intro hnone
    rw [hmade, hnone]
  · intro value hopens
    cases (declares_ifOpen_iff hbody).2 hopens with
    | opening _ hcondition => exact hcondition

/-- Behind the word *if* stand a line feed and a no-break space, and nothing else: the space is the
condition. -/
theorem exists_classified_blank_condition :
    let text := ['{'] ++ braced (Text.of "if\n\u00a0") ++ ['}']
    let span : Span := ⟨1, 9⟩
    span ∈ markerSpans text ∧
      (∃ body, IsBody body ∧ span.slice text = braced body ∧ Classified text span body) ∧
      classifyMarker (span.slice text) = some (.ifOpen, ['\u00a0']) := by
  intro text span
  have hspan : span ∈ markerSpans text := by decide +kernel
  exact ⟨hspan, exists_classified text span hspan, by decide +kernel⟩

end Stencil
