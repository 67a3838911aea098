import Stencil.Marker.Form
import Stencil.Proofs.Marker.Shape

/-!
# `Stencil.Proofs.Marker.Form` — what a marker says, without its patterns

The three forms of a marker are patterns that are tried in order, and a pattern takes as much as it can
before it gives back.  What this comes to is said here of the body of the marker alone (`Declares`).
Only the condition shows that something is given back: the blanks behind the word *if* take all that
they can, and if nothing but blanks follows, the last of them is given back and is the condition.

## Contents
- **Patterns.** `Takes`, the first match of a repeated item, and `wholeMatch?_many_eq_some_iff`.
- **Values.** `IsName` and `IsCondition`.
- **Forms.** `Declares`, and **`classifyMarker_eq_some_iff`**.
-/

namespace Stencil

/-! ## Patterns -/

namespace Pattern

/-- **What is tried from the longest down** is the longest that will do. -/
theorem findSome?_reverse_range_eq_some_iff {β : Type} {f : Nat → Option β} {n : Nat} {b : β} :
    (List.range n).reverse.findSome? f = some b ↔
      ∃ k, k < n ∧ f k = some b ∧ ∀ j, k < j → j < n → f j = none := by
  induction n with
  | zero => simp
  | succ n ih =>
    rw [List.range_succ, List.reverse_append, List.reverse_singleton, List.singleton_append,
      List.findSome?_cons]
    cases hlast : f n with
    | some b' =>
      constructor
      · intro h
        exact ⟨n, Nat.lt_succ_self n, hlast.trans h, fun j hj hjn => by omega⟩
      · rintro ⟨k, hk, hb, hlonger⟩
        rcases Nat.lt_succ_iff_lt_or_eq.1 hk with hkn | rfl
        · exact absurd (hlonger n hkn (Nat.lt_succ_self n)) (by simp [hlast])
        · exact hlast.symm.trans hb
    | none =>
      rw [ih]
      constructor
      · rintro ⟨k, hk, hb, hlonger⟩
        refine ⟨k, Nat.lt_succ_of_lt hk, hb, fun j hj hjn => ?_⟩
        rcases Nat.lt_succ_iff_lt_or_eq.1 hjn with hjn | rfl
        · exact hlonger j hj hjn
        · exact hlast
      · rintro ⟨k, hk, hb, hlonger⟩
        rcases Nat.lt_succ_iff_lt_or_eq.1 hk with hkn | rfl
        · exact ⟨k, hkn, hb, fun j hj hjn => hlonger j hj (Nat.lt_succ_of_lt hjn)⟩
        · exact absurd hb (by simp [hlast])

/-- The characters of a class reach over a beginning of a text exactly if all of it is in the class. -/
theorem length_le_takeWhile_append_iff {p : Char → Bool} {taken : Text} (rest : Text) :
    taken.length ≤ ((taken ++ rest).takeWhile p).length ↔ ∀ c ∈ taken, p c = true := by
  induction taken with
  | nil => simp
  | cons a taken ih =>
    rw [List.cons_append, List.forall_mem_cons]
    by_cases ha : p a = true
    · rw [List.takeWhile_cons_of_pos ha, List.length_cons, List.length_cons, Nat.succ_le_succ_iff, ih]
      exact (and_iff_right ha).symm
    · rw [List.takeWhile_cons_of_neg ha]
      simp [ha]

/-- **The first match of a repeated item**: it takes a beginning of the text such that the rest of the
pattern matches what is left, and it would not match what is left if more were taken. -/
structure Takes (allowed : Char → Bool) (items : List Item) (text taken rest found : Text) : Prop where
  whole : text = taken ++ rest
  ne_nil : taken ≠ []
  all_allowed : ∀ c ∈ taken, allowed c = true
  matched : wholeMatch? items rest = some found
  longest : ∀ more left, rest = more ++ left → more ≠ [] → (∀ c ∈ more, allowed c = true) →
    wholeMatch? items left = none

/-- A repeated item makes the first match that there is. -/
theorem wholeMatch?_many_eq_some_iff {allowed : Char → Bool} {kept : Bool} {items : List Item}
    {text value : Text} :
    wholeMatch? (.many allowed kept :: items) text = some value ↔
      ∃ taken rest found, Takes allowed items text taken rest found ∧
        value = if kept then taken ++ found else found := by
  rw [wholeMatch?, findSome?_reverse_range_eq_some_iff]
  have hmost : (text.takeWhile allowed).length ≤ text.length :=
    (List.takeWhile_prefix allowed).length_le
  constructor
  · rintro ⟨k, hk, hvalue, hlonger⟩
    obtain ⟨found, hfound, rfl⟩ := Option.map_eq_some_iff.1 hvalue
    obtain ⟨taken, rest, rfl, hsize⟩ : ∃ taken rest, text = taken ++ rest ∧ taken.length = k + 1 :=
      ⟨text.take (k + 1), text.drop (k + 1), (List.take_append_drop _ _).symm,
        List.length_take_of_le (Nat.le_trans hk hmost)⟩
    rw [← hsize, List.drop_left] at hfound
    have hallowed : ∀ c ∈ taken, allowed c = true :=
      (length_le_takeWhile_append_iff rest).1 (Nat.le_trans (Nat.le_of_eq hsize) hk)
    refine ⟨taken, rest, found, ⟨rfl, List.ne_nil_of_length_eq_add_one hsize, hallowed, hfound, ?_⟩,
      by rw [← hsize, List.take_left]⟩
    rintro more left rfl hmore hmoreAllowed
    -- taking `more` as well is the choice of a larger number
    have hlarger : (taken ++ more).length = k + more.length + 1 := by
      rw [List.length_append, hsize]
      omega
    rw [← List.append_assoc] at hlonger
    have hreach := (length_le_takeWhile_append_iff left).2
      (List.forall_mem_append.2 ⟨hallowed, hmoreAllowed⟩)
    have hnone := hlonger (k + more.length) (Nat.lt_add_of_pos_right (List.length_pos_iff.2 hmore))
      (Nat.lt_of_lt_of_le (by omega) hreach)
    rw [← hlarger, List.drop_left, Option.map_eq_none_iff] at hnone
    exact hnone
  · rintro ⟨taken, rest, found, ⟨rfl, hnil, hallowed, hmatched, hlongest⟩, rfl⟩
    have hpos := List.length_pos_iff.2 hnil
    have hsize : taken.length - 1 + 1 = taken.length := Nat.sub_add_cancel hpos
    refine ⟨taken.length - 1, ?_, ?_, ?_⟩
    · have := (length_le_takeWhile_append_iff rest).2 hallowed
      omega
    · rw [hsize, List.drop_left, List.take_left, hmatched]
      rfl
    · intro j hj hjmost
      have hjlength : j + 1 ≤ taken.length + rest.length :=
        Nat.le_trans hjmost (Nat.le_trans hmost (Nat.le_of_eq List.length_append))
      obtain ⟨more, left, rfl, hmore⟩ :
          ∃ more left, rest = more ++ left ∧ more.length = j + 1 - taken.length :=
        ⟨rest.take (j + 1 - taken.length), rest.drop (j + 1 - taken.length),
          (List.take_append_drop _ _).symm, List.length_take_of_le (by omega)⟩
      have hlarger : j + 1 = (taken ++ more).length := by rw [List.length_append]; omega
      have hreach := Nat.le_trans (Nat.le_of_eq hlarger.symm) hjmost
      rw [← List.append_assoc] at hreach
      rw [← List.append_assoc, hlarger, List.drop_left, Option.map_eq_none_iff]
      refine hlongest more left rfl (List.length_pos_iff.1 (by omega)) ?_
      exact (List.forall_mem_append.1 ((length_le_takeWhile_append_iff left).1 hreach)).2

/-- Given characters match themselves. -/
theorem wholeMatch?_chars_eq_some_iff {cs : Text} {items : List Item} {text value : Text} :
    wholeMatch? (cs.map .char ++ items) text = some value ↔
      ∃ rest, text = cs ++ rest ∧ wholeMatch? items rest = some value := by
  induction cs generalizing text with
  | nil => simp
  | cons c cs ih =>
    cases text with
    | nil => simp [wholeMatch?]
    | cons x text =>
      rw [List.map_cons, List.cons_append, wholeMatch?]
      by_cases hx : x = c
      · rw [if_pos hx, ih, hx]
        simp
      · rw [if_neg hx]
        simp [hx]

/-- A word matches itself only. -/
theorem wholeMatch?_word_eq_some_iff {s : String} {text value : Text} :
    wholeMatch? (word s) text = some value ↔ text = Text.of s ∧ value = [] := by
  rw [word, ← List.append_nil (List.map Item.char _), wholeMatch?_chars_eq_some_iff]
  constructor
  · rintro ⟨rest, rfl, h⟩
    cases rest with
    | nil => exact ⟨List.append_nil _, (Option.some.inj h).symm⟩
    | cons c rest => exact absurd h (by simp [wholeMatch?])
  · rintro ⟨rfl, rfl⟩
    exact ⟨[], (List.append_nil _).symm, rfl⟩

/-- A kept item before a last word keeps all that stands before the word. -/
theorem wholeMatch?_kept_eq_some_iff {allowed : Char → Bool} {s : String} {text value : Text} :
    wholeMatch? (.many allowed true :: word s) text = some value ↔
      text = value ++ Text.of s ∧ value ≠ [] ∧ ∀ c ∈ value, allowed c = true := by
  rw [wholeMatch?_many_eq_some_iff]
  constructor
  · rintro ⟨taken, rest, found, h, rfl⟩
    obtain ⟨hrest, hfound⟩ := wholeMatch?_word_eq_some_iff.1 h.matched
    rw [hfound, if_pos rfl, List.append_nil]
    exact ⟨hrest ▸ h.whole, h.ne_nil, h.all_allowed⟩
  · rintro ⟨hwhole, hnil, hallowed⟩
    refine ⟨value, Text.of s, [], ⟨hwhole, hnil, hallowed,
      wholeMatch?_word_eq_some_iff.2 ⟨rfl, rfl⟩, ?_⟩, by simp⟩
    intro more left hsplit hmore _
    -- behind a part of the word the whole word does not stand
    cases hleft : wholeMatch? (word s) left with
    | none => rfl
    | some _ =>
      have hlength := congrArg List.length hsplit
      rw [(wholeMatch?_word_eq_some_iff.1 hleft).1, List.length_append] at hlength
      have := List.length_pos_iff.2 hmore
      omega

end Pattern

/-! ## Values -/

/-- What a variable may be called. -/
structure IsName (name : Text) : Prop where
  ne_nil : name ≠ []
  no_opening : '{' ∉ name
  no_closing : '}' ∉ name
  no_blank : ∀ c ∈ name, isBlank c = false
  ne_endif : name ≠ Text.of "endif"

/-- What a condition may be.  It begins with a blank only if it is that blank alone. -/
structure IsCondition (condition : Text) : Prop where
  ne_nil : condition ≠ []
  no_opening : '{' ∉ condition
  no_closing : '}' ∉ condition
  blank_alone : ∀ c rest, condition = c :: rest → isBlank c = true → rest = []

/-- Blanks that may stand before a condition. -/
structure IsGap (blanks : Text) : Prop where
  ne_nil : blanks ≠ []
  all_blank : ∀ c ∈ blanks, isBlank c = true

/-- Something without braces can be the body of a marker. -/
theorem isBody_of_no_brace {body : Text} (hnil : body ≠ []) (hopening : '{' ∉ body)
    (hclosing : '}' ∉ body) : IsBody body := by
  refine ⟨hnil, hopening, ?_, ?_⟩
  · intro hpair
    exact hclosing (hpair.subset List.mem_cons_self)
  · intro hlast
    exact hclosing (List.mem_of_getLast? hlast)

theorem IsName.isBody {name : Text} (h : IsName name) : IsBody name :=
  isBody_of_no_brace h.ne_nil h.no_opening h.no_closing

/-! ## Forms -/

/-- **What the body of a marker says**: the kind of the token, and its value. -/
inductive Declares : Text → TokenKind → Text → Prop where
  | opening {blanks condition : Text} (hblanks : IsGap blanks) (hcondition : IsCondition condition) :
      Declares (Text.of "if" ++ (blanks ++ condition)) .ifOpen condition
  | closing : Declares (Text.of "endif") .endif []
  | naming {name : Text} (hname : IsName name) : Declares name .variable name

section Forms

open Pattern

variable {body value : Text}

/-- A form begins with two opening braces; what it has behind them begins the body. -/
theorem wholeMatch?_braced_iff (s : String) (front : Text) {items : List Item}
    (hs : Text.of s = '{' :: '{' :: front) :
    wholeMatch? (word s ++ items) (braced body) = some value ↔
      ∃ rest, body ++ Text.of "\x7d\x7d" = front ++ rest ∧ wholeMatch? items rest = some value := by
  have hfront (rest : Text) : braced body = s.toList ++ rest ↔
      body ++ Text.of "\x7d\x7d" = front ++ rest := by
    show braced body = Text.of s ++ rest ↔ _
    rw [hs, braced, List.cons_append, List.cons_append, List.cons.injEq, List.cons.injEq]
    exact (and_iff_right rfl).trans (and_iff_right rfl)
  rw [word, wholeMatch?_chars_eq_some_iff]
  simp only [hfront]

/-- What stands behind the word *if* is a gap and a value.  The gap takes all blanks that it can, so the
value begins with a blank only if nothing else was left for it. -/
theorem takes_gap_iff {text blanks left : Text} :
    Takes isBlank (.many (· != '}') true :: word "\x7d\x7d") text blanks left value ↔
      text = blanks ++ left ∧ left = value ++ Text.of "\x7d\x7d" ∧ IsGap blanks ∧ value ≠ [] ∧
        '}' ∉ value ∧ ∀ c rest, value = c :: rest → isBlank c = true → rest = [] := by
  have hbraces : (∀ c ∈ value, (c != '}') = true) ↔ '}' ∉ value := by
    simp only [bne_iff_ne]
    exact ⟨fun h hmem => h '}' hmem rfl, fun h c hc hbrace => h (hbrace ▸ hc)⟩
  constructor
  · intro h
    obtain ⟨hleft, hnil, hclosing⟩ := wholeMatch?_kept_eq_some_iff.1 h.matched
    refine ⟨h.whole, hleft, ⟨h.ne_nil, h.all_allowed⟩, hnil, hbraces.1 hclosing, ?_⟩
    rintro c more rfl hc
    -- if more follows, the blank could have been taken with those before it
    refine List.eq_nil_iff_forall_not_mem.2 fun d hd => ?_
    have hnone := h.longest [c] (more ++ Text.of "\x7d\x7d") hleft (List.cons_ne_nil c [])
      (List.forall_mem_singleton.2 hc)
    rw [wholeMatch?_kept_eq_some_iff.2 ⟨rfl, List.ne_nil_of_mem hd,
      fun e he => hclosing e (List.mem_cons_of_mem c he)⟩] at hnone
    exact absurd hnone (by simp)
  · rintro ⟨hwhole, hleft, hblanks, hnil, hclosing, hblank⟩
    refine ⟨hwhole, hblanks.ne_nil, hblanks.all_blank,
      wholeMatch?_kept_eq_some_iff.2 ⟨hleft, hnil, hbraces.2 hclosing⟩, ?_⟩
    intro more rest hsplit hmore hmoreBlank
    refine Option.eq_none_iff_forall_ne_some.2 fun shorter hshorter => ?_
    -- a shorter value would stand behind a blank at the beginning of this one
    obtain ⟨rfl, hshorterNil, _⟩ := wholeMatch?_kept_eq_some_iff.1 hshorter
    rw [hleft, ← List.append_assoc] at hsplit
    have hvalue : value = more ++ shorter := List.append_cancel_right hsplit
    cases more with
    | nil => exact hmore rfl
    | cons c more =>
      have hrest := hblank c (more ++ shorter) hvalue (hmoreBlank c List.mem_cons_self)
      exact hshorterNil (List.append_eq_nil_iff.1 hrest).2

/-- **The form that opens a condition.** -/
theorem opening_form_iff (hbody : IsBody body) :
    wholeMatch? (word "\x7b\x7bif" ++ [.many isBlank false, .many (· != '}') true] ++
        word "\x7d\x7d") (braced body) = some value ↔
      ∃ blanks, body = Text.of "if" ++ (blanks ++ value) ∧ IsGap blanks ∧ IsCondition value := by
  rw [List.append_assoc, wholeMatch?_braced_iff _ (Text.of "if") rfl, List.cons_append,
    List.cons_append, List.nil_append]
  constructor
  · rintro ⟨rest, hrest, hmatch⟩
    obtain ⟨blanks, left, _, htakes, rfl⟩ := wholeMatch?_many_eq_some_iff.1 hmatch
    obtain ⟨rfl, rfl, hblanks, hnil, hclosing, hblank⟩ := takes_gap_iff.1 htakes
    have hwhole : body = Text.of "if" ++ (blanks ++ value) := by
      apply List.append_cancel_right
      rw [hrest, List.append_assoc, List.append_assoc]
    refine ⟨blanks, hwhole, hblanks, hnil, fun hopening => ?_, hclosing, hblank⟩
    exact hbody.no_opening (by rw [hwhole]; simp [hopening])
  · rintro ⟨blanks, rfl, hblanks, hcondition⟩
    refine ⟨blanks ++ (value ++ Text.of "\x7d\x7d"), by simp, ?_⟩
    have htakes := takes_gap_iff.2 ⟨rfl, rfl, hblanks, hcondition.ne_nil, hcondition.no_closing,
      hcondition.blank_alone⟩
    exact wholeMatch?_many_eq_some_iff.2 ⟨blanks, _, value, htakes, rfl⟩

/-- The form that closes a condition. -/
theorem closing_form_iff :
    wholeMatch? (word "\x7b\x7bendif\x7d\x7d") (braced body) = some value ↔
      body = Text.of "endif" ∧ value = [] := by
  have hword : Text.of "\x7b\x7bendif\x7d\x7d" = braced (Text.of "endif") := rfl
  rw [wholeMatch?_word_eq_some_iff, hword, braced, braced, List.cons.injEq, List.cons.injEq,
    List.append_left_inj]
  simp

/-- The form that names a variable. -/
theorem naming_form_iff :
    wholeMatch? (word "\x7b\x7b" ++ [.many (fun c => c != '}' && !isBlank c) true] ++
        word "\x7d\x7d") (braced body) = some value ↔
      body = value ∧ value ≠ [] ∧ '}' ∉ value ∧ ∀ c ∈ value, isBlank c = false := by
  rw [List.append_assoc, wholeMatch?_braced_iff _ [] rfl, List.cons_append, List.nil_append]
  constructor
  · rintro ⟨rest, hrest, hmatch⟩
    obtain ⟨rfl, hnil, hallowed⟩ := wholeMatch?_kept_eq_some_iff.1 hmatch
    refine ⟨List.append_cancel_right hrest, hnil, fun hmem => ?_, fun c hc => ?_⟩
    · exact absurd (hallowed _ hmem) (by simp)
    · simpa using (Bool.and_eq_true_iff.1 (hallowed c hc)).2
  · rintro ⟨rfl, hnil, hclosing, hblank⟩
    refine ⟨body ++ Text.of "\x7d\x7d", rfl, wholeMatch?_kept_eq_some_iff.2 ⟨rfl, hnil, ?_⟩⟩
    intro c hc
    rw [hblank c hc, Bool.not_false, Bool.and_true]
    exact bne_iff_ne.2 fun hbrace => hclosing (hbrace ▸ hc)

end Forms

/-- The two words differ at their first letter. -/
theorem endif_ne_if_append (rest : Text) : Text.of "endif" ≠ Text.of "if" ++ rest := by
  intro h
  have hhead : some 'e' = some 'i' := congrArg List.head? h
  exact absurd hhead (by decide)

/-- A name has no blank that could stand behind a word. -/
theorem IsName.ne_if_append {name : Text} (h : IsName name) {blanks : Text} (hblanks : IsGap blanks)
    (rest : Text) : name ≠ Text.of "if" ++ (blanks ++ rest) := by
  intro hname
  obtain ⟨c, hc⟩ := List.exists_mem_of_ne_nil blanks hblanks.ne_nil
  have hmem : c ∈ name := by rw [hname]; simp [hc]
  exact absurd (hblanks.all_blank c hc) (by simp [h.no_blank c hmem])

/-- **A marker is classified by what its body says.**  The only body that two forms match is the word
*endif*, and as a name it is tried last. -/
theorem classifyMarker_eq_some_iff {body value : Text} {kind : TokenKind} (hbody : IsBody body) :
    classifyMarker (braced body) = some (kind, value) ↔ Declares body kind value := by
  have hopening := fun v => @opening_form_iff body v hbody
  have hclosing := fun v => @closing_form_iff body v
  have hnaming := fun v => @naming_form_iff body v
  simp only [classifyMarker, markerForms, List.findSome?_cons, List.findSome?_nil]
  -- from here on it matters only which of the three forms match
  revert hopening hclosing hnaming
  generalize Pattern.wholeMatch? _ (braced body) = opened
  generalize Pattern.wholeMatch? _ (braced body) = closed
  generalize Pattern.wholeMatch? _ (braced body) = named
  intro hopening hclosing hnaming
  constructor
  · intro h
    cases opened with
    | some v =>
      obtain ⟨blanks, rfl, hblanks, hcondition⟩ := (hopening v).1 rfl
      cases h
      exact .opening hblanks hcondition
    | none =>
      cases closed with
      | some v =>
        obtain ⟨rfl, rfl⟩ := (hclosing v).1 rfl
        cases h
        exact .closing
      | none =>
        cases named with
        | some v =>
          obtain ⟨rfl, hnil, hbrace, hblank⟩ := (hnaming v).1 rfl
          cases h
          refine .naming ⟨hnil, hbody.no_opening, hbrace, hblank, fun hendif => ?_⟩
          exact absurd ((hclosing []).2 ⟨hendif, rfl⟩) (by simp)
        | none => exact absurd h (by simp)
  · intro h
    cases h with
    | opening hblanks hcondition => rw [(hopening value).2 ⟨_, rfl, hblanks, hcondition⟩]; rfl
    | closing =>
      have hopened : opened = none := by
        refine Option.eq_none_iff_forall_ne_some.2 fun v hv => ?_
        obtain ⟨blanks, hwhole, _⟩ := (hopening v).1 hv
        exact endif_ne_if_append _ hwhole
      rw [hopened, (hclosing []).2 ⟨rfl, rfl⟩]
      rfl
    | naming hname =>
      have hopened : opened = none := by
        refine Option.eq_none_iff_forall_ne_some.2 fun v hv => ?_
        obtain ⟨blanks, hwhole, hblanks, _⟩ := (hopening v).1 hv
        exact hname.ne_if_append hblanks v hwhole
      have hclosed : closed = none :=
        Option.eq_none_iff_forall_ne_some.2 fun v hv => hname.ne_endif ((hclosing v).1 hv).1
      rw [hopened, hclosed, (hnaming body).2 ⟨rfl, hname.ne_nil, hname.no_closing, hname.no_blank⟩]
      rfl

end Stencil
