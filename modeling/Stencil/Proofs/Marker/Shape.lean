import Stencil.Marker.Span

/-!
# `Stencil.Proofs.Marker.Shape` — the markers of a text, without a scan

What is a marker is said of a piece of text alone (`IsMarker`).  Two markers of one text never overlap
(`IsMarker.apart`): a body holds no opening brace, so no marker begins inside another one, and it ends
at the first two closing braces, so no two markers begin at the same place.  This is all that the scan
needs, and it is the reason why the text around a marker does not matter.

## Contents
- **Searches.** `splitAtPair` finds the first pair (`splitAtPair_eq_some_iff`).
- **Markers.** `IsBody`, `IsMarker`, `MarkerFree`.
- **No overlap.** `IsMarker.apart`, and what it says of a first marker (`MarkerFree.first_unique`).
-/

namespace Stencil

/-! ## Searches -/

namespace Text

/-- The head of a text makes a pair with what follows, or the pair lies further on. -/
theorem pair_infix_cons {c a b : Char} {rest : Text} :
    [c, c] <:+: a :: b :: rest ↔ (a = c ∧ b = c) ∨ [c, c] <:+: b :: rest := by
  rw [List.infix_cons_iff, List.cons_prefix_cons, List.cons_prefix_cons]
  simp only [List.nil_prefix, and_true]
  exact or_congr_left (and_congr eq_comm eq_comm)

/-- Another character in front makes no pair. -/
theorem pair_infix_cons_of_ne {c a : Char} {rest : Text} (h : c ≠ a) :
    [c, c] <:+: a :: rest ↔ [c, c] <:+: rest := by
  rw [List.infix_cons_iff, List.cons_prefix_cons]
  exact or_iff_right (fun hp => h hp.1)

/-- A text of a single character has no pair. -/
theorem not_pair_infix_singleton {c a : Char} : ¬ [c, c] <:+: [a] := by
  intro h
  have := h.length_le
  simp at this

/-- **`splitAtPair` cuts at the first pair**: no pair ends before the cut, nor across it. -/
theorem splitAtPair_eq_some_iff {c : Char} {s before after : Text} :
    splitAtPair c s = some (before, after) ↔
      s = before ++ c :: c :: after ∧ ¬ [c, c] <:+: before ++ [c] := by
  fun_induction splitAtPair c s generalizing before with
  | case1 a b rest hab =>
    obtain ⟨rfl, rfl⟩ := hab
    constructor
    · intro h
      obtain ⟨rfl, rfl⟩ := Prod.mk.inj (Option.some.inj h)
      exact ⟨rfl, not_pair_infix_singleton⟩
    · rintro ⟨h, hfirst⟩
      rcases before with _ | ⟨x, _ | ⟨y, before⟩⟩
      · simp_all
      · simp only [List.cons_append, List.nil_append, List.cons.injEq] at h
        exact absurd (pair_infix_cons.2 (.inl ⟨h.1.symm, rfl⟩)) hfirst
      · simp only [List.cons_append, List.cons.injEq] at h
        exact absurd (pair_infix_cons.2 (.inl ⟨h.1.symm, h.2.1.symm⟩)) hfirst
  | case2 a b rest hab ih =>
    rw [Option.map_eq_some_iff]
    constructor
    · rintro ⟨⟨p, q⟩, hpq, heq⟩
      obtain ⟨rfl, rfl⟩ := Prod.mk.inj heq
      obtain ⟨hrest, hfirst⟩ := ih.1 hpq
      refine ⟨by rw [hrest]; rfl, ?_⟩
      cases p with
      | nil =>
        rw [List.nil_append, List.cons.injEq] at hrest
        intro hpair
        rcases pair_infix_cons.1 hpair with h | h
        · exact hab ⟨h.1, hrest.1⟩
        · exact not_pair_infix_singleton h
      | cons y p =>
        rw [List.cons_append, List.cons.injEq] at hrest
        intro hpair
        rcases pair_infix_cons.1 hpair with h | h
        · exact hab ⟨h.1, hrest.1.trans h.2⟩
        · exact hfirst h
    · rintro ⟨h, hfirst⟩
      cases before with
      | nil =>
        simp only [List.nil_append, List.cons.injEq] at h
        exact absurd ⟨h.1, h.2.1⟩ hab
      | cons x before =>
        obtain ⟨rfl, hrest⟩ := List.cons.inj h
        have hpair : ¬ [c, c] <:+: before ++ [c] :=
          fun hp => hfirst (hp.trans (List.infix_cons List.infix_rfl))
        exact ⟨(before, after), ih.2 ⟨hrest, hpair⟩, rfl⟩
  | case3 s hs =>
    constructor
    · intro h
      exact absurd h (by simp)
    · rintro ⟨rfl, _⟩
      rcases before with _ | ⟨x, _ | ⟨y, before⟩⟩
      · exact absurd rfl (hs c c after)
      · exact absurd rfl (hs x c (c :: after))
      · exact absurd rfl (hs x y (before ++ c :: c :: after))

/-- There is nothing to cut exactly where there is no pair. -/
theorem splitAtPair_eq_none_iff {c : Char} {s : Text} :
    splitAtPair c s = none ↔ ¬ [c, c] <:+: s := by
  fun_induction splitAtPair c s with
  | case1 a b rest hab => simp [pair_infix_cons, hab]
  | case2 a b rest hab ih => rw [Option.map_eq_none_iff, ih, pair_infix_cons, not_or]; simp [hab]
  | case3 s hs =>
    rcases s with _ | ⟨a, _ | ⟨b, rest⟩⟩
    · simp
    · simp [not_pair_infix_singleton]
    · exact absurd rfl (hs a b rest)

/-- The last place where a character stands is not dropped by what ends before it. -/
theorem mem_drop_of_lastIndexOf? {c : Char} {s : Text} {j k : Nat} (h : lastIndexOf? c s = some k)
    (hj : j ≤ k) : c ∈ s.drop j := by
  induction s generalizing j k with
  | nil => exact absurd h (by simp [lastIndexOf?])
  | cons a rest ih =>
    rw [lastIndexOf?] at h
    cases hrest : lastIndexOf? c rest with
    | some i =>
      cases j with
      | zero => exact List.mem_cons_of_mem a (ih hrest (Nat.zero_le i))
      | succ j =>
        rw [hrest, Option.some.injEq] at h
        exact ih hrest (by omega)
    | none =>
      rw [hrest] at h
      by_cases hac : a = c
      · rw [if_pos hac, Option.some.injEq] at h
        rw [show j = 0 by omega, hac]
        exact List.mem_cons_self
      · rw [if_neg hac] at h
        exact absurd h (by simp)

end Text

/-! ## Markers -/

/-- What stands between the braces of a marker: something, without an opening brace, without the two
closing braces that would end the marker earlier, and without a closing brace at its end, which
would end it earlier too. -/
structure IsBody (body : Text) : Prop where
  ne_nil : body ≠ []
  no_opening : '{' ∉ body
  no_pair : ¬ ['}', '}'] <:+: body
  last_ne : body.getLast? ≠ some '}'

/-- A body between its braces. -/
def braced (body : Text) : Text :=
  '{' :: '{' :: (body ++ ['}', '}'])

@[simp] theorem length_braced (body : Text) : (braced body).length = body.length + 4 := by
  simp [braced]

/-- **A piece of text is a marker**: a body between two opening and two closing braces. -/
def IsMarker (piece : Text) : Prop :=
  ∃ body, IsBody body ∧ piece = braced body

/-- No piece of a text is a marker. -/
def MarkerFree (text : Text) : Prop :=
  ∀ piece, piece <:+: text → ¬ IsMarker piece

theorem IsMarker.ne_nil {piece : Text} (h : IsMarker piece) : piece ≠ [] := by
  obtain ⟨body, _, rfl⟩ := h
  simp [braced]

theorem markerFree_nil : MarkerFree [] := by
  intro piece hpiece hmarker
  exact hmarker.ne_nil (List.infix_nil.1 hpiece)

/-- A piece of a text without markers is without markers. -/
theorem MarkerFree.of_infix {part text : Text} (h : MarkerFree text) (hpart : part <:+: text) :
    MarkerFree part :=
  fun piece hpiece => h piece (hpiece.trans hpart)

/-- The closing braces of a marker are the first pair after its opening braces. -/
theorem IsBody.first_pair {body : Text} (h : IsBody body) : ¬ ['}', '}'] <:+: body ++ ['}'] := by
  rw [List.infix_concat_iff]
  rintro (hend | hin)
  · obtain ⟨before, hbefore⟩ := hend
    have hlast : body = before ++ ['}'] :=
      List.append_cancel_right ((List.append_assoc before ['}'] ['}']).trans hbefore).symm
    exact h.last_ne (by rw [hlast, List.getLast?_concat])
  · exact h.no_pair hin

/-- A text is a body if its first pair of closing braces is what follows it, and it is not empty and
holds no opening brace. -/
theorem isBody_of_first_pair {body : Text} (hnil : body ≠ []) (hopen : '{' ∉ body)
    (hpair : ¬ ['}', '}'] <:+: body ++ ['}']) : IsBody body := by
  refine ⟨hnil, hopen, fun h => hpair (h.trans (List.infix_append [] body ['}'])), ?_⟩
  intro hlast
  obtain ⟨before, rfl⟩ := List.getLast?_eq_some_iff.1 hlast
  exact hpair ⟨before, [], by simp⟩

/-- Where a body ends is seen from what follows its beginning. -/
theorem IsBody.splitAtPair {body : Text} (h : IsBody body) (after : Text) :
    Text.splitAtPair '}' (body ++ '}' :: '}' :: after) = some (body, after) :=
  Text.splitAtPair_eq_some_iff.2 ⟨rfl, h.first_pair⟩

/-! ## No overlap -/

/-- An opening brace that comes after the beginning of a body comes after its closing braces. -/
theorem IsBody.closed_before {body a x rest : Text} (h : IsBody body)
    (hwhole : body ++ '}' :: '}' :: a = x ++ '{' :: rest) : ∃ y, x = body ++ '}' :: '}' :: y := by
  rcases List.append_eq_append_iff.1 hwhole with ⟨y, hx, hy⟩ | ⟨y, hbody, hy⟩
  · -- beyond the body: beyond its closing braces too, since those are no opening braces
    rcases y with _ | ⟨e, _ | ⟨f, y⟩⟩
    · simp at hy
    · simp at hy
    · simp only [List.cons_append, List.cons.injEq] at hy
      exact ⟨y, by rw [hx, ← hy.1, ← hy.2.1]⟩
  · -- inside the body: it would hold an opening brace
    cases y with
    | nil => simp at hy
    | cons e y =>
      rw [List.cons_append, List.cons.injEq] at hy
      exact absurd (by rw [hbody, hy.1]; simp) h.no_opening

/-- **Of two markers in one text, the one further on begins after the other has ended**, unless they
are the same. -/
theorem IsMarker.apart_of_prefix {m m' a a' x : Text} (hm : IsMarker m) (hm' : IsMarker m')
    (h : m ++ a = x ++ (m' ++ a')) : (x = [] ∧ m = m') ∨ ∃ y, x = m ++ y := by
  obtain ⟨body, hbody, rfl⟩ := hm
  obtain ⟨body', hbody', rfl⟩ := hm'
  rcases x with _ | ⟨c, _ | ⟨d, x⟩⟩
  · -- at the same place: both end at the first pair of closing braces
    have hbodies : body ++ '}' :: '}' :: a = body' ++ '}' :: '}' :: a' := by simpa [braced] using h
    have hsame := hbody.splitAtPair a
    rw [hbodies, hbody'.splitAtPair a', Option.some.injEq, Prod.mk.injEq] at hsame
    exact .inl ⟨rfl, by rw [hsame.1]⟩
  · -- one character further on: the body would begin with an opening brace
    have hhead : body ++ '}' :: '}' :: a = [] ++ '{' :: (body' ++ '}' :: '}' :: a') := by
      simpa [braced] using (List.cons.inj h).2
    obtain ⟨y, hy⟩ := hbody.closed_before hhead
    exact absurd hy.symm (by simp)
  · have hrest : body ++ '}' :: '}' :: a = x ++ '{' :: '{' :: (body' ++ '}' :: '}' :: a') := by
      simpa [braced] using (List.cons.inj (List.cons.inj h).2).2
    obtain ⟨hc, hd⟩ : c = '{' ∧ d = '{' := by
      simp only [braced, List.cons_append, List.cons.injEq] at h
      exact ⟨h.1.symm, h.2.1.symm⟩
    obtain ⟨y, hy⟩ := hbody.closed_before hrest
    exact .inr ⟨y, by simp [braced, hc, hd, hy]⟩

/-- **Two markers of one text are the same, or one of them ends before the other begins.** -/
theorem IsMarker.apart {b m a b' m' a' : Text} (hm : IsMarker m) (hm' : IsMarker m')
    (h : b ++ (m ++ a) = b' ++ (m' ++ a')) :
    (b = b' ∧ m = m') ∨ (∃ y, b' = b ++ m ++ y) ∨ ∃ y, b = b' ++ m' ++ y := by
  rcases List.append_eq_append_iff.1 h with ⟨x, rfl, hx⟩ | ⟨x, rfl, hx⟩
  · rcases hm.apart_of_prefix hm' hx with ⟨rfl, hsame⟩ | ⟨y, rfl⟩
    · exact .inl ⟨(List.append_nil b).symm, hsame⟩
    · exact .inr (.inl ⟨y, (List.append_assoc b m y).symm⟩)
  · rcases hm'.apart_of_prefix hm hx with ⟨rfl, hsame⟩ | ⟨y, rfl⟩
    · exact .inl ⟨List.append_nil b', hsame.symm⟩
    · exact .inr (.inr ⟨y, (List.append_assoc b' m' y).symm⟩)

/-- A text has one first marker only. -/
theorem MarkerFree.first_unique {b m a b' m' a' : Text} (hb : MarkerFree b) (hm : IsMarker m)
    (hb' : MarkerFree b') (hm' : IsMarker m') (h : b ++ (m ++ a) = b' ++ (m' ++ a')) :
    b = b' ∧ m = m' ∧ a = a' := by
  rcases hm.apart hm' h with ⟨rfl, rfl⟩ | ⟨y, rfl⟩ | ⟨y, rfl⟩
  · exact ⟨rfl, rfl, List.append_cancel_left (List.append_cancel_left h)⟩
  · exact absurd hm (hb' m (List.infix_append b m y))
  · exact absurd hm' (hb m' (List.infix_append b' m' y))

end Stencil
