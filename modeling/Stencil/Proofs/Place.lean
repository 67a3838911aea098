import Stencil.Place

/-!
# `Stencil.Proofs.Place` — lines are counted rightly

Lines are counted on from the offset last asked for, the line feeds of the stretch in between at once; a
place is told by what stands before it.  The invariant is that the count is that of what stands before
the offset it has reached (`LineCount.Counts`).  Counting on keeps it, past the end of the text too, and so
does starting again.

## Contents
- **The last line feed** of two texts in a row.
- **Counting a stretch at once.** `LineCount.Counts`, kept by `forward` and `goTo`; **`place_goTo`**: whatever
  has been counted, the place is `Place.at`.  **`places_eq`**, for any offsets in any order.
-/

namespace Stencil

/-! ## The last line feed -/

/-- The last place of a character in two texts. -/
theorem Text.lastIndexOf?_append (c : Char) (s t : Text) :
    Text.lastIndexOf? c (s ++ t) =
      match Text.lastIndexOf? c t with
      | some k => some (s.length + k)
      | none => Text.lastIndexOf? c s := by
  induction s with
  | nil => cases h : Text.lastIndexOf? c t <;> simp [h, Text.lastIndexOf?]
  | cons a s ih =>
    rw [List.cons_append, Text.lastIndexOf?, ih]
    cases Text.lastIndexOf? c t with
    | some k => simp only [List.length_cons, Nat.add_right_comm]
    | none => rw [Text.lastIndexOf?]

/-- The last line of two texts starts in the second one, if that has a line feed. -/
theorem lastLineStart_append (s t : Text) :
    lastLineStart (s ++ t) = if '\n' ∈ t then s.length + lastLineStart t else lastLineStart s := by
  rw [lastLineStart, Text.lastIndexOf?_append]
  by_cases ht : '\n' ∈ t
  · rw [if_pos ht, lastLineStart]
    cases hlast : Text.lastIndexOf? '\n' t with
    | some k => exact Nat.add_assoc _ _ _
    | none => exact absurd ht (Text.lastIndexOf?_eq_none_iff.1 hlast)
  · rw [if_neg ht, Text.lastIndexOf?_eq_none_iff.2 ht, lastLineStart]

/-! ## Counting a stretch at once -/

namespace LineCount

/-- **The lines of a text are counted rightly**: line and start of the line are those of the offset. -/
structure Counts (text : Text) (c : LineCount) : Prop where
  line : c.line = 1 + (text.take c.offset).count '\n'
  lineStart : c.lineStart = lastLineStart (text.take c.offset)

theorem counts_start (text : Text) : Counts text start :=
  ⟨rfl, rfl⟩

/-- **Counting a stretch at once keeps the count right**, inside the text and behind its end. -/
theorem Counts.forward {text : Text} {c : LineCount} (h : Counts text c) {offset : Nat}
    (hle : c.offset ≤ offset) : Counts text (c.forward text offset) := by
  have hwhole : text.take offset = text.take c.offset ++ (text.take offset).drop c.offset := by
    have hfront : (text.take offset).take c.offset = text.take c.offset := by
      rw [List.take_take, Nat.min_eq_left hle]
    rw [← hfront, List.take_append_drop]
  have hcount : (text.take offset).count '\n' =
      (text.take c.offset).count '\n' + ((text.take offset).drop c.offset).count '\n' := by
    rw [← List.count_append, ← hwhole]
  have hstart := lastLineStart_append (text.take c.offset) ((text.take offset).drop c.offset)
  rw [← hwhole] at hstart
  rw [LineCount.forward]
  by_cases hfeeds : ((text.take offset).drop c.offset).count '\n' = 0
  · rw [if_neg (List.count_eq_zero.1 hfeeds)] at hstart
    simp only [if_pos hfeeds]
    refine ⟨?_, ?_⟩
    · rw [hcount, hfeeds, h.line, Nat.add_zero]
    · rw [hstart, h.lineStart]
  · have hmem : '\n' ∈ (text.take offset).drop c.offset :=
      List.count_pos_iff.1 (Nat.pos_of_ne_zero hfeeds)
    have hlength : (text.take c.offset).length = c.offset := by
      have hpos := List.length_pos_of_mem hmem
      rw [List.length_drop, List.length_take] at hpos
      rw [List.length_take]
      omega
    rw [if_pos hmem, hlength] at hstart
    simp only [if_neg hfeeds]
    refine ⟨?_, ?_⟩
    · rw [hcount, h.line, Nat.add_assoc]
    · rw [hstart]

theorem Counts.goTo {text : Text} {c : LineCount} (h : Counts text c) (offset : Nat) :
    Counts text (c.goTo text offset) := by
  rw [LineCount.goTo]
  by_cases hbehind : offset < c.offset
  · rw [if_pos hbehind]
    exact (counts_start text).forward (Nat.zero_le offset)
  · rw [if_neg hbehind]
    exact h.forward (Nat.le_of_not_lt hbehind)

/-- **The place counted up to is that of the offset**, whatever was counted before. -/
theorem Counts.place_eq {text : Text} {c : LineCount} (h : Counts text c) :
    c.place = Place.at text c.offset := by
  rw [place, Place.at, h.line, h.lineStart]
  rfl

theorem Counts.place_goTo {text : Text} {c : LineCount} (h : Counts text c) (offset : Nat) :
    (c.goTo text offset).place = Place.at text offset := by
  rw [(h.goTo offset).place_eq, offset_goTo]

/-- **The places of offsets in any order** are those of the offsets. -/
theorem Counts.places_eq {text : Text} {c : LineCount} (h : Counts text c) (offsets : List Nat) :
    c.places text offsets = offsets.map (Place.at text) := by
  induction offsets generalizing c with
  | nil => rfl
  | cons offset more ih =>
    rw [places, List.map_cons, h.place_goTo, ih (h.goTo offset)]

end LineCount

end Stencil
