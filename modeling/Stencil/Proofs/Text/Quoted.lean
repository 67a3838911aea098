import Stencil.Proofs.Text.Hexadecimal
import Stencil.Text.Quoted

/-!
# `Stencil.Proofs.Text.Quoted` — quoted texts are read back

The quote in front says how the text behind it is escaped, and what is written for a character says where
it ends: a backslash starts every escape, and the letter behind it says how long it is.  So two texts with
the same quoted form are the same, whatever quotes, backslashes and codes they hold.

## Contents
- **`readEscaped?`**, the first character of an escaped text; **`readEscaped?_escapeChar`**.
- **`escaped_injective`** and **`quoted_injective`**.
-/

namespace Stencil.Text

/-- The first character that an escaped text stands for, and what is behind it. -/
def readEscaped? : Text → Option (Char × Text)
  | [] => none
  | '\\' :: 'n' :: rest => some ('\n', rest)
  | '\\' :: 'r' :: rest => some ('\r', rest)
  | '\\' :: 't' :: rest => some ('\t', rest)
  | '\\' :: 'x' :: rest => readCode? 2 rest
  | '\\' :: 'u' :: rest => readCode? 4 rest
  | '\\' :: 'U' :: rest => readCode? 8 rest
  | '\\' :: c :: rest => some (c, rest)
  | c :: rest => some (c, rest)

/-- A character that is no backslash stands for itself. -/
theorem readEscaped?_cons {c : Char} (hc : c ≠ '\\') (rest : Text) :
    readEscaped? (c :: rest) = some (c, rest) := by
  rw [readEscaped?] <;> simp [hc]

theorem toNat_lt_eight_digits (c : Char) : c.toNat < Nat.pow 16 8 := by
  have hbound : (0x110000 : Nat) ≤ Nat.pow 16 8 := by decide
  rcases c.valid with h | ⟨_, h⟩
  · exact Nat.lt_of_lt_of_le (Nat.lt_trans h (by decide)) hbound
  · exact Nat.lt_of_lt_of_le h hbound

/-- **Every character is read back from what is written for it**, and what is behind it is left. -/
theorem readEscaped?_escapeChar {quote : Char} (hquote : quote = '"' ∨ quote = '\'') (c : Char)
    (rest : Text) : readEscaped? (escapeChar quote c ++ rest) = some (c, rest) := by
  unfold escapeChar
  by_cases hmarked : c = quote ∨ c = '\\'
  · rw [if_pos hmarked]
    rcases hmarked with rfl | rfl
    · rcases hquote with rfl | rfl <;> rfl
    · rfl
  rw [if_neg hmarked]
  by_cases hfeed : c = '\n'
  · rw [if_pos hfeed, hfeed]
    rfl
  rw [if_neg hfeed]
  by_cases hreturn : c = '\r'
  · rw [if_pos hreturn, hreturn]
    rfl
  rw [if_neg hreturn]
  by_cases htab : c = '\t'
  · rw [if_pos htab, htab]
    rfl
  rw [if_neg htab]
  by_cases hshown : isPrintable c = true
  · rw [if_pos hshown]
    exact readEscaped?_cons (fun hc => hmarked (.inr hc)) rest
  rw [if_neg hshown]
  by_cases htwo : c.toNat < 0x100
  · rw [if_pos htwo]
    exact readCode?_hexDigits 2 htwo rest
  rw [if_neg htwo]
  by_cases hfour : c.toNat < 0x10000
  · rw [if_pos hfour]
    exact readCode?_hexDigits 4 hfour rest
  rw [if_neg hfour]
  exact readCode?_hexDigits 8 (toNat_lt_eight_digits c) rest

/-- Two texts that are escaped alike are the same. -/
theorem escaped_injective {quote : Char} (hquote : quote = '"' ∨ quote = '\'') {s t : Text}
    (h : s.flatMap (escapeChar quote) = t.flatMap (escapeChar quote)) : s = t := by
  -- what the first characters are read from is the same
  have hread (c : Char) (rest : Text) :
      readEscaped? ((c :: rest).flatMap (escapeChar quote)) =
        some (c, rest.flatMap (escapeChar quote)) := by
    rw [List.flatMap_cons, readEscaped?_escapeChar hquote]
  induction s generalizing t with
  | nil =>
    cases t with
    | nil => rfl
    | cons d t =>
      have hnone := hread d t
      rw [← h] at hnone
      cases hnone
  | cons c s ih =>
    cases t with
    | nil =>
      have hnone := hread c s
      rw [h] at hnone
      cases hnone
    | cons d t =>
      have hfirst := hread c s
      rw [h, hread d t, Option.some.injEq, Prod.mk.injEq] at hfirst
      rw [hfirst.1, ih hfirst.2.symm]

/-- **Two texts that are quoted alike are the same.** -/
theorem quoted_injective {s t : Text} (h : quoted s = quoted t) : s = t := by
  obtain ⟨hmark, hrest⟩ := List.cons.inj h
  rw [hmark] at hrest
  exact escaped_injective (quoteMark_eq t) (List.append_cancel_right hrest)

end Stencil.Text
