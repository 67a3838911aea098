import Stencil.Text.Printable

/-!
# `Stencil.Text.Quoted` — a text on one line, between quotes

A text is quoted with single quotes, unless it holds a single quote and no double quote.  The
backslash and the quote in use are escaped by a backslash, three control characters have letters of
their own, and every other character that is not printable is written by its code in two, four or
eight hexadecimal digits.

## Contents
- **`quoteMark`**, the quote in use; **`escapeChar`**, one character; **`quoted`**, the whole.
- **`lineFeed_not_mem_quoted`**: a quoted text has no line break in it.
-/

namespace Stencil.Text

/-- The quote that a text is written between. -/
def quoteMark (s : Text) : Char :=
  if s.contains '\'' && !s.contains '"' then '"' else '\''

/-- One character, as it is written between the given quotes. -/
def escapeChar (quote : Char) (c : Char) : Text :=
  if c = quote ∨ c = '\\' then ['\\', c]
  else if c = '\n' then ['\\', 'n']
  else if c = '\r' then ['\\', 'r']
  else if c = '\t' then ['\\', 't']
  else if isPrintable c then [c]
  else if c.toNat < 0x100 then '\\' :: 'x' :: hexDigits 2 c.toNat
  else if c.toNat < 0x10000 then '\\' :: 'u' :: hexDigits 4 c.toNat
  else '\\' :: 'U' :: hexDigits 8 c.toNat

/-- The text between quotes, on one line. -/
def quoted (s : Text) : Text :=
  let quote := quoteMark s
  quote :: s.flatMap (escapeChar quote) ++ [quote]

/-! ## No line break -/

theorem lineFeed_ne_hexDigit (n : Nat) (h : n < 16) : hexDigit n ≠ '\n' := by
  revert n
  decide

theorem lineFeed_not_mem_hexDigits (width n : Nat) : '\n' ∉ hexDigits width n := by
  induction width generalizing n with
  | zero => simp [hexDigits]
  | succ width ih =>
    simp only [hexDigits, List.mem_append, List.mem_singleton, not_or]
    exact ⟨ih _, fun h => lineFeed_ne_hexDigit _ (Nat.mod_lt _ (by omega)) h.symm⟩

theorem quoteMark_eq (s : Text) : quoteMark s = '"' ∨ quoteMark s = '\'' := by
  unfold quoteMark
  split <;> simp

theorem lineFeed_not_mem_escapeChar {quote : Char} (hq : quote ≠ '\n') (c : Char) :
    '\n' ∉ escapeChar quote c := by
  unfold escapeChar
  split
  · rename_i h
    rcases h with rfl | rfl
    · simp [hq.symm]
    · simp
  · split
    · simp
    · rename_i hn
      repeat' split
      all_goals simp [lineFeed_not_mem_hexDigits, Ne.symm hn]

/-- A quoted text stays on one line. -/
theorem lineFeed_not_mem_quoted (s : Text) : '\n' ∉ quoted s := by
  have hq : quoteMark s ≠ '\n' := by
    rcases quoteMark_eq s with h | h <;> rw [h] <;> decide
  simp only [quoted, List.cons_append, List.mem_cons, List.mem_append, List.mem_flatMap,
    List.not_mem_nil, or_false, not_or, not_exists, not_and]
  exact ⟨hq.symm, fun c _ => lineFeed_not_mem_escapeChar hq c, hq.symm⟩

end Stencil.Text
