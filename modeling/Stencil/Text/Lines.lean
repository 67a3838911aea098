import Stencil.Text.Basic

/-!
# `Stencil.Text.Lines` — line breaks

## Contents
- **`splitOn`**, the pieces of a text between the places where a character stands; **`splitLines`**.  It
  undoes **`joinWith`** (`splitOn_joinWith`); `joinWith_append_separator`.
- **`unifyLineEnds`**: a carriage return, with or without a line feed after it, becomes a line feed.
-/

namespace Stencil.Text

/-- The pieces of a text between the places where a character stands. -/
def splitOn (separator : Char) : Text → List Text
  | [] => [[]]
  | c :: rest =>
    match splitOn separator rest with
    | [] => [[c]]
    | piece :: more => if c = separator then [] :: piece :: more else (c :: piece) :: more

theorem splitOn_ne_nil (separator : Char) (s : Text) : splitOn separator s ≠ [] := by
  cases s with
  | nil => simp [splitOn]
  | cons c rest =>
    rw [splitOn]
    split
    · simp
    · split <;> simp

/-- A separator behind the last piece stands behind each of them. -/
theorem joinWith_append_separator {pieces : List Text} (h : pieces ≠ []) (separator : Text) :
    joinWith separator pieces ++ separator = pieces.flatMap (· ++ separator) := by
  induction pieces with
  | nil => exact absurd rfl h
  | cons piece more ih =>
    cases more with
    | nil => simp [joinWith]
    | cons next more =>
      have hmore := ih (List.cons_ne_nil next more)
      rw [List.flatMap_cons, ← hmore]
      exact List.append_assoc (piece ++ separator) _ separator

/-- A piece ends where the character stands for the first time. -/
theorem splitOn_append_cons {separator : Char} {piece : Text} (h : separator ∉ piece) (rest : Text) :
    splitOn separator (piece ++ separator :: rest) = piece :: splitOn separator rest := by
  induction piece with
  | nil =>
    rw [List.nil_append, splitOn]
    split
    · next hrest => exact absurd hrest (splitOn_ne_nil _ _)
    · next hrest => rw [if_pos rfl, hrest]
  | cons c piece ih =>
    have hc : c ≠ separator := fun hsame => h (hsame ▸ List.mem_cons_self)
    have hpiece : separator ∉ piece := fun hmem => h (List.mem_cons_of_mem _ hmem)
    rw [List.cons_append, splitOn, ih hpiece]
    exact if_neg hc

/-- A text without the character is the only piece. -/
theorem splitOn_of_not_mem {separator : Char} {s : Text} (h : separator ∉ s) :
    splitOn separator s = [s] := by
  induction s with
  | nil => rfl
  | cons c rest ih =>
    have hc : c ≠ separator := fun hsame => h (hsame ▸ List.mem_cons_self)
    have hrest : separator ∉ rest := fun hmem => h (List.mem_cons_of_mem _ hmem)
    rw [splitOn, ih hrest]
    exact if_neg hc

/-- Pieces without the character are found again in the text that they make. -/
theorem splitOn_joinWith {separator : Char} {pieces : List Text} (hne : pieces ≠ [])
    (h : ∀ piece ∈ pieces, separator ∉ piece) :
    splitOn separator (joinWith [separator] pieces) = pieces := by
  induction pieces with
  | nil => exact absurd rfl hne
  | cons piece more ih =>
    have hpiece : separator ∉ piece := h piece List.mem_cons_self
    cases more with
    | nil => exact splitOn_of_not_mem hpiece
    | cons next more =>
      have hmore := ih (List.cons_ne_nil next more) fun p hp => h p (List.mem_cons_of_mem _ hp)
      rw [joinWith, List.append_assoc, List.singleton_append, splitOn_append_cons hpiece, hmore]
      exact List.cons_ne_nil next more

/-- The lines of a text. -/
def splitLines (s : Text) : List Text :=
  splitOn '\n' s

/-- The text with every line ended by a line feed alone. -/
def unifyLineEnds : Text → Text
  | '\r' :: '\n' :: rest => '\n' :: unifyLineEnds rest
  | '\r' :: rest => '\n' :: unifyLineEnds rest
  | c :: rest => c :: unifyLineEnds rest
  | [] => []

end Stencil.Text
