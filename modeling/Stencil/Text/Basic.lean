/-!
# `Stencil.Text.Basic` — text as a list of code points

Every offset, column and span in this library counts code points, so a text is the list of them.

## Contents
- **`Text`** and its few searches: `cut?` (first character), `splitAtPair` (first doubled character),
  `lastIndexOf?`.
- **`joinWith`**, the pieces of a list with a separator between them; **`bracketed`**, pieces between
  brackets, and **`appliedTo`**, a name with arguments.
- **`hexDigits`**, fixed-width lower-case hexadecimal.
- **`notAfter`**, the order of texts by code points.
-/

namespace Stencil

/-- A text is the list of its code points. -/
abbrev Text := List Char

namespace Text

/-- The code points of a string. -/
abbrev of (s : String) : Text := s.toList

/-! ## Searching -/

/-- What stands before the first `c`, and what follows it. -/
def cut? (c : Char) : Text → Option (Text × Text)
  | [] => none
  | a :: rest =>
    if a = c then some ([], rest)
    else (cut? c rest).map fun (before, after) => (a :: before, after)

/-- The text before the first `c`, the `c` and the text after it make up the whole. -/
theorem cut?_eq_some_iff {c : Char} {s before after : Text} :
    cut? c s = some (before, after) ↔ s = before ++ c :: after ∧ c ∉ before := by
  induction s generalizing before with
  | nil => simp [cut?]
  | cons a rest ih =>
    by_cases hac : a = c
    · subst hac
      cases before with
      | nil => simp [cut?]
      | cons b before =>
        simp only [cut?, if_true, Option.some.injEq, Prod.mk.injEq, List.nil_eq, reduceCtorEq,
          false_and, List.cons_append, List.cons.injEq, List.mem_cons, not_or, false_iff, not_and]
        intro ⟨hab, _⟩ hb
        exact absurd hab hb
    · cases before with
      | nil => simp [cut?, hac]
      | cons b before =>
        have key := @ih before
        simp only [cut?, if_neg hac, Option.map_eq_some_iff, Prod.exists, Prod.mk.injEq,
          List.cons.injEq, List.cons_append, List.mem_cons, not_or]
        constructor
        · rintro ⟨p, q, hpq, ⟨rfl, rfl⟩, rfl⟩
          obtain ⟨h, hc⟩ := key.1 hpq
          exact ⟨⟨rfl, h⟩, fun h => hac h.symm, hc⟩
        · rintro ⟨⟨rfl, h⟩, _, hc⟩
          exact ⟨before, after, key.2 ⟨h, hc⟩, ⟨rfl, rfl⟩, rfl⟩

/-- What stands before the first doubled `c`, and what follows it. -/
def splitAtPair (c : Char) : Text → Option (Text × Text)
  | a :: b :: rest =>
    if a = c ∧ b = c then some ([], rest)
    else (splitAtPair c (b :: rest)).map fun (before, after) => (a :: before, after)
  | _ => none

/-- The text before the pair, the pair and the text after it make up the whole. -/
theorem eq_append_of_splitAtPair {c : Char} {s before after : Text}
    (h : splitAtPair c s = some (before, after)) : s = before ++ c :: c :: after := by
  fun_induction splitAtPair c s generalizing before after with
  | case1 a b rest hab => simp_all
  | case2 a b rest _ ih =>
    obtain ⟨⟨p, q⟩, hpq, heq⟩ := Option.map_eq_some_iff.1 h
    simp only [Prod.mk.injEq] at heq
    obtain ⟨rfl, rfl⟩ := heq
    simp [ih hpq]
  | case3 => simp at h

/-- The text after the pair is shorter by the pair at least. -/
theorem length_of_splitAtPair {c : Char} {s before after : Text}
    (h : splitAtPair c s = some (before, after)) :
    s.length = before.length + after.length + 2 := by
  rw [eq_append_of_splitAtPair h]
  simp only [List.length_append, List.length_cons]
  omega

/-- The index of the last `c`, if there is one. -/
def lastIndexOf? (c : Char) : Text → Option Nat
  | [] => none
  | a :: rest =>
    match lastIndexOf? c rest with
    | some k => some (k + 1)
    | none => if a = c then some 0 else none

/-- There is no last `c` exactly where there is no `c`. -/
theorem lastIndexOf?_eq_none_iff {c : Char} {s : Text} : lastIndexOf? c s = none ↔ c ∉ s := by
  induction s with
  | nil => simp [lastIndexOf?]
  | cons a rest ih =>
    rw [lastIndexOf?, List.mem_cons, not_or, ← ih]
    cases lastIndexOf? c rest with
    | some k => simp
    | none =>
      by_cases hac : a = c
      · simp [hac]
      · simp [hac, Ne.symm hac]

/-- The last `c` stands inside the text. -/
theorem lastIndexOf?_lt {c : Char} {s : Text} {k : Nat} (h : lastIndexOf? c s = some k) :
    k < s.length := by
  induction s generalizing k with
  | nil => simp [lastIndexOf?] at h
  | cons a rest ih =>
    cases hr : lastIndexOf? c rest with
    | some j =>
      simp only [lastIndexOf?, hr, Option.some.injEq] at h
      have := ih hr
      simp only [List.length_cons]
      omega
    | none =>
      simp only [lastIndexOf?, hr] at h
      split at h <;> simp_all
      omega

/-! ## Putting together -/

/-- The pieces in order, with `separator` between neighbours. -/
def joinWith (separator : Text) : List Text → Text
  | [] => []
  | [piece] => piece
  | piece :: more => piece ++ separator ++ joinWith separator more

/-- The digit of a number below sixteen, in lower case. -/
def hexDigit (n : Nat) : Char :=
  if n < 10 then Char.ofNat (48 + n) else Char.ofNat (87 + n)

/-- The last `width` hexadecimal digits of a number, leading zeros kept. -/
def hexDigits : (width : Nat) → Nat → Text
  | 0, _ => []
  | width + 1, n => hexDigits width (n / 16) ++ [hexDigit (n % 16)]

@[simp] theorem length_hexDigits (width n : Nat) : (hexDigits width n).length = width := by
  induction width generalizing n with
  | zero => rfl
  | succ width ih => simp [hexDigits, ih]

/-- Whether a text is the same as another or comes before it, by code points. -/
def notAfter : Text → Text → Bool
  | [], _ => true
  | _ :: _, [] => false
  | a :: as, b :: bs => a.toNat < b.toNat || a == b && notAfter as bs

end Text

/-- Pieces between brackets, with commas between them. -/
def bracketed (opening closing : Char) (pieces : List Text) : Text :=
  opening :: Text.joinWith (Text.of ", ") pieces ++ [closing]

/-- A name applied to arguments. -/
def appliedTo (name : Text) (arguments : List Text) : Text :=
  name ++ bracketed '(' ')' arguments

end Stencil
