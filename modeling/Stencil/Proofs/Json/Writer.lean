import Mathlib.Data.List.Forall2
import Stencil.Proofs.Json.Reader

/-!
# `Stencil.Proofs.Json.Writer` — both layouts are of the grammar

The two layouts of a value differ in their blanks only: what stands between the brackets of an array or an
object is the same parts with commas between them, and blanks in front, behind and after each comma.  So
both are read as the value that was written.

## Contents
- **`Prints`**, a text that gives some lexemes wherever it stands; for strings `inString_escapeChar`.
- **`Brackets.prints`**, parts between brackets, and from it `Brackets.prints_line` and
  `Brackets.prints_stacked`, one for each layout.
- **`prints_compact`** and **`prints_prettyAt`**, and from them **`spells_write`** and **`read_write`**.
-/

namespace Stencil.Json

/-! ## Parts -/

/-- A text gives some lexemes wherever it stands, if no digit follows it. -/
def Prints (part : Text) (row : List Lexeme) : Prop :=
  ∀ rest more, NoDigit rest → Lexes rest more → Lexes (part ++ rest) (row ++ more)

theorem Lexeme.Spelled.prints {first : Lexeme} {written : Text} (h : first.Spelled written) :
    Prints written [first] := by
  intro rest more hdigit hrest
  refine .lexeme h ?_ hrest
  cases first <;> first | exact hdigit | exact trivial

theorem Lexes.blanks {written rest : Text} {more : List Lexeme}
    (hblanks : ∀ c ∈ written, isBlank c = true) (h : Lexes rest more) :
    Lexes (written ++ rest) more := by
  induction written with
  | nil => exact h
  | cons c written ih =>
    rw [List.forall_mem_cons] at hblanks
    exact .blank hblanks.1 (ih hblanks.2)

theorem noDigit_cons {c : Char} (hc : c.isDigit = false) (rest : Text) : NoDigit (c :: rest) := by
  intro d hd
  obtain rfl := Option.some.inj hd
  exact hc

/-- No digit follows blanks and what comes behind them. -/
theorem NoDigit.blanks {written rest : Text} (hblanks : ∀ c ∈ written, isBlank c = true)
    (h : NoDigit rest) : NoDigit (written ++ rest) := by
  cases written with
  | nil => exact h
  | cons c written =>
    refine noDigit_cons ?_ _
    have hc := hblanks c List.mem_cons_self
    simp only [isBlank, Bool.or_eq_true, decide_eq_true_eq] at hc
    rcases hc with ((rfl | rfl) | rfl) | rfl <;> decide

/-- What is written for a character stands for it between quotes. -/
theorem inString_escapeChar (c : Char) {written s : Text} (h : InString written s) :
    InString (escapeChar c ++ written) (c :: s) := by
  unfold escapeChar
  by_cases hquote : c = '"'
  · rw [if_pos hquote, hquote]
    exact .escape (by decide) h
  rw [if_neg hquote]
  by_cases hmark : c = '\\'
  · rw [if_pos hmark, hmark]
    exact .escape (by decide) h
  rw [if_neg hmark]
  by_cases hfeed : c = '\n'
  · rw [if_pos hfeed, hfeed]
    exact .escape (by decide) h
  rw [if_neg hfeed]
  by_cases hreturn : c = '\r'
  · rw [if_pos hreturn, hreturn]
    exact .escape (by decide) h
  rw [if_neg hreturn]
  by_cases htab : c = '\t'
  · rw [if_pos htab, htab]
    exact .escape (by decide) h
  rw [if_neg htab]
  have hcode {n : Nat} (hn : c.toNat = n) : c = Char.ofNat n := by rw [← hn, Char.ofNat_toNat]
  by_cases hback : c.toNat = 8
  · rw [if_pos hback, hcode hback]
    exact .escape (by decide) h
  rw [if_neg hback]
  by_cases hform : c.toNat = 12
  · rw [if_pos hform, hcode hform]
    exact .escape (by decide) h
  rw [if_neg hform]
  by_cases hcontrol : c.toNat < 0x20
  · have hsmall : c.toNat < Nat.pow 16 4 := Nat.lt_trans hcontrol (by decide)
    rw [if_pos hcontrol]
    exact .code (Text.length_hexDigits 4 c.toNat) (Text.hexValue?_hexDigits 4 hsmall) h
  rw [if_neg hcontrol]
  exact .plain hquote hmark (Nat.le_of_not_lt hcontrol) h

theorem inString_escaped (s : Text) : InString (s.flatMap escapeChar) s := by
  induction s with
  | nil => exact .nil
  | cons c s ih => exact inString_escapeChar c ih

theorem prints_quoted (s : Text) : Prints (quoted s) [.string s] :=
  (Lexeme.Spelled.string (inString_escaped s)).prints

theorem prints_ofInt (n : Int) : Prints (Text.ofInt n) [.number n] := by
  cases n with
  | ofNat n => exact (Lexeme.Spelled.number n).prints
  | negSucc n =>
    have hnegative : (Int.negSucc n) = -((n + 1 : Nat) : Int) := rfl
    rw [hnegative]
    exact (Lexeme.Spelled.negative (n + 1)).prints

/-- A name and a colon in front of a value. -/
theorem prints_member (name : Text) {part : Text} {row : List Lexeme} (h : Prints part row) :
    Prints (quoted name ++ Text.of ": " ++ part) (.string name :: .colon :: row) := by
  intro rest more hdigit hrest
  have hvalue : Lexes (' ' :: (part ++ rest)) (row ++ more) := .blank (by decide) (h rest more hdigit hrest)
  have hcolon : Lexes (':' :: ' ' :: (part ++ rest)) (.colon :: (row ++ more)) :=
    .lexeme .colon trivial hvalue
  have hwhole := prints_quoted name _ _ (noDigit_cons (by decide) _) hcolon
  rw [List.append_assoc, List.append_assoc]
  exact hwhole

/-! ## Brackets -/

/-- Parts with commas between them, and blanks behind each comma. -/
theorem prints_joinWith {between : Text} (hbetween : ∀ c ∈ between, isBlank c = true)
    {parts : List Text} {rows : List (List Lexeme)} (h : List.Forall₂ Prints parts rows) :
    Prints (Text.joinWith (',' :: between) parts) (separated rows) := by
  induction h with
  | nil => exact fun rest more _ hrest => hrest
  | @cons part row parts rows hpart hparts ih =>
    cases hparts with
    | nil => exact hpart
    | @cons next nextRow others otherRows hnext hothers =>
      intro rest more hdigit hrest
      have hbehind := (ih rest more hdigit hrest).blanks hbetween
      have hcomma : Lexes (',' :: (between ++ (Text.joinWith (',' :: between) (next :: others) ++ rest)))
          (.comma :: (separated (nextRow :: otherRows) ++ more)) := .lexeme .comma trivial hbehind
      have hwhole := hpart _ _ (noDigit_cons (by decide) _) hcomma
      rw [Text.joinWith, separated]
      · simpa only [List.append_assoc, List.cons_append] using hwhole
      all_goals exact List.cons_ne_nil _ _

/-- Two characters are the brackets that two lexemes stand for. -/
structure Brackets (opening closing : Char) (first last : Lexeme) : Prop where
  opens : first.Spelled [opening]
  closes : last.Spelled [closing]
  opens_ends : ∀ rest, first.Ends rest
  closes_ends : ∀ rest, last.Ends rest
  noDigit : closing.isDigit = false

theorem brackets_array : Brackets '[' ']' .openArray .closeArray :=
  ⟨.openArray, .closeArray, fun _ => trivial, fun _ => trivial, by decide⟩

theorem brackets_object : Brackets '\x7b' '\x7d' .openObject .closeObject :=
  ⟨.openObject, .closeObject, fun _ => trivial, fun _ => trivial, by decide⟩

section Containers

variable {opening closing : Char} {first last : Lexeme} {parts : List Text} {rows : List (List Lexeme)}

/-- **Parts between brackets**, with blanks in front, behind and after each comma. -/
theorem Brackets.prints (hbrackets : Brackets opening closing first last) {before between after : Text}
    (hbefore : ∀ c ∈ before, isBlank c = true) (hbetween : ∀ c ∈ between, isBlank c = true)
    (hafter : ∀ c ∈ after, isBlank c = true) (h : List.Forall₂ Prints parts rows) :
    Prints (opening :: (before ++ (Text.joinWith (',' :: between) parts ++ (after ++ [closing]))))
      (first :: (separated rows ++ [last])) := by
  intro rest more _ hrest
  have hend : Lexes (closing :: rest) (last :: more) :=
    .lexeme hbrackets.closes (hbrackets.closes_ends rest) hrest
  have hdigit := NoDigit.blanks hafter (noDigit_cons hbrackets.noDigit rest)
  have hinside := prints_joinWith hbetween h _ _ hdigit (hend.blanks hafter)
  have hwhole := Lexes.lexeme hbrackets.opens (hbrackets.opens_ends _) (hinside.blanks hbefore)
  simpa only [List.append_assoc, List.cons_append, List.nil_append] using hwhole

/-- Parts on one line. -/
theorem Brackets.prints_line (hbrackets : Brackets opening closing first last)
    (h : List.Forall₂ Prints parts rows) :
    Prints (opening :: Text.joinWith (Text.of ", ") parts ++ [closing])
      (first :: (separated rows ++ [last])) := by
  have hnone : ∀ c ∈ ([] : Text), isBlank c = true := fun c hc => absurd hc List.not_mem_nil
  have hspace : ∀ c ∈ [' '], isBlank c = true := by
    intro c hc
    rw [List.mem_singleton.1 hc]
    rfl
  exact hbrackets.prints hnone hspace hnone h

theorem isBlank_newLine (level : Nat) : ∀ c ∈ newLine level, isBlank c = true := by
  intro c hc
  rcases List.mem_cons.1 hc with rfl | hc
  · decide
  · rw [List.eq_of_mem_replicate hc]
    decide

/-- Parts on lines of their own. -/
theorem Brackets.prints_stacked (hbrackets : Brackets opening closing first last) (level : Nat)
    (h : List.Forall₂ Prints parts rows) :
    Prints (stacked opening closing level parts) (first :: (separated rows ++ [last])) := by
  cases h with
  | nil => exact hbrackets.prints_line .nil
  | cons hpart hparts =>
    have hwhole := hbrackets.prints (isBlank_newLine (level + 1)) (isBlank_newLine (level + 1))
      (isBlank_newLine level) (List.Forall₂.cons hpart hparts)
    rw [stacked, if_neg (List.cons_ne_nil _ _)]
    simpa only [List.append_assoc, List.cons_append] using hwhole

end Containers

/-! ## The two layouts -/

mutual

/-- **A value on one line gives its lexemes.** -/
theorem prints_compact : ∀ value : Json, Prints (compact value) (lexemes value)
  | .null => Lexeme.Spelled.null.prints
  | .bool b => (Lexeme.Spelled.bool b).prints
  | .number n => prints_ofInt n
  | .string s => prints_quoted s
  | .array items => brackets_array.prints_line (prints_compactItems items)
  | .object members => brackets_object.prints_line (prints_compactMembers members)

theorem prints_compactItems :
    ∀ items : List Json, List.Forall₂ Prints (compactItems items) (itemLexemes items)
  | [] => .nil
  | item :: rest => .cons (prints_compact item) (prints_compactItems rest)

theorem prints_compactMembers : ∀ members : List (Text × Json),
    List.Forall₂ Prints (compactMembers members) (memberLexemes members)
  | [] => .nil
  | (name, value) :: rest =>
    .cons (prints_member name (prints_compact value)) (prints_compactMembers rest)

end

mutual

/-- **A value with one part a line gives its lexemes**, at any level. -/
theorem prints_prettyAt (level : Nat) : ∀ value : Json, Prints (prettyAt level value) (lexemes value)
  | .null => Lexeme.Spelled.null.prints
  | .bool b => (Lexeme.Spelled.bool b).prints
  | .number n => prints_ofInt n
  | .string s => prints_quoted s
  | .array items => brackets_array.prints_stacked level (prints_prettyItems (level + 1) items)
  | .object members => brackets_object.prints_stacked level (prints_prettyMembers (level + 1) members)

theorem prints_prettyItems (level : Nat) :
    ∀ items : List Json, List.Forall₂ Prints (prettyItems level items) (itemLexemes items)
  | [] => .nil
  | item :: rest => .cons (prints_prettyAt level item) (prints_prettyItems level rest)

theorem prints_prettyMembers (level : Nat) : ∀ members : List (Text × Json),
    List.Forall₂ Prints (prettyMembers level members) (memberLexemes members)
  | [] => .nil
  | (name, value) :: rest =>
    .cons (prints_member name (prints_prettyAt level value)) (prints_prettyMembers level rest)

end

/-- A text that gives the lexemes of a value stands for it. -/
theorem Prints.spells {s : Text} {value : Json} (h : Prints s (lexemes value)) : Spells s value := by
  have hwhole := h [] [] (fun c hc => by cases hc) .nil
  rwa [List.append_nil, List.append_nil] at hwhole

/-- **What is written in either layout is of the grammar**, and stands for the value. -/
theorem spells_write (layered : Bool) (value : Json) : Spells (value.write layered) value := by
  cases layered with
  | false => exact (prints_compact value).spells
  | true => exact (prints_prettyAt 0 value).spells

/-- **What is written in either layout is read as the value.** -/
theorem read_write (layered : Bool) (value : Json) : read (value.write layered) = some value :=
  read_of_spells (spells_write layered value)

end Stencil.Json
