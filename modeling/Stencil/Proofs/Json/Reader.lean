import Stencil.Proofs.Json.Grammar

/-!
# `Stencil.Proofs.Json.Reader` — a value is read back from its text

A text is read in two rounds.  The first one takes it apart into lexemes, one after the other from the
left.  The second one puts values together: it goes through the lexemes once and keeps, for each array or
object that is open, what stands in it so far.  Every text of the grammar is read, and as the value that
it stands for.  So no text stands for two values.

## Contents
- **Strings.** `readString`, and `readString_of_inString`.
- **Lexemes.** `lexeme?` and **`lex`**; **`lex_of_lexes`**.
- **Values.** `buildStep`, one lexeme, and **`build`**; `build_lexemes` by way of a run over each value.
- **`read`**, both rounds, and **`read_of_spells`**.
-/

namespace Stencil.Json

open Text (readCode? hexValue? readCode?_eq)

/-! ## Strings -/

/-- A character put in front of what is read. -/
def inFront (c : Char) (read : Text × Text) : Text × Text :=
  (c :: read.1, read.2)

/-- The text between the quotes of a string, behind the first of them, and what is behind the last. -/
def readString : Text → Option (Text × Text)
  | [] => none
  | '"' :: rest => some ([], rest)
  | '\\' :: 'u' :: a :: b :: c :: d :: rest =>
    (readCode? 4 [a, b, c, d]).bind fun (first, _) => (readString rest).map (inFront first)
  | '\\' :: letter :: rest =>
    (escapes.lookup letter).bind fun first => (readString rest).map (inFront first)
  | c :: rest => if c ≠ '\\' ∧ 0x20 ≤ c.toNat then (readString rest).map (inFront c) else none

theorem readString_plain {c : Char} (hquote : c ≠ '"') (hmark : c ≠ '\\') (hcontrol : 0x20 ≤ c.toNat)
    (s : Text) : readString (c :: s) = (readString s).map (inFront c) := by
  rw [readString]
  · exact if_pos ⟨hmark, hcontrol⟩
  all_goals simp_all

theorem readString_escape {letter c : Char} (h : (letter, c) ∈ escapes) (s : Text) :
    readString ('\\' :: letter :: s) = (readString s).map (inFront c) := by
  simp only [escapes, List.mem_cons, List.not_mem_nil, or_false, Prod.mk.injEq] at h
  rcases h with ⟨rfl, rfl⟩ | ⟨rfl, rfl⟩ | ⟨rfl, rfl⟩ | ⟨rfl, rfl⟩ | ⟨rfl, rfl⟩ | ⟨rfl, rfl⟩ |
    ⟨rfl, rfl⟩ | ⟨rfl, rfl⟩ <;>
  · rw [readString]
    · rfl
    · simp

theorem readString_code {digits : Text} {c : Char} (hlength : digits.length = 4)
    (hvalue : hexValue? digits = some c.toNat) (s : Text) :
    readString ('\\' :: 'u' :: (digits ++ s)) = (readString s).map (inFront c) := by
  match digits, hlength with
  | [first, second, third, fourth], _ =>
    have hcode : readCode? 4 [first, second, third, fourth] = some (c, []) := readCode?_eq hvalue
    show readString ('\\' :: 'u' :: first :: second :: third :: fourth :: s) = _
    rw [readString, hcode]
    rfl

/-- **A string is read back from what is written for it.** -/
theorem readString_of_inString {written s : Text} (h : InString written s) (rest : Text) :
    readString (written ++ '"' :: rest) = some (s, rest) := by
  induction h with
  | nil => rfl
  | plain hquote hmark hcontrol _ ih =>
    rw [List.cons_append, readString_plain hquote hmark hcontrol, ih]
    rfl
  | escape hletter _ ih =>
    rw [List.cons_append, List.cons_append, readString_escape hletter, ih]
    rfl
  | code hlength hvalue _ ih =>
    rw [List.cons_append, List.cons_append, List.append_assoc, readString_code hlength hvalue, ih]
    rfl

/-- What is made of what is read does not change what is behind it. -/
theorem exists_of_map {α β : Type} (f : α → β) {read : Option (α × Text)} {b : β} {rest : Text}
    (h : read.map (fun found => (f found.1, found.2)) = some (b, rest)) :
    ∃ a, read = some (a, rest) := by
  obtain ⟨⟨a, last⟩, hread, heq⟩ := Option.map_eq_some_iff.1 h
  obtain ⟨-, rfl⟩ := Prod.mk.inj heq
  exact ⟨a, hread⟩

/-- What is behind a string is shorter than what is behind its first quote. -/
theorem length_of_readString {written s rest : Text} (h : readString written = some (s, rest)) :
    rest.length < written.length := by
  fun_induction readString written generalizing s with
  | case1 => cases h
  | case2 behind =>
    cases h
    exact Nat.lt_succ_self _
  | case3 a b c d behind ih =>
    obtain ⟨_, _, hmap⟩ := Option.bind_eq_some_iff.1 h
    obtain ⟨t, hread⟩ := exists_of_map (List.cons _) hmap
    have hshort := ih hread
    simp only [List.length_cons]
    omega
  | case4 letter behind _ ih =>
    obtain ⟨_, _, hmap⟩ := Option.bind_eq_some_iff.1 h
    obtain ⟨t, hread⟩ := exists_of_map (List.cons _) hmap
    exact Nat.lt_succ_of_lt (Nat.lt_succ_of_lt (ih hread))
  | case5 c behind _ _ _ _ ih =>
    obtain ⟨t, hread⟩ := exists_of_map (List.cons _) h
    exact Nat.lt_succ_of_lt (ih hread)
  | case6 => cases h

/-! ## Lexemes -/

/-- The number whose numeral comes first, and what is behind its digits.  A numeral has no zeros in
front. -/
def readNumeral (s : Text) : Option (Nat × Text) :=
  let digits := s.takeWhile Char.isDigit
  let n := Nat.ofDigitChars 10 digits 0
  if digits = Text.ofNat n then some (n, s.dropWhile Char.isDigit) else none

/-- A numeral begins with a digit. -/
theorem exists_head_ofNat (n : Nat) : ∃ c more, Text.ofNat n = c :: more ∧ c.isDigit = true := by
  obtain ⟨c, more, hcons⟩ := List.exists_cons_of_ne_nil (Text.ofNat_ne_nil n)
  exact ⟨c, more, hcons, Text.isDigit_of_mem_ofNat (hcons ▸ List.mem_cons_self)⟩

/-- A numeral is read back if no digit follows it. -/
theorem readNumeral_ofNat (n : Nat) {rest : Text} (h : NoDigit rest) :
    readNumeral (Text.ofNat n ++ rest) = some (n, rest) := by
  have hdigits : ∀ c ∈ Text.ofNat n, c.isDigit = true := fun c => Text.isDigit_of_mem_ofNat
  have hnone : rest.takeWhile Char.isDigit = [] ∧ rest.dropWhile Char.isDigit = rest := by
    cases rest with
    | nil => exact ⟨rfl, rfl⟩
    | cons c rest =>
      have hc : ¬ c.isDigit = true := by simp [h c rfl]
      exact ⟨List.takeWhile_cons_of_neg hc, List.dropWhile_cons_of_neg hc⟩
  have htake : (Text.ofNat n ++ rest).takeWhile Char.isDigit = Text.ofNat n := by
    rw [List.takeWhile_append_of_pos hdigits, hnone.1, List.append_nil]
  have hdrop : (Text.ofNat n ++ rest).dropWhile Char.isDigit = rest := by
    rw [List.dropWhile_append_of_pos hdigits, hnone.2]
  rw [readNumeral]
  simp only [htake, hdrop, Text.ofDigitChars_ofNat, if_true]

/-- What is behind a numeral is shorter. -/
theorem length_of_readNumeral {s rest : Text} {n : Nat} (h : readNumeral s = some (n, rest)) :
    rest.length < s.length := by
  unfold readNumeral at h
  simp only [] at h
  split at h
  next hdigits =>
    obtain ⟨-, rfl⟩ := Prod.mk.inj (Option.some.inj h)
    have hne : 0 < (s.takeWhile Char.isDigit).length := by
      rw [hdigits]
      exact List.length_pos_iff.2 (Text.ofNat_ne_nil _)
    have hwhole := congrArg List.length (List.takeWhile_append_dropWhile (p := Char.isDigit) (l := s))
    rw [List.length_append] at hwhole
    omega
  next => cases h

/-- The first lexeme of a text, and what is behind it. -/
def lexeme? : Text → Option (Lexeme × Text)
  | '[' :: rest => some (.openArray, rest)
  | ']' :: rest => some (.closeArray, rest)
  | '\x7b' :: rest => some (.openObject, rest)
  | '\x7d' :: rest => some (.closeObject, rest)
  | ',' :: rest => some (.comma, rest)
  | ':' :: rest => some (.colon, rest)
  | 'n' :: 'u' :: 'l' :: 'l' :: rest => some (.null, rest)
  | 't' :: 'r' :: 'u' :: 'e' :: rest => some (.bool true, rest)
  | 'f' :: 'a' :: 'l' :: 's' :: 'e' :: rest => some (.bool false, rest)
  | '"' :: rest => (readString rest).map fun (s, rest) => (.string s, rest)
  | '-' :: rest => (readNumeral rest).map fun (n, rest) => (.number (-n), rest)
  | s => (readNumeral s).map fun (n, rest) => (.number n, rest)

/-- What is behind a lexeme is shorter. -/
theorem length_of_lexeme? {s rest : Text} {first : Lexeme} (h : lexeme? s = some (first, rest)) :
    rest.length < s.length := by
  unfold lexeme? at h
  split at h
  case h_10 behind =>
    obtain ⟨t, hread⟩ := exists_of_map Lexeme.string h
    exact Nat.lt_succ_of_lt (length_of_readString hread)
  case h_11 behind =>
    obtain ⟨n, hread⟩ := exists_of_map (fun n : Nat => Lexeme.number (-n)) h
    exact Nat.lt_succ_of_lt (length_of_readNumeral hread)
  case h_12 =>
    obtain ⟨n, hread⟩ := exists_of_map (fun n : Nat => Lexeme.number n) h
    exact length_of_readNumeral hread
  all_goals
    cases h
    simp only [List.length_cons]
    omega

/-- A numeral is the first lexeme where a digit comes first. -/
theorem lexeme?_digit {c : Char} (hc : c.isDigit = true) (s : Text) :
    lexeme? (c :: s) = (readNumeral (c :: s)).map fun (n, rest) => (.number n, rest) := by
  have hother (d : Char) (hd : d.isDigit = false) : c ≠ d := by
    rintro rfl
    rw [hd] at hc
    cases hc
  rw [lexeme?]
  all_goals
    intro rest h
    exact hother _ (by decide) (List.cons.inj h).1

/-- **A lexeme is read back from what is written for it**, if it ends there. -/
theorem lexeme?_of_spelled {first : Lexeme} {written rest : Text} (h : first.Spelled written)
    (hends : first.Ends rest) : lexeme? (written ++ rest) = some (first, rest) := by
  cases h with
  | openArray | closeArray | openObject | closeObject | comma | colon | null => rfl
  | bool b => cases b <;> rfl
  | number n =>
    obtain ⟨c, more, hcons, hc⟩ := exists_head_ofNat n
    have hread := readNumeral_ofNat n hends
    rw [hcons] at hread ⊢
    rw [List.cons_append] at hread ⊢
    rw [lexeme?_digit hc, hread]
    rfl
  | negative n =>
    rw [List.cons_append, lexeme?, readNumeral_ofNat n hends]
    rfl
  | string hstring =>
    rw [List.cons_append, List.append_assoc, lexeme?, List.singleton_append,
      readString_of_inString hstring]
    rfl

/-- No lexeme begins with a blank. -/
theorem Lexeme.Spelled.exists_head {first : Lexeme} {written : Text} (h : first.Spelled written) :
    ∃ c more, written = c :: more ∧ isBlank c = false := by
  cases h with
  | openArray | closeArray | openObject | closeObject | comma | colon | null =>
    exact ⟨_, _, rfl, by decide⟩
  | bool b => cases b <;> exact ⟨_, _, rfl, by decide⟩
  | number n =>
    obtain ⟨c, more, hcons, hc⟩ := exists_head_ofNat n
    refine ⟨c, more, hcons, Bool.eq_false_iff.2 fun hblank => ?_⟩
    simp only [isBlank, Bool.or_eq_true, decide_eq_true_eq] at hblank
    rcases hblank with ((rfl | rfl) | rfl) | rfl <;> exact absurd hc (by decide)
  | negative n => exact ⟨_, _, rfl, by decide⟩
  | string _ => exact ⟨_, _, rfl, by decide⟩

/-- The lexemes of a text, if it is made of lexemes and blanks. -/
def lex (s : Text) : Option (List Lexeme) :=
  match s with
  | [] => some []
  | c :: behind =>
    if isBlank c then lex behind
    else
      match _hfirst : lexeme? (c :: behind) with
      | none => none
      | some (first, rest) => (lex rest).map (first :: ·)
termination_by s.length
decreasing_by
  · exact Nat.lt_succ_self _
  · exact length_of_lexeme? _hfirst

/-- **The lexemes of a text are read.** -/
theorem lex_of_lexes {s : Text} {found : List Lexeme} (h : Lexes s found) : lex s = some found := by
  induction h with
  | nil => rw [lex]
  | blank hblank _ ih => rw [lex, if_pos hblank, ih]
  | @lexeme first written rest more hspelled hends _ ih =>
    have hread := lexeme?_of_spelled hspelled hends
    obtain ⟨c, behind, rfl, hblank⟩ := hspelled.exists_head
    rw [List.cons_append] at hread ⊢
    rw [lex, hblank, if_neg Bool.false_ne_true]
    split
    next hnone =>
      rw [hnone] at hread
      cases hread
    next found last hfound =>
      obtain ⟨rfl, rfl⟩ := Prod.mk.inj (Option.some.inj (hfound.symm.trans hread))
      rw [ih]
      rfl

/-! ## Values -/

/-- An array or object that is open: what stands in it so far, and the name of the member underway. -/
inductive Frame where
  | array (items : List Json)
  | object (members : List (Text × Json)) (name : Text)

/-- What is looked for next. -/
inductive Stage where
  /-- A value. -/
  | value
  /-- The first item of an array, or its end. -/
  | firstItem
  /-- The first name of an object, or its end. -/
  | firstName
  /-- The name of a further member. -/
  | name (members : List (Text × Json))
  /-- The colon behind a name. -/
  | colon (members : List (Text × Json)) (name : Text)
  /-- What goes on behind a value. -/
  | behind (value : Json)

/-- What is open, from the inside to the outside, and what is looked for. -/
abbrev Building := List Frame × Stage

/-- The first lexeme of a value. -/
def beginValue (stack : List Frame) : Lexeme → Option Building
  | .null => some (stack, .behind .null)
  | .bool b => some (stack, .behind (.bool b))
  | .number n => some (stack, .behind (.number n))
  | .string s => some (stack, .behind (.string s))
  | .openArray => some (stack, .firstItem)
  | .openObject => some (stack, .firstName)
  | _ => none

/-- A lexeme behind a value. -/
def goOn (value : Json) : List Frame → Lexeme → Option Building
  | .array items :: stack, .comma => some (.array (items ++ [value]) :: stack, .value)
  | .array items :: stack, .closeArray => some (stack, .behind (.array (items ++ [value])))
  | .object members name :: stack, .comma => some (stack, .name (members ++ [(name, value)]))
  | .object members name :: stack, .closeObject =>
    some (stack, .behind (.object (members ++ [(name, value)])))
  | _, _ => none

/-- One lexeme of a text. -/
def buildStep : Building → Lexeme → Option Building
  | (stack, .value), first => beginValue stack first
  | (stack, .firstItem), .closeArray => some (stack, .behind (.array []))
  | (stack, .firstItem), first => beginValue (.array [] :: stack) first
  | (stack, .firstName), .closeObject => some (stack, .behind (.object []))
  | (stack, .firstName), .string name => some (stack, .colon [] name)
  | (stack, .name members), .string name => some (stack, .colon members name)
  | (stack, .colon members name), .colon => some (.object members name :: stack, .value)
  | (stack, .behind value), next => goOn value stack next
  | _, _ => none

/-- The lexemes of a text, one after the other. -/
def buildFrom (state : Building) (row : List Lexeme) : Option Building :=
  row.foldlM buildStep state

/-- The value that some lexemes make. -/
def build (row : List Lexeme) : Option Json :=
  match buildFrom ([], .value) row with
  | some ([], .behind value) => some value
  | _ => none

theorem buildFrom_cons {state next : Building} {first : Lexeme} (h : buildStep state first = some next)
    (row : List Lexeme) : buildFrom state (first :: row) = buildFrom next row := by
  rw [buildFrom, List.foldlM_cons, h]
  rfl

/-- A value does not begin with the end of an array. -/
theorem exists_first_lexeme (value : Json) :
    ∃ first more, lexemes value = first :: more ∧ first ≠ .closeArray := by
  cases value <;> exact ⟨_, _, rfl, Lexeme.noConfusion⟩

/-- The first item of an array is read as a further one is. -/
theorem buildFrom_firstItem (stack : List Frame) (value : Json) (row : List Lexeme) :
    buildFrom (stack, .firstItem) (lexemes value ++ row) =
      buildFrom (.array [] :: stack, .value) (lexemes value ++ row) := by
  obtain ⟨first, more, hfirst, hne⟩ := exists_first_lexeme value
  have hstep : buildStep (stack, .firstItem) first = buildStep (.array [] :: stack, .value) first := by
    cases first <;> first | rfl | exact absurd rfl hne
  rw [hfirst, List.cons_append, buildFrom, buildFrom, List.foldlM_cons, List.foldlM_cons, hstep]

theorem separated_cons_cons (row next : List Lexeme) (more : List (List Lexeme)) :
    separated (row :: next :: more) = row ++ .comma :: separated (next :: more) := rfl

/-- A row with commas begins with its first part. -/
theorem exists_separated_cons (row : List Lexeme) (more : List (List Lexeme)) :
    ∃ rest, separated (row :: more) = row ++ rest := by
  cases more with
  | nil => exact ⟨[], (List.append_nil row).symm⟩
  | cons next more => exact ⟨_, separated_cons_cons row next more⟩

/-- The first name of an object is read as a further one is. -/
theorem buildFrom_firstName (stack : List Frame) (name : Text) (row : List Lexeme) :
    buildFrom (stack, .firstName) (.string name :: row) =
      buildFrom (stack, .name []) (.string name :: row) := rfl

/-- A name and a colon open a member. -/
theorem buildFrom_name (stack : List Frame) (members : List (Text × Json)) (name : Text)
    (row : List Lexeme) :
    buildFrom (stack, .name members) (.string name :: .colon :: row) =
      buildFrom (.object members name :: stack, .value) row := rfl

mutual

/-- **A run over the lexemes of a value** leaves the value, whatever is open around it. -/
theorem buildFrom_lexemes : ∀ (value : Json) (stack : List Frame) (row : List Lexeme),
    buildFrom (stack, .value) (lexemes value ++ row) = buildFrom (stack, .behind value) row
  | .null, _, _ | .bool _, _, _ | .number _, _, _ | .string _, _, _ => rfl
  | .array [], _, _ => rfl
  | .array (item :: rest), stack, row => by
    have hopen : buildStep (stack, .value) .openArray = some (stack, .firstItem) := rfl
    obtain ⟨more, hmore⟩ := exists_separated_cons (lexemes item) (itemLexemes rest)
    have hitems := buildFrom_items (item :: rest) (List.cons_ne_nil item rest) [] stack row
    rw [lexemes, List.cons_append, buildFrom_cons hopen, List.append_assoc, List.singleton_append]
    rw [itemLexemes, hmore, List.append_assoc] at hitems ⊢
    rw [buildFrom_firstItem, hitems]
    rfl
  | .object [], _, _ => rfl
  | .object ((name, value) :: rest), stack, row => by
    have hopen : buildStep (stack, .value) .openObject = some (stack, .firstName) := rfl
    obtain ⟨more, hmore⟩ :=
      exists_separated_cons (.string name :: .colon :: lexemes value) (memberLexemes rest)
    have hmembers :=
      buildFrom_members ((name, value) :: rest) (List.cons_ne_nil _ rest) [] stack row
    rw [lexemes, List.cons_append, buildFrom_cons hopen, List.append_assoc, List.singleton_append]
    rw [memberLexemes, hmore, List.append_assoc, List.cons_append] at hmembers ⊢
    rw [buildFrom_firstName, hmembers]
    rfl

/-- A run over the items of an array that is open closes it. -/
theorem buildFrom_items : ∀ (items : List Json), items ≠ [] → ∀ (done : List Json)
    (stack : List Frame) (row : List Lexeme),
    buildFrom (.array done :: stack, .value)
        (separated (itemLexemes items) ++ .closeArray :: row) =
      buildFrom (stack, .behind (.array (done ++ items))) row
  | [], hne, _, _, _ => absurd rfl hne
  | [item], _, done, stack, row => by
    have hitem := buildFrom_lexemes item (.array done :: stack) (.closeArray :: row)
    rw [itemLexemes, itemLexemes, separated, hitem]
    exact buildFrom_cons rfl row
  | item :: next :: rest, _, done, stack, row => by
    have hitem := buildFrom_lexemes item (.array done :: stack)
      (.comma :: (separated (itemLexemes (next :: rest)) ++ .closeArray :: row))
    have hcomma : buildStep (.array done :: stack, .behind item) .comma =
        some (.array (done ++ [item]) :: stack, .value) := rfl
    have hrest :=
      buildFrom_items (next :: rest) (List.cons_ne_nil next rest) (done ++ [item]) stack row
    rw [itemLexemes, itemLexemes, separated_cons_cons, List.append_assoc, List.cons_append]
    rw [itemLexemes] at hitem hrest
    rw [hitem, buildFrom_cons hcomma, hrest, List.append_assoc, List.singleton_append]

/-- A run over the members of an object that is open closes it. -/
theorem buildFrom_members : ∀ (members : List (Text × Json)), members ≠ [] →
    ∀ (done : List (Text × Json)) (stack : List Frame) (row : List Lexeme),
    buildFrom (stack, .name done)
        (separated (memberLexemes members) ++ .closeObject :: row) =
      buildFrom (stack, .behind (.object (done ++ members))) row
  | [], hne, _, _, _ => absurd rfl hne
  | [(name, value)], _, done, stack, row => by
    have hvalue := buildFrom_lexemes value (.object done name :: stack) (.closeObject :: row)
    rw [memberLexemes, memberLexemes, separated, List.cons_append, List.cons_append, buildFrom_name,
      hvalue]
    exact buildFrom_cons rfl row
  | (name, value) :: (other, otherValue) :: rest, _, done, stack, row => by
    have hvalue := buildFrom_lexemes value (.object done name :: stack)
      (.comma :: (separated (memberLexemes ((other, otherValue) :: rest)) ++ .closeObject :: row))
    have hcomma : buildStep (.object done name :: stack, .behind value) .comma =
        some (stack, .name (done ++ [(name, value)])) := rfl
    have hrest := buildFrom_members ((other, otherValue) :: rest) (List.cons_ne_nil _ rest)
      (done ++ [(name, value)]) stack row
    rw [memberLexemes, memberLexemes, separated_cons_cons, List.append_assoc, List.cons_append,
      List.cons_append, buildFrom_name, List.cons_append]
    rw [memberLexemes] at hvalue hrest
    rw [hvalue, buildFrom_cons hcomma, hrest, List.append_assoc, List.singleton_append]

end

/-- **The lexemes of a value make the value.** -/
theorem build_lexemes (value : Json) : build (lexemes value) = some value := by
  have hrun := buildFrom_lexemes value [] []
  rw [List.append_nil] at hrun
  rw [build, hrun]
  rfl

/-! ## Both rounds -/

/-- The value that a text stands for, if it is one of the format. -/
def read (s : Text) : Option Json :=
  (lex s).bind build

/-- **Every text of the grammar is read as what it stands for.** -/
theorem read_of_spells {s : Text} {value : Json} (h : Spells s value) : read s = some value := by
  rw [read, lex_of_lexes h]
  exact build_lexemes value

/-- No text stands for two values. -/
theorem Spells.unique {s : Text} {value other : Json} (h : Spells s value) (hother : Spells s other) :
    value = other :=
  Option.some.inj ((read_of_spells h).symm.trans (read_of_spells hother))

end Stencil.Json
