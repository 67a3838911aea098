import Stencil.Environment
import Stencil.Proofs.Mapping

/-!
# `Stencil.Proofs.Environment` — global variables hide local ones

A name of an environment may come from several keys: the text `1` and the number one have the same text.
A name that holds an underscore comes from the text itself and from nothing else, unless it looks like
octets or like a tuple (`Key.eq_text_of_toText`).  Of such a name the global variables decide alone.

## Contents
- **Texts without an underscore**: those of numbers, dates and times.
- **Names of one key.** `Key.eq_text_of_toText`.
- **`Environment.lookup_merge`**.
-/

namespace Stencil

/-! ## Texts without an underscore -/

theorem Text.unscored_ofNat (n : Nat) : '_' ∉ Text.ofNat n := fun h =>
  absurd (Nat.isDigit_of_mem_toDigits (by decide) (by decide) h) (by decide)

theorem Text.unscored_ofInt (n : Int) : '_' ∉ Text.ofInt n := by
  cases n with
  | ofNat n => exact unscored_ofNat n
  | negSucc n => simp [ofInt, unscored_ofNat]

theorem Text.unscored_padded (width n : Nat) : '_' ∉ Text.padded width n := by
  simp [padded, unscored_ofNat]

theorem Date.unscored_toText (d : Date) : '_' ∉ d.toText := by
  simp [toText, Text.unscored_padded]

theorem Zone.unscored_toText (zone : Zone) : '_' ∉ zone.toText := by
  rw [toText]
  split <;> simp [Text.unscored_padded]

theorem DateTime.unscored_toText (t : DateTime) : '_' ∉ t.toText := by
  have hfraction : '_' ∉ (if t.microsecond = 0 then [] else '.' :: Text.padded 6 t.microsecond) := by
    split <;> simp [Text.unscored_padded]
  have hzone : '_' ∉ (t.zone?.map Zone.toText).getD [] := by
    cases t.zone? <;> simp [Zone.unscored_toText]
  simp [toText, Date.unscored_toText, Text.unscored_padded, hfraction, hzone]

theorem unscored_withoutEndZeros {digits : Text} (h : '_' ∉ digits) :
    '_' ∉ withoutEndZeros digits := by
  rw [withoutEndZeros, List.mem_reverse]
  intro hmem
  exact h (List.mem_reverse.1 ((List.dropWhile_suffix _).subset hmem))

theorem unscored_showDecimal {digits : Text} (h : '_' ∉ digits) (leading : Int) :
    '_' ∉ showDecimal digits leading := by
  have htake (n : Nat) : '_' ∉ digits.take n := fun hmem => h (List.mem_of_mem_take hmem)
  have hdrop (n : Nat) : '_' ∉ digits.drop n := fun hmem => h (List.mem_of_mem_drop hmem)
  rw [showDecimal]
  split
  · split
    · simp [h, Text.of]
    · simp only []
      split <;> simp [htake, hdrop]
  · have htail : '_' ∉ digits.tail := List.drop_one ▸ hdrop 1
    simp only []
    split <;> split <;> simp [htake, htail, Text.unscored_padded]

theorem Binary64.unscored_toText (x : Binary64) : '_' ∉ x.toText := by
  have hsign (negative : Bool) : '_' ∉ (if negative then ['-'] else []) := by
    cases negative <;> simp
  cases x with
  | nan => decide
  | infinite negative => cases negative <;> decide
  | finite negative mantissa exponent =>
    rw [toText]
    split
    · rw [List.mem_append, not_or]
      exact ⟨hsign negative, by decide⟩
    · rw [List.mem_append, not_or]
      exact ⟨hsign negative,
        unscored_showDecimal (unscored_withoutEndZeros (Text.unscored_ofNat _)) _⟩

/-! ## Names of one key -/

/-- A tuple is written between brackets. -/
theorem head?_tupleText (items : List Text) : (tupleText items).head? = some '(' := by
  rcases items with _ | ⟨item, _ | ⟨other, rest⟩⟩ <;> rfl

/-- **A name with an underscore is given by its text alone**, unless it is written like octets or like a
tuple. -/
theorem Key.eq_text_of_toText {key : Key} {name : Text} (hscore : '_' ∈ name)
    (hoctets : name.head? ≠ some 'b') (htuple : name.head? ≠ some '(')
    (h : key.toText = name) : key = .scalar (.text name) := by
  subst h
  rcases key with (_ | b | n | x | s | d | t | os) | items
  case scalar.text => rfl
  case scalar.null => exact absurd hscore (by decide)
  case scalar.bool => cases b <;> exact absurd hscore (by decide)
  case scalar.int => exact absurd hscore (Text.unscored_ofInt n)
  case scalar.float => exact absurd hscore x.unscored_toText
  case scalar.date => exact absurd hscore d.unscored_toText
  case scalar.dateTime => exact absurd hscore t.unscored_toText
  case scalar.octets => exact absurd rfl hoctets
  case tuple =>
    rw [Key.toText, Key.toQuoted] at htuple
    · exact absurd (head?_tupleText _) htuple
    · exact fun s hs => Key.noConfusion hs

/-! ## Global variables -/

namespace Environment

/-- A name that comes from one key has the value of that key. -/
theorem lookup_ofBindings {bindings : Bindings} {name : Text} {value : Value}
    (hbindings : bindings.Distinct)
    (hname : ∀ key : Key, key.toText = name → key = .scalar (.text name))
    (hfind : bindings.find? (.scalar (.text name)) = some value) :
    (ofBindings bindings).lookup name = textOf value := by
  obtain ⟨hmem, hsame⟩ := (hbindings.find?_eq_some_iff (sharp_text name)).1 hfind
  have hfound : (ofBindings bindings).names.find? name = some (textOf value) := by
    refine Mapping.find?_insertAll (sharp_of_lawful name) (.inl ?_) ?_
    · exact List.mem_map.2 ⟨_, hmem, rfl⟩
    · intro entry hentry hkey
      obtain ⟨⟨key, v⟩, hgiven, rfl⟩ := List.mem_map.1 hentry
      exact congrArg textOf (hsame (key, v) hgiven (hname key hkey))
  rw [lookup, hfound]
  rfl

/-- **Global variables hide local ones**: a name that comes from one key has the global value, if there
is one, whatever the local variables are. -/
theorem lookup_merge {locals globals : Bindings} {name : Text} {value : Value}
    (hglobals : globals.Distinct)
    (hname : ∀ key : Key, key.toText = name → key = .scalar (.text name))
    (hfind : globals.find? (.scalar (.text name)) = some value) :
    (merge locals globals).lookup name = textOf value := by
  refine lookup_ofBindings ?_ hname (Mapping.find?_update hglobals (sharp_text name) hfind)
  exact (Mapping.distinct_empty.insertAll locals.entries).insertAll globals.entries

end Environment

end Stencil
