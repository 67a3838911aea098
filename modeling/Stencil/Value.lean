import Stencil.Calendar
import Stencil.HashOrder
import Stencil.Mapping
import Stencil.Number.Shortest
import Stencil.Text.Octets

/-!
# `Stencil.Value` — the values that variables and settings may have

## Contents
- **`Scalar`**, **`Key`** and **`Value`**: single values, what a mapping may be keyed by, and the sets,
  lists and mappings made of them; **`Simple`**, the values that are no lists or mappings.
- **`Scalar.same`**: keys are the same if they are equal as numbers, truth values counting as one and
  zero, or as texts, octets, dates or times.  Each not-a-number is a key of its own.
  **`Scalar.less`**: the order of numbers.
- **`shownElements`**, the elements of a set in the order of their texts.
- **`toText`**, the text of a value, and **`toQuoted`**, its text inside a list or a mapping;
  **`isWritable`**, whether there is such a text: an integer may have too many digits.
- **`kind`**, what a value is called when it is of the wrong kind, and **`isBlank`**, whether it counts
  as nothing.
-/

namespace Stencil

/-- A single value. -/
inductive Scalar where
  | null
  | bool (b : Bool)
  | int (n : Int)
  | float (x : Binary64)
  | text (s : Text)
  | date (d : Date)
  | dateTime (t : DateTime)
  | octets (os : List UInt8)
deriving DecidableEq, Repr

/-- What a mapping may be keyed by. -/
inductive Key where
  | scalar (s : Scalar)
  | tuple (items : List Key)
deriving Repr

/-- A value. -/
inductive Value where
  | scalar (s : Scalar)
  | set (elements : List Key)
  | list (items : List Value)
  | mapping (entries : List (Key × Value))
deriving Repr

instance : Inhabited Value := ⟨.scalar .null⟩

/-- A value that is neither a list nor a mapping. -/
inductive Simple where
  | scalar (s : Scalar)
  | set (elements : List Key)
deriving Repr

/-! ## Sameness -/

/-- The exact value of a finite number, as an integer over a power of two. -/
def Scalar.ratio? : Scalar → Option (Int × Nat)
  | .bool b => some (if b then 1 else 0, 0)
  | .int n => some (n, 0)
  | .float (.finite negative mantissa exponent) =>
    let magnitude : Int := mantissa * Binary64.twoTo exponent.toNat
    some (if negative then -magnitude else magnitude, (-exponent).toNat)
  | _ => none

/-- Whether two single values are the same key.  A look-up takes the very same object for the same before it
compares; here each not-a-number is taken for an object of its own, so that none is the same as another. -/
def Scalar.same (a b : Scalar) : Bool :=
  match a, b with
  | .text s, .text t => s == t
  | .dateTime s, .dateTime t => s.same t
  | a, b =>
    match a.ratio?, b.ratio? with
    | some (m, i), some (n, j) => m * Binary64.twoTo j == n * Binary64.twoTo i
    | none, none => a != .float .nan && a == b
    | _, _ => false

mutual

/-- Whether two keys are the same. -/
def Key.same : Key → Key → Bool
  | .scalar a, .scalar b => a.same b
  | .tuple as, .tuple bs => sameItems as bs
  | _, _ => false

/-- Whether two tuples have the same items. -/
def sameItems : List Key → List Key → Bool
  | [], [] => true
  | a :: as, b :: bs => a.same b && sameItems as bs
  | _, _ => false

end

instance : BEq Key := ⟨Key.same⟩

/-- The variables or settings that a mapping of any keys holds. -/
abbrev Bindings := Mapping Key Value

/-- Whether one number is less than another.  Not-a-number is less than nothing, and nothing than it. -/
def Scalar.less (a b : Scalar) : Bool :=
  match a, b with
  | .float .nan, _ | _, .float .nan => false
  | .float (.infinite n), .float (.infinite m) => n && !m
  | .float (.infinite n), _ => n
  | _, .float (.infinite m) => !m
  | a, b =>
    match a.ratio?, b.ratio? with
    | some (m, i), some (n, j) => m * Binary64.twoTo j < n * Binary64.twoTo i
    | _, _ => false

/-! ## Text -/

/-- The text of a truth value. -/
def boolText (b : Bool) : Text :=
  if b then Text.of "True" else Text.of "False"

/-- The text of a single value. -/
def Scalar.toText : Scalar → Text
  | .null => Text.of "None"
  | .bool b => boolText b
  | .int n => Text.ofInt n
  | .float x => x.toText
  | .text s => s
  | .date d => d.toText
  | .dateTime t => t.toText
  | .octets os => Octets.quoted os

/-- A single value inside a list or a mapping: a text is quoted. -/
def Scalar.toQuoted : Scalar → Text
  | .text s => s.quoted
  | .date d => d.toQuoted
  | .dateTime t => t.toQuoted
  | s => s.toText

/-- The items of a tuple between brackets; a single item keeps its comma. -/
def tupleText : List Text → Text
  | [item] => '(' :: item ++ Text.of ",)"
  | items => bracketed '(' ')' items

mutual

/-- A key inside a mapping. -/
def Key.toQuoted : Key → Text
  | .scalar s => s.toQuoted
  | .tuple items => tupleText (quotedKeys items)

/-- The texts of some keys. -/
def quotedKeys : List Key → List Text
  | [] => []
  | key :: rest => key.toQuoted :: quotedKeys rest

end

/-- The name that a key gives to a variable. -/
def Key.toText : Key → Text
  | .scalar s => s.toText
  | key => key.toQuoted

/-- A key with the hash of the number that it is, if it is one. -/
def Key.hashed? : Key → Option (Key × Nat)
  | .scalar s => s.ratio?.map fun (numerator, halvings) => (.scalar s, numberHash numerator halvings)
  | .tuple _ => none

/-- The elements of a set as they are shown: numbers as a hash table gives them back, others as they
came. -/
def shownElements (elements : List Key) : List Key :=
  ((elements.mapM Key.hashed?).map inHashOrder).getD elements

/-- The text of a set; the empty one is written as a call. -/
def setText (elements : List Key) : Text :=
  if elements.isEmpty then Text.of "set()"
  else bracketed '\x7b' '\x7d' (quotedKeys (shownElements elements))

mutual

/-- A value inside a list or a mapping. -/
def Value.toQuoted : Value → Text
  | .scalar s => s.toQuoted
  | .set elements => setText elements
  | .list items => bracketed '[' ']' (quotedItems items)
  | .mapping entries => bracketed '\x7b' '\x7d' (quotedEntries entries)

/-- The texts of the items of a list. -/
def quotedItems : List Value → List Text
  | [] => []
  | v :: vs => v.toQuoted :: quotedItems vs

/-- The texts of the entries of a mapping. -/
def quotedEntries : List (Key × Value) → List Text
  | [] => []
  | (k, v) :: rest => (k.toQuoted ++ Text.of ": " ++ v.toQuoted) :: quotedEntries rest

end

/-- The text of a value. -/
def Value.toText : Value → Text
  | .scalar s => s.toText
  | v => v.toQuoted

/-! ## Values without a text -/

/-- Whether a single value has a text. -/
def Scalar.isWritable : Scalar → Bool
  | .int n => Text.isWritable n
  | _ => true

mutual

/-- Whether a key has a text. -/
def Key.isWritable : Key → Bool
  | .scalar s => s.isWritable
  | .tuple items => areWritable items

/-- Whether all of some keys have a text. -/
def areWritable : List Key → Bool
  | [] => true
  | key :: rest => key.isWritable && areWritable rest

end

mutual

/-- Whether a value has a text. -/
def Value.isWritable : Value → Bool
  | .scalar s => s.isWritable
  | .set elements => areWritable elements
  | .list items => writableItems items
  | .mapping entries => writableEntries entries

/-- Whether all items of a list have a text. -/
def writableItems : List Value → Bool
  | [] => true
  | v :: vs => v.isWritable && writableItems vs

/-- Whether all entries of a mapping have a text. -/
def writableEntries : List (Key × Value) → Bool
  | [] => true
  | (k, v) :: rest => k.isWritable && v.isWritable && writableEntries rest

end

/-! ## Kinds -/

/-- What a single value is called. -/
def Scalar.kind : Scalar → Text
  | .null => Text.of "NoneType"
  | .bool _ => Text.of "bool"
  | .int _ => Text.of "int"
  | .float _ => Text.of "float"
  | .text _ => Text.of "str"
  | .date _ => Text.of "datetime.date"
  | .dateTime _ => Text.of "datetime.datetime"
  | .octets _ => Text.of "bytes"

/-- What a key is called. -/
def Key.kind : Key → Text
  | .scalar s => s.kind
  | .tuple _ => Text.of "tuple"

/-- What a value is called. -/
def Value.kind : Value → Text
  | .scalar s => s.kind
  | .set _ => Text.of "set"
  | .list _ => Text.of "list"
  | .mapping _ => Text.of "dict"

/-- Whether a value counts as nothing: the missing value, falsehood, zero, and what is empty. -/
def Value.isBlank : Value → Bool
  | .scalar .null => true
  | .scalar (.text s) => s.isEmpty
  | .scalar (.octets os) => os.isEmpty
  | .scalar s => s.same (.int 0)
  | .set elements => elements.isEmpty
  | .list items => items.isEmpty
  | .mapping entries => entries.isEmpty

/-! ## Simple values -/

/-- A simple value as one of all values. -/
def Simple.toValue : Simple → Value
  | .scalar s => .scalar s
  | .set elements => .set elements

/-- A value as a simple one, if it is neither a list nor a mapping. -/
def Value.simple? : Value → Option Simple
  | .scalar s => some (.scalar s)
  | .set elements => some (.set elements)
  | .list _ | .mapping _ => none

theorem Value.simple?_eq_some_iff {v : Value} {s : Simple} :
    v.simple? = some s ↔ v = s.toValue := by
  cases v <;> cases s <;> simp [simple?, Simple.toValue]

end Stencil
