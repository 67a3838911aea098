/-!
# `Stencil.HashOrder` — the order in which a hash table gives back numbers

A table has a power of two of places.  A number is put at the place that its hash names; if that is taken,
a few places after it are tried, and then the search goes on elsewhere.  The table gives its items back from
the first place to the last.

## Contents
- **`numberHash`**, the hash of a number: its residue modulo a prime, as a word of 64 bits.
- **`tableSize`** and **`freePlace`**, how large a table is, and where an item is put.
- **`inHashOrder`**, items with their hashes in the order of a table.
-/

namespace Stencil

/-- The modulus of hashes, a prime that is one less than the sixty-first power of two. -/
def hashModulus : Nat := 2305843009213693951

/-- The hash of `numerator` over two to the power of `halvings`.  Modulo the prime a half is the sixtieth
power of two.  The hash minus one stands for no number. -/
def numberHash (numerator : Int) (halvings : Nat) : Nat :=
  let half := (hashModulus + 1) / 2
  let residue := Nat.repeat (fun n => n * half % hashModulus) halvings (numerator.natAbs % hashModulus)
  let signed : Int := if numerator < 0 then -residue else residue
  ((if signed = -1 then -2 else signed) % 18446744073709551616).toNat

/-- The number of places of a table: at least eight, and more than twice the number of items if there are
five or more. -/
def tableSize (count : Nat) : Nat :=
  if count < 5 then 8 else Nat.pow 2 (Nat.log2 (2 * count) + 1)

/-- How many places after a taken one are tried, unless the table ends before. -/
def neighbours : Nat := 9

/-- The first free place in the search from a place on; `rest` is what of the hash still turns the search. -/
def freePlace (size : Nat) (taken : List Nat) : Nat → (place rest : Nat) → Nat
  | 0, place, _ => place
  | fuel + 1, place, rest =>
    let tried := if place + neighbours < size then neighbours + 1 else 1
    match (List.range' place tried).find? fun place => !taken.contains place with
    | some free => free
    | none =>
      let rest := rest / 32
      freePlace size taken fuel ((5 * place + 1 + rest) % size) rest

/-- Items with their hashes, in the order of a table that they are put into one after the other. -/
def inHashOrder {α : Type} (items : List (α × Nat)) : List α :=
  let size := tableSize items.length
  -- a hash has turned the search thirteen times when nothing is left of it, and then every place is tried
  let put (table : List (Nat × α)) (item : α × Nat) : List (Nat × α) :=
    (freePlace size (table.map Prod.fst) (size + 13) (item.2 % size) item.2, item.1) :: table
  ((items.foldl put []).mergeSort fun a b => a.1 ≤ b.1).map Prod.snd

end Stencil
