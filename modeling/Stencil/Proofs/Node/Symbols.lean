import Stencil.Node
import Stencil.Token

/-!
# `Stencil.Proofs.Node.Symbols` — trees written back as tokens

A tree is written back as the tokens it may have come from, without their places: a literal as text, a
variable as itself, a conditional as its body between an opening and a closing token.  Lists of literals,
variables and conditionals, the only trees that come out of tokens, are singled out as `Plain`.

## Contents
- **`Symbol`**, a token without its place, and **`Token.symbol`**.
- **`Node.symbols`** and **`symbolsAll`**, the symbols of a tree and of trees in a row.
- **`Plain`**, statements of the three kinds that can be written.
-/

namespace Stencil

/-! ## Symbols -/

/-- A token without its place. -/
structure Symbol where
  kind : TokenKind
  value : Text
deriving DecidableEq, Repr

/-- The symbol that closes a condition. -/
def Symbol.closing : Symbol :=
  ⟨.endif, []⟩

/-- The symbol of a token.  Closing tokens are told apart by nothing but their kind. -/
def Token.symbol (t : Token) : Symbol :=
  ⟨t.kind, if t.kind = .endif then [] else t.value⟩

theorem Token.symbol_of_ne_endif {t : Token} (h : t.kind ≠ .endif) :
    t.symbol = ⟨t.kind, t.value⟩ := by
  rw [Token.symbol, if_neg h]

theorem Token.symbol_of_endif {t : Token} (h : t.kind = .endif) : t.symbol = .closing := by
  rw [Token.symbol, if_pos h, h]
  rfl

/-! ## Trees as symbols -/

mutual

/-- The symbols that a tree is written with; a node of another kind is not written. -/
def Node.symbols : Node → List Symbol
  | .literal text => [⟨.text, text⟩]
  | .variable name => [⟨.variable, name⟩]
  | .block statements => symbolsAll statements
  | .conditional condition body => ⟨.ifOpen, condition⟩ :: (symbolsAll body ++ [.closing])
  | .other _ => []

/-- The symbols of trees one after the other. -/
def symbolsAll : List Node → List Symbol
  | [] => []
  | node :: rest => node.symbols ++ symbolsAll rest

end

theorem symbolsAll_append (as bs : List Node) :
    symbolsAll (as ++ bs) = symbolsAll as ++ symbolsAll bs := by
  induction as with
  | nil => rfl
  | cons a as ih => rw [List.cons_append, symbolsAll, symbolsAll, ih, List.append_assoc]

/-- Statements are kept with the last one first while they are read. -/
theorem symbolsAll_reverse_cons (node : Node) (statements : List Node) :
    symbolsAll (node :: statements).reverse = symbolsAll statements.reverse ++ node.symbols := by
  rw [List.reverse_cons, symbolsAll_append, symbolsAll, symbolsAll, List.append_nil]

/-! ## Plain statements -/

/-- Statements made of literals, variables and conditionals only, whose bodies are such statements. -/
inductive Plain : List Node → Prop where
  | nil : Plain []
  | literal {text : Text} {rest : List Node} (hrest : Plain rest) : Plain (.literal text :: rest)
  | variable {name : Text} {rest : List Node} (hrest : Plain rest) : Plain (.variable name :: rest)
  | conditional {condition : Text} {body rest : List Node} (hbody : Plain body)
      (hrest : Plain rest) : Plain (.conditional condition body :: rest)

theorem Plain.append {as bs : List Node} (has : Plain as) (hbs : Plain bs) : Plain (as ++ bs) := by
  induction has with
  | nil => exact hbs
  | literal _ ih => exact .literal ih
  | «variable» _ ih => exact .variable ih
  | conditional hbody _ _ ih => exact .conditional hbody ih

end Stencil
