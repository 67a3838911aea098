import Stencil.Lexer
import Stencil.Node

/-!
# `Stencil.Parse` — trees out of tokens

Tokens are read from left to right with a stack of the conditions that are open.  A closing token
without an open condition is reported and skipped; conditions still open at the end are reported and
closed, the innermost first.  A strict reading stops at the first report.

## Contents
- **`OpenBlock`** and **`Progress`**: the open conditions, each with the statements before it.
- **`Progress.step`**, one token; **`Progress.finish`**, the end of the tokens.
- **`parseTokens`**, the whole reading: what came of it, what was reported, how many tokens were read.
- **`Parser`**, a list of tokens that may be read more than once.
- **`parseTemplate`**, from the text of a template to its tree.
-/

namespace Stencil

/-- A condition that is open: the token that opened it and the statements before that token in its
block, the last first. -/
structure OpenBlock where
  token : Token
  before : List Node
deriving Repr

/-- A reading under way: the open conditions, the innermost first, and the statements of the
innermost block so far, the last first. -/
structure Progress where
  opened : List OpenBlock
  statements : List Node
deriving Repr

/-- What came of a reading: the tree, or the report that stopped it; all reports; and the number of
tokens read. -/
structure Parse where
  outcome : Except Diagnostic Node
  reported : List Diagnostic
  position : Nat
deriving Repr

namespace Progress

/-- Nothing read yet. -/
def start : Progress :=
  ⟨[], []⟩

/-- One more statement in the innermost block. -/
def push (p : Progress) (node : Node) : Progress :=
  { p with statements := node :: p.statements }

/-- The statements of the innermost block become the body of its condition. -/
def close (block : OpenBlock) (outer : List OpenBlock) (statements : List Node) : Progress :=
  ⟨outer, .conditional block.token.value statements.reverse :: block.before⟩

/-- One token, and the report it gives rise to. -/
def step (p : Progress) (token : Token) : Progress × Option Diagnostic :=
  match token.kind with
  | .text => (p.push (.literal token.value), none)
  | .variable => (p.push (.variable token.value), none)
  | .ifOpen => (⟨⟨token, p.statements⟩ :: p.opened, []⟩, none)
  | .endif =>
    match p.opened with
    | block :: outer => (close block outer p.statements, none)
    | [] => (p, some (Diagnostic.unmatchedEndif token.place))

/-- The end of the tokens, with the conditions that are open: the tree or the first report, and all
reports. -/
def finishFrom (strict : Bool) : List OpenBlock → List Node → Except Diagnostic Node × List Diagnostic
  | [], statements => (.ok (.block statements.reverse), [])
  | block :: outer, statements =>
    let report := Diagnostic.unterminatedBlock block.token.value block.token.place
    if strict then (.error report, [report])
    else
      let (outcome, reported) :=
        finishFrom strict outer (close block outer statements).statements
      (outcome, report :: reported)

/-- The end of the tokens. -/
def finish (strict : Bool) (p : Progress) : Parse :=
  let (outcome, reported) := finishFrom strict p.opened p.statements
  ⟨outcome, reported, 0⟩

/-- The rest of the tokens. -/
def read (strict : Bool) (p : Progress) : List Token → Parse
  | [] => p.finish strict
  | token :: tokens =>
    match p.step token with
    | (next, none) =>
      let rest := next.read strict tokens
      { rest with position := rest.position + 1 }
    | (next, some report) =>
      if strict then ⟨.error report, [report], 1⟩
      else
        let rest := next.read strict tokens
        { rest with reported := report :: rest.reported, position := rest.position + 1 }

end Progress

/-- Read a list of tokens. -/
def parseTokens (strict : Bool) (tokens : List Token) : Parse :=
  Progress.start.read strict tokens

/-- Tokens that may be read more than once: the position is that of the last reading, the reports are
those of all readings. -/
structure Parser where
  tokens : List Token
  strict : Bool
  position : Nat
  diagnostics : List Diagnostic
deriving Repr

namespace Parser

/-- Tokens that have not been read yet. -/
def ofTokens (tokens : List Token) (strict : Bool) : Parser :=
  ⟨tokens, strict, 0, []⟩

/-- Read all the tokens. -/
def parse (p : Parser) : Except Diagnostic Node × Parser :=
  let result := parseTokens p.strict p.tokens
  (result.outcome,
    { p with position := result.position, diagnostics := p.diagnostics ++ result.reported })

end Parser

/-- The tree of a template, or the report that stopped a strict reading; with all reports, those about
markers first. -/
def parseTemplate (strict : Bool) (template : Text) : Except Diagnostic Node × List Diagnostic :=
  let (tokens, unknown) := tokenize template
  let result := parseTokens strict tokens
  (result.outcome, unknown ++ result.reported)

end Stencil
