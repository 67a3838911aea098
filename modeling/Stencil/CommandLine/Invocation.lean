import Stencil.CommandLine.Grammar

/-!
# `Stencil.CommandLine.Invocation` — what the program can be asked to do

## Contents
- **`Options`**, what all commands may be given, and **`Task`**, what is done to which files.
- **`Command`**, with its name and its grammar; **`programGrammar`**, the options before a command.
- **`Invocation.ofArguments`**: arguments that belong to nobody are a fault, the last to be told.
-/

namespace Stencil.CommandLine

/-- What all commands may be given; a text that is empty was not given. -/
structure Options where
  /-- The file with the settings. -/
  config : Text := []
  rootFolder : Text := []
  templatesFolder : Text := []
  /-- The file with local variables. -/
  variablesFile : Text := []
  /-- Local variables, each with its value. -/
  locals : List Text := []
  /-- Global variables, each with its value. -/
  globals : List Text := []
  /-- Whether badly nested conditions are a fault. -/
  strict : Bool := false
  /-- Whether a report has one item a line. -/
  layered : Bool := false
deriving DecidableEq, Repr

/-- What is done to which files. -/
inductive Task where
  | render (files : List Text)
  | report (files : List Text)
  | ast (file : Text)
deriving DecidableEq, Repr

/-- What the program is asked to do. -/
structure Invocation where
  task : Task
  options : Options
deriving DecidableEq, Repr

/-- The commands of the program. -/
inductive Command where
  | render
  | report
  | ast
deriving DecidableEq, Repr

/-- The name of the program. -/
def programName : Text := Text.of "minitpl"

/-- The version of the program. -/
def programVersion : Text := Text.of "0.1.0"

namespace Command

/-- All commands, in the order in which they are told. -/
def all : List Command :=
  [.render, .report, .ast]

/-- The name of a command. -/
def name : Command → Text
  | .render => Text.of "render"
  | .report => Text.of "report"
  | .ast => Text.of "ast"

/-- The command of a name. -/
def ofName? (name : Text) : Option Command :=
  all.find? fun command => command.name = name

/-- The option that shows help. -/
def helpRule {σ : Type} : OptionRule σ :=
  ⟨[Text.of "-h", Text.of "--help"], .tell .help⟩

/-- An option with an argument; `missing` stands for one that is left out. -/
def taking (spelling : String) (missing : String) (change : Text → Options → Options) :
    OptionRule Options :=
  ⟨[Text.of spelling], .take fun text? => change (text?.getD (Text.of missing))⟩

/-- The options that all commands have.  A text that is left out is empty; a variable that is left out is
told as an empty list. -/
def commonRules : List (OptionRule Options) :=
  [ taking "--config" "" fun text options => { options with config := text },
    taking "--root" "" fun text options => { options with rootFolder := text },
    taking "--templates" "" fun text options => { options with templatesFolder := text },
    taking "--var" "[]" fun text options => { options with locals := options.locals ++ [text] },
    taking "--global" "[]" fun text options => { options with globals := options.globals ++ [text] },
    taking "--vars" "" fun text options => { options with variablesFile := text },
    ⟨[Text.of "--strict"], .set fun options => { options with strict := true }⟩ ]

/-- The option for a report with one item a line. -/
def layeredRule : OptionRule Options :=
  ⟨[Text.of "--pretty"], .set fun options => { options with layered := true }⟩

/-- The options of a command. -/
def rules : Command → List (OptionRule Options)
  | .render | .ast => helpRule :: commonRules
  | .report => helpRule :: layeredRule :: commonRules

/-- How many files a command takes. -/
def operands : Command → OperandCount
  | .render | .report => .several
  | .ast => .one

/-- What a command may be given. -/
def grammar (command : Command) : Grammar Options :=
  ⟨programName ++ ' ' :: command.name, command.rules, command.operands, Text.of "FILE"⟩

/-- What a command does to its files. -/
def task (command : Command) (file : Text) (more : List Text) : Task :=
  match command with
  | .render => .render (file :: more)
  | .report => .report (file :: more)
  | .ast => .ast file

end Command

/-- What stands before the command, and the command with all that follows it. -/
def programGrammar : Grammar Unit :=
  { program := programName
    options := [Command.helpRule, ⟨[Text.of "-v", Text.of "--version"], .tell .version⟩]
    operands := .remainder
    label := Text.of "cmd" }

/-- A fault that is told for the program as a whole. -/
def programFault (fault : UsageFault) : Stop :=
  .usage programName fault

/-- What the program is asked to do by some arguments. -/
def Invocation.ofArguments (arguments : List Text) : Except Stop Invocation := do
  let outer ← programGrammar.read () arguments
  match Command.ofName? outer.operand with
  | none =>
    throw (programFault
      (.unknownCommand programGrammar.label outer.operand (Command.all.map Command.name)))
  | some command =>
    let inner ← command.grammar.read {} outer.moreOperands
    match outer.extra ++ inner.extra with
    | [] => return ⟨command.task inner.operand inner.moreOperands, inner.options⟩
    | extra => throw (programFault (.unrecognized extra))

end Stencil.CommandLine
