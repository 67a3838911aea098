import Stencil.Text.Digit
import Stencil.Text.Quoted

/-!
# `Stencil.CommandLine.Grammar` — options and operands

The arguments of a command are options, which start with a dash, and operands, which do not; two
dashes by themselves divide the arguments, and all that follows them are operands.  An option may be
shortened as long as it stays the only one meant, may have its argument after an equals sign, and
single letters may be put together after one dash.  Operands stand next to one another; those that an
option separates from the first ones belong to nobody.

## Contents
- **`Grammar`**: the options of a command, as rules that change a state of any type, and its operands.
- **`UsageFault`**, what is wrong with arguments, and **`Stop`**, why they are read no further.
- **`Grammar.classify`**: what one argument is by itself.
- **`Grammar.read`**: what all of them say together, with the arguments that belong to nobody.
-/

namespace Stencil.CommandLine

/-- What an option may ask for instead of a run. -/
inductive Notice where
  | help
  | version
deriving DecidableEq, Repr

/-- What an option does to the state of a reading. -/
inductive Effect (σ : Type) where
  /-- Change it. -/
  | set (change : σ → σ)
  /-- Change it by the argument of the option; two dashes attached to an option are no argument. -/
  | take (change : Option Text → σ → σ)
  /-- End the reading with a notice. -/
  | tell (notice : Notice)

/-- An option: how it is spelled, with its dashes, and what it does. -/
structure OptionRule (σ : Type) where
  spellings : List Text
  effect : Effect σ

/-- How many operands there are. -/
inductive OperandCount where
  | one
  | several
  /-- All arguments from the first operand on, options and all. -/
  | remainder
deriving DecidableEq, Repr

/-- What a command may be given. -/
structure Grammar (σ : Type) where
  program : Text
  options : List (OptionRule σ)
  operands : OperandCount
  /-- What an operand is called. -/
  label : Text

/-- What is wrong with arguments. -/
inductive UsageFault where
  | ambiguous (argument : Text) (spellings : List Text)
  /-- An option is given an argument and takes none. -/
  | unwanted (spellings : List Text) (argument : Text)
  /-- An option is given no argument and takes one. -/
  | wanting (spellings : List Text)
  | noOperand (label : Text)
  | unknownCommand (label name : Text) (known : List Text)
  | unrecognized (arguments : List Text)
deriving DecidableEq, Repr

/-- The start of what is said about an argument. -/
def about (name : Text) : Text :=
  Text.of "argument " ++ name ++ Text.of ": "

/-- What is said of a fault. -/
def UsageFault.message : UsageFault → Text
  | .ambiguous argument spellings =>
    Text.of "ambiguous option: " ++ argument ++ Text.of " could match " ++
      Text.joinWith (Text.of ", ") spellings
  | .unwanted spellings argument =>
    about (Text.joinWith ['/'] spellings) ++ Text.of "ignored explicit argument " ++ argument.quoted
  | .wanting spellings => about (Text.joinWith ['/'] spellings) ++ Text.of "expected one argument"
  | .noOperand label => Text.of "the following arguments are required: " ++ label
  | .unknownCommand label name known =>
    about label ++ Text.of "invalid choice: " ++ name.quoted ++ Text.of " (choose from " ++
      Text.joinWith (Text.of ", ") (known.map Text.quoted) ++ [')']
  | .unrecognized arguments =>
    Text.of "unrecognized arguments: " ++ Text.joinWith [' '] arguments

/-- Why arguments are read no further. -/
inductive Stop where
  | notice (program : Text) (notice : Notice)
  | usage (program : Text) (fault : UsageFault)
deriving DecidableEq, Repr

/-! ## One argument -/

/-- An option as it is used, with the text attached to it. -/
structure Use (σ : Type) where
  rule : OptionRule σ
  spelling : Text
  /-- What follows an equals sign, or a single letter. -/
  attached? : Option Text

/-- What an argument is by itself. -/
inductive Item (σ : Type) where
  | operand (text : Text)
  /-- The two dashes after which there are no options. -/
  | divider
  /-- An option, if it is known. -/
  | option (text : Text) (use? : Option (Use σ))

/-- The divider. -/
def dashes : Text := ['-', '-']

/-- An argument as it was given. -/
def Item.text {σ : Type} : Item σ → Text
  | .operand text => text
  | .divider => dashes
  | .option text _ => text

namespace OptionRule

variable {σ : Type}

/-- Whether an option takes an argument. -/
def takesArgument (rule : OptionRule σ) : Bool :=
  match rule.effect with
  | .take _ => true
  | .set _ | .tell _ => false

/-- Do what an option does, with its argument if it takes one. -/
def apply (program : Text) (rule : OptionRule σ) (argument? : Option Text) (state : σ) :
    Except Stop σ :=
  match rule.effect with
  | .set change => .ok (change state)
  | .take change => .ok (change argument? state)
  | .tell notice => .error (.notice program notice)

end OptionRule

namespace Grammar

variable {σ : Type}

/-- All spellings in order, with their rules. -/
def spellings (g : Grammar σ) : List (Text × OptionRule σ) :=
  g.options.flatMap fun rule => rule.spellings.map fun spelling => (spelling, rule)

/-- The option that is spelled so. -/
def find? (g : Grammar σ) (spelling : Text) : Option (OptionRule σ) :=
  (g.spellings.find? fun (known, _) => known = spelling).map Prod.snd

/-- The options that an argument with two dashes may stand for: it may be shortened. -/
def longUses (g : Grammar σ) (argument : Text) : List (Use σ) :=
  let (start, attached?) :=
    match Text.cut? '=' argument with
    | some (start, text) => (start, some text)
    | none => (argument, none)
  g.spellings.filterMap fun (spelling, rule) =>
    if start.isPrefixOf spelling then some ⟨rule, spelling, attached?⟩ else none

/-- The options that an argument with one dash may stand for: its first letter may be one. -/
def shortUses (g : Grammar σ) (argument : Text) : List (Use σ) :=
  g.spellings.filterMap fun (spelling, rule) =>
    if spelling = argument.take 2 then some ⟨rule, spelling, some (argument.drop 2)⟩
    else if argument.isPrefixOf spelling then some ⟨rule, spelling, none⟩
    else none

/-- The option that an argument spells out, as a whole or up to an equals sign. -/
def exactUse? (g : Grammar σ) (argument : Text) : Option (Use σ) :=
  match g.find? argument, Text.cut? '=' argument with
  | some rule, _ => some ⟨rule, argument, none⟩
  | none, some (spelling, text) => (g.find? spelling).map fun rule => ⟨rule, spelling, some text⟩
  | none, none => none

/-- Whether an argument is a negative number; a line feed at its end does not count. -/
def isNegativeNumber : Text → Bool
  | '-' :: digits =>
    Text.isNumeral (if digits.getLast? = some '\n' then digits.dropLast else digits)
  | _ => false

/-- What an argument is by itself.  With a dash in front it is an option, unless it is a single dash, or
looks like a negative number or has a space in it and is no known option. -/
def classify (g : Grammar σ) (argument : Text) : Except UsageFault (Item σ) :=
  match argument with
  | '-' :: c :: _ =>
    match g.exactUse? argument with
    | some use => .ok (.option argument (some use))
    | none =>
      match if c = '-' then g.longUses argument else g.shortUses argument with
      | [use] => .ok (.option argument (some use))
      | use :: other :: more =>
        .error (.ambiguous argument ((use :: other :: more).map Use.spelling))
      | [] =>
        if isNegativeNumber argument || argument.contains ' ' then .ok (.operand argument)
        else .ok (.option argument none)
  | _ => .ok (.operand argument)

/-- What the arguments are by themselves; after the divider they are operands. -/
def classifyAll (g : Grammar σ) : List Text → Except UsageFault (List (Item σ))
  | [] => .ok []
  | argument :: rest =>
    if argument = dashes then .ok (.divider :: rest.map .operand)
    else do
      let item ← g.classify argument
      return item :: (← g.classifyAll rest)

/-! ## An option and what is attached to it -/

/-- What an argument with options in it says. -/
structure Plan (σ : Type) where
  /-- The options that are complete, with their arguments. -/
  complete : List (OptionRule σ × Option Text)
  /-- The last option, if its argument is the next one. -/
  pending? : Option (OptionRule σ)

/-- Put one more option in front of a plan. -/
def Plan.after (rule : OptionRule σ) (plan : Plan σ) : Plan σ :=
  { plan with complete := (rule, none) :: plan.complete }

/-- A text as the argument attached to an option: two dashes are none. -/
def attachedArgument? (text : Text) : Option Text :=
  if text = dashes then none else some text

/-- What an option says with a text attached to it.  After a letter that takes no argument, the text goes
on with the next letter, which has to be an option. -/
def expand (g : Grammar σ) (single : Bool) (rule : OptionRule σ) (text : Text) :
    Except UsageFault (Plan σ) :=
  if rule.takesArgument then .ok ⟨[(rule, attachedArgument? text)], none⟩
  else
    match single, text with
    | true, c :: more =>
      match g.find? ['-', c], more with
      | none, _ => .error (.unwanted rule.spellings text)
      | some next, [] => .ok ((ending next).after rule)
      | some next, more => (g.expand single next more).map (Plan.after rule)
    | _, _ => .error (.unwanted rule.spellings text)
termination_by text.length
where
  /-- What the last option of an argument says. -/
  ending (rule : OptionRule σ) : Plan σ :=
    if rule.takesArgument then ⟨[], some rule⟩ else ⟨[(rule, none)], none⟩

/-- Whether an option is spelled with a single dash. -/
def isSingle : Text → Bool
  | '-' :: '-' :: _ => false
  | _ => true

/-- What an option says as it is used. -/
def plan (g : Grammar σ) (use : Use σ) : Except UsageFault (Plan σ) :=
  match use.attached? with
  | none => .ok (expand.ending use.rule)
  | some text => g.expand (isSingle use.spelling) use.rule text

/-! ## All arguments -/

/-- How far the operands are. -/
inductive Phase where
  /-- There was none yet. -/
  | waiting
  /-- The last arguments were operands. -/
  | gathering
  /-- There are no more: an option came after them, or an operand too many. -/
  | closed
deriving DecidableEq, Repr

/-- What has been read. -/
structure State (σ : Type) where
  options : σ
  phase : Phase
  operands : List Text
  /-- The arguments that belong to nobody. -/
  extra : List Text

namespace State

/-- An argument that belongs to nobody. -/
def leave (state : State σ) (text : Text) : State σ :=
  { state with extra := state.extra ++ [text] }

/-- One more operand. -/
def gather (state : State σ) (text : Text) : State σ :=
  { state with phase := .gathering, operands := state.operands ++ [text] }

/-- An option ends the operands. -/
def separate (state : State σ) : State σ :=
  if state.phase = .gathering then { state with phase := .closed } else state

/-- What options do, one after the other. -/
def applyAll (program : Text) (state : State σ) (uses : List (OptionRule σ × Option Text)) :
    Except Stop (State σ) := do
  let options ← uses.foldlM (fun s (rule, argument?) => rule.apply program argument? s) state.options
  return { state with options }

end State

/-- What the items say, one after the other. -/
def readItems (g : Grammar σ) (state : State σ) : List (Item σ) → Except Stop (State σ)
  | [] => .ok state
  | .option text none :: rest => g.readItems (state.separate.leave text) rest
  | .option _ (some use) :: rest =>
    match g.plan use with
    | .error fault => .error (.usage g.program fault)
    | .ok plan =>
      let state := state.separate
      -- nothing is done before the argument of the last option is there
      match plan.pending?, rest with
      | none, rest => do g.readItems (← state.applyAll g.program plan.complete) rest
      | some rule, .operand argument :: rest => do
        g.readItems (← state.applyAll g.program (plan.complete ++ [(rule, some argument)])) rest
      | some rule, _ => .error (.usage g.program (.wanting rule.spellings))
  | .divider :: rest =>
    match state.phase, g.operands with
    | .closed, _ => g.readItems (state.leave dashes) rest
    -- the divider itself is no operand
    | .gathering, _ => g.readItems state rest
    -- in a remainder the divider is kept, and taken for the first operand
    | .waiting, .remainder =>
      if rest.isEmpty then .ok (state.leave dashes)
      else .ok { state with operands := dashes :: rest.map Item.text }
    | .waiting, _ =>
      if rest.isEmpty then .ok (state.leave dashes) else g.readItems state rest
  | .operand text :: rest =>
    match state.phase, g.operands with
    | .waiting, .remainder => .ok { state with operands := text :: rest.map Item.text }
    | .waiting, _ | .gathering, .several => g.readItems (state.gather text) rest
    | _, _ => g.readItems { state.leave text with phase := .closed } rest

/-- What the arguments say: the options, the operands, of which there is at least one, and the arguments
that belong to nobody. -/
structure Result (σ : Type) where
  options : σ
  operand : Text
  moreOperands : List Text
  extra : List Text

/-- Read the arguments of a command, from a state without options. -/
def read (g : Grammar σ) (start : σ) (arguments : List Text) : Except Stop (Result σ) := do
  let items ← (g.classifyAll arguments).mapError (.usage g.program)
  let state ← g.readItems ⟨start, .waiting, [], []⟩ items
  match state.operands with
  | [] => throw (.usage g.program (.noOperand g.label))
  | operand :: more => return ⟨state.options, operand, more, state.extra⟩

end Grammar

end Stencil.CommandLine
