import Stencil.Yaml.Fault
import Stencil.Yaml.Timestamp
import Stencil.Yaml.Version

/-!
# `Stencil.Yaml.Schema` — what scalars look like

A scalar without quotes and without a tag is taken for what it looks like: nothing, a truth value, a
number, a date or a time; all else is text.  What numbers and truth values look like depends on the
version of the format.

## Contents
- **`Tag`**, **`Tag.ofUri`** and **`Tag.isSingle`**.
- **`looksLikeFloat`**, **`looksLikeInt`** and **`looksLikeTimestamp`**.
- **`tagOfPlain`**, the tag that a plain scalar gets.
-/

namespace Stencil.Yaml

/-! ## Tags -/

/-- The tags. -/
inductive Tag where
  | null
  | bool
  | int
  | float
  | text
  | binary
  | timestamp
  /-- The key of entries that are merged in. -/
  | merge
  /-- The key of a default value. -/
  | default
  | sequence
  | mapping
  | set
  /-- A sequence of single entries that stands for a mapping. -/
  | orderedMapping
  /-- A sequence of single entries that stands for a list of pairs. -/
  | pairs
  /-- Any other tag. -/
  | unknown
deriving DecidableEq, Repr

/-- Whether the values with a tag are single ones. -/
def Tag.isSingle : Tag → Bool
  | .null | .bool | .int | .float | .text | .binary | .timestamp => true
  | .merge | .default | .sequence | .mapping | .set | .orderedMapping | .pairs | .unknown => false

/-- The start of the names of all tags of the format itself. -/
def standardTags : Text :=
  Text.of "tag:yaml.org,2002:"

/-- The names of the tags of the format itself. -/
def tagNames : List (Text × Tag) :=
  [ (Text.of "null", .null), (Text.of "bool", .bool), (Text.of "int", .int),
    (Text.of "float", .float), (Text.of "str", .text), (Text.of "binary", .binary),
    (Text.of "timestamp", .timestamp), (Text.of "merge", .merge), (Text.of "value", .default),
    (Text.of "seq", .sequence), (Text.of "map", .mapping), (Text.of "set", .set),
    (Text.of "omap", .orderedMapping), (Text.of "pairs", .pairs) ]

/-- The tag of a name. -/
def Tag.ofUri (uri : Text) : Tag :=
  if standardTags.isPrefixOf uri then (tagNames.lookup (uri.drop standardTags.length)).getD .unknown
  else .unknown

/-! ## Words -/

/-- The words for nothing and the two special keys, and those for the truth values. -/
def plainWords (version : Version) : List (Text × Tag) :=
  let bools :=
    if version = .old then
      ["y", "Y", "yes", "Yes", "YES", "n", "N", "no", "No", "NO", "true", "True", "TRUE", "false",
        "False", "FALSE", "on", "On", "ON", "off", "Off", "OFF"]
    else ["true", "True", "TRUE", "false", "False", "FALSE"]
  [ ([], .null), (Text.of "~", .null), (Text.of "null", .null), (Text.of "Null", .null),
    (Text.of "NULL", .null), (Text.of "<<", .merge), (Text.of "=", .default),
    (Text.of "!", .unknown), (Text.of "&", .unknown), (Text.of "*", .unknown) ] ++
    bools.map fun word => (Text.of word, .bool)

/-! ## Numbers -/

/-- What follows the sign of a number. -/
def unsigned (s : Text) : Text :=
  (splitSign s).2

/-- Whether a text is one or more characters of a class. -/
def allOf (p : Char → Bool) (s : Text) : Bool :=
  s ≠ [] && s.all p

/-- Whether a text is an exponent; `signed` asks for a sign. -/
def isExponent (signed : Bool) : Text → Bool
  | c :: rest =>
    (c = 'e' || c = 'E') && allOf isDecimalDigit (unsigned rest) &&
      (!signed || rest.head? = some '-' || rest.head? = some '+')
  | [] => false

/-- What follows the sixtieths of a number, each of them a colon and one or two digits: how many there
are, and the rest. -/
def skipSixtieths : Text → Nat × Text
  | ':' :: a :: b :: rest =>
    if '0' ≤ a ∧ a ≤ '5' ∧ isDecimalDigit b then
      let (count, rest) := skipSixtieths rest
      (count + 1, rest)
    else if isDecimalDigit a then
      let (count, rest) := skipSixtieths (b :: rest)
      (count + 1, rest)
    else (0, ':' :: a :: b :: rest)
  | [':', a] => if isDecimalDigit a then (1, []) else (0, [':', a])
  | rest => (0, rest)
termination_by s => s.length

/-- Whether a text looks like a number with a point or an exponent. -/
def looksLikeFloat (version : Version) (s : Text) : Bool :=
  let magnitude := unsigned s
  let bare := s = magnitude
  match magnitude with
  | '.' :: rest =>
    let digits := rest.takeWhile inDigitRun
    let ending := rest.dropWhile inDigitRun
    (digits ≠ [] && (ending = [] || isExponent true ending) && (bare || version ≠ .old)) ||
      [Text.of "inf", Text.of "Inf", Text.of "INF"].contains rest ||
      (bare && [Text.of "nan", Text.of "NaN", Text.of "NAN"].contains rest)
  | c :: _ =>
    isDecimalDigit c &&
      match magnitude.dropWhile inDigitRun with
      | '.' :: rest =>
        let ending := rest.dropWhile inDigitRun
        ending = [] || isExponent false ending
      | ':' :: rest =>
        -- degrees, with sixtieths and a fraction
        match skipSixtieths (':' :: rest) with
        | (_ + 1, '.' :: fraction) => version = .old && fraction.all inDigitRun
        | _ => false
      | ending => isExponent false ending
  | [] => false

/-- Whether a text is digits of a base or underscores. -/
def isRunOf (base : Nat) (s : Text) : Bool :=
  allOf (fun c => c = '_' || isDigitOf base c) s

/-- Whether a text is a decimal integer in the old version: it has no zero in front, but may have
sixtieths behind. -/
def isOldDecimal : Text → Bool
  | ['0'] => true
  | c :: rest =>
    isDecimalDigit c && c ≠ '0' &&
      match rest.dropWhile inDigitRun with
      | [] => true
      | ending =>
        match skipSixtieths ending with
        | (_ + 1, []) => true
        | _ => false
  | [] => false

/-- Whether a text looks like an integer. -/
def looksLikeInt (version : Version) (s : Text) : Bool :=
  let magnitude := unsigned s
  let marked :=
    match magnitude with
    | '0' :: 'b' :: rest => isRunOf 2 rest
    | '0' :: 'o' :: rest => version ≠ .old && isRunOf 8 rest
    | '0' :: 'x' :: rest => isRunOf 16 rest
    | _ => false
  s.head? != some '_' &&
    (marked || if version = .old then isRunOf 8 magnitude || isOldDecimal magnitude
      else isRunOf 10 magnitude)

/-! ## Dates and times -/

/-- Whether a text looks like a date or a time; in a date alone month and day have two digits. -/
def looksLikeTimestamp (s : Text) : Bool :=
  match readTimestamp? s with
  | some t => t.time.isSome || s.length = 10
  | none => false

/-! ## Plain scalars -/

/-- The tag of a plain scalar, a line break at its end disregarded.  There are rules for the usual and for
the old version only. -/
def tagOfPlain (version : Version) (s : Text) : Except Fault Tag :=
  if version ≠ .usual ∧ version ≠ .old then .error (.version version.major version.minor)
  else
    let s := if s = ['\n'] then s else withoutFinalBreak s
    match (plainWords version).lookup s with
    | some tag => .ok tag
    | none =>
      if looksLikeFloat version s then .ok .float
      else if looksLikeInt version s then .ok .int
      else if looksLikeTimestamp s then .ok .timestamp
      else .ok .text

end Stencil.Yaml
