import Stencil.Exception
import Stencil.Value

/-!
# `Stencil.Settings.Basic` — the settings of a batch of templates

Settings say in which folder the templates lie and which variables all of them see.  Nothing has to be
set; what is set has to be of its kind, and nothing else may be set.

## Contents
- **`Variables`**, names with simple values, made out of bindings by **`Variables.ofBindings`**.
- **`Settings`**, with **`Settings.ofBindings`**.
- **`SettingsFault`**, what is wrong with settings, with its **`exceptionClass`** and its **`message`**.
-/

namespace Stencil

/-- What is wrong with settings. -/
inductive SettingsFault where
  /-- These names are none of a setting. -/
  | unknownNames (names : List Text)
  /-- A key of this kind is no name. -/
  | notName (kind : Text)
  /-- Keys of these two kinds have no common order to be told in. -/
  | unordered (kind other : Text)
  /-- A date and a date-time have no common order. -/
  | dateAndTime
  /-- A date-time with a zone and one without have no common order. -/
  | zoneAndNone
  /-- A key is an integer with too many digits to be a name. -/
  | notWritable
  /-- A folder is not given by a text, or by the empty one. -/
  | folder (name : Text)
  /-- The variables are not given by a mapping. -/
  | globals
  /-- A variable is given by a list or a mapping. -/
  | compound (variableName : Text)
deriving DecidableEq, Repr

/-- The class of the exception that a fault is raised as.  Unknown keys are told by their names; keys that are
no names stop the telling itself. -/
def SettingsFault.exceptionClass : SettingsFault → ExceptionClass
  | .unknownNames _ | .folder _ | .globals | .compound _ => .config
  | .notName _ | .unordered _ _ | .dateAndTime | .zoneAndNone => .type
  | .notWritable => .value

/-- What is said of a fault in settings that come from a source. -/
def SettingsFault.message (source : Text) : SettingsFault → Text
  | .unknownNames names =>
    source ++ Text.of ": unknown keys: " ++ Text.joinWith (Text.of ", ") names
  | .notName kind => Text.of "sequence item 0: expected str instance, " ++ kind ++ Text.of " found"
  | .unordered kind other =>
    Text.of "'<' not supported between instances of '" ++ other ++ Text.of "' and '" ++ kind ++ ['\'']
  | .dateAndTime => Text.of "can't compare datetime.datetime to datetime.date"
  | .zoneAndNone => Text.of "can't compare offset-naive and offset-aware datetimes"
  | .notWritable => Text.notWritableMessage
  | .folder name => source ++ Text.of ": '" ++ name ++ Text.of "' must be a non-empty string"
  | .globals => source ++ Text.of ": 'globals' must be a mapping"
  | .compound name =>
    source ++ Text.of ": variable '" ++ name ++ Text.of "' must be a scalar"

/-! ## Variables -/

/-- Names with simple values. -/
abbrev Variables := Mapping Text Simple

namespace Variables

/-- A simple value under the name that its key gives. -/
def entryOf (key : Key) (value : Value) : Except SettingsFault (Text × Simple) :=
  if !key.isWritable then .error .notWritable
  else
    match value.simple? with
    | some value => .ok (key.toText, value)
    | none => .error (.compound key.toText)

/-- The variables that bindings give: no value may be a list or a mapping. -/
def ofBindings (bindings : Bindings) : Except SettingsFault Variables :=
  (bindings.entries.mapM fun (key, value) => entryOf key value).map Mapping.ofList

/-- The bindings that give the variables. -/
def toBindings (given : Variables) : Bindings :=
  ⟨given.entries.map fun (name, value) => (.scalar (.text name), value.toValue)⟩

end Variables

/-! ## Settings -/

/-- Where templates lie, and what all of them see. -/
structure Settings where
  rootFolder : Text
  /-- The folder of the templates, as seen from the root folder. -/
  templatesFolder : Text
  globals : Variables
deriving Repr

namespace Settings

/-- The name of the root folder among settings and variables. -/
def rootName : Text := Text.of "root_folder"

/-- The name of the templates folder among settings and variables. -/
def templatesName : Text := Text.of "templates_folder"

/-- The name of the variables among settings. -/
def globalsName : Text := Text.of "globals"

/-- The root folder where none is set. -/
def defaultRoot : Text := Text.of "."

/-- The templates folder where none is set. -/
def defaultTemplates : Text := Text.of "templates"

/-- The settings where nothing is set. -/
def default : Settings :=
  ⟨defaultRoot, defaultTemplates, {}⟩

instance : Inhabited Settings := ⟨default⟩

/-- The keys that are no settings. -/
def unknownKeys (bindings : Bindings) : List Key :=
  bindings.keys.filter fun key =>
    !([rootName, templatesName, globalsName].any fun name => key == .scalar (.text name))

/-- A key as a name. -/
def nameOf? : Key → Option Text
  | .scalar (.text s) => some s
  | _ => none

/-- Why two keys have no common order. -/
def orderFault? : Key → Key → Option SettingsFault
  | .scalar (.date _), .scalar (.dateTime _) => some .dateAndTime
  | .scalar (.dateTime _), .scalar (.date _) => some .dateAndTime
  | .scalar (.dateTime s), .scalar (.dateTime t) =>
    if s.zone?.isSome = t.zone?.isSome then none else some .zoneAndNone
  | a, b => if a.kind = b.kind ∨ (isNumber a ∧ isNumber b) then none else some (.unordered a.kind b.kind)
where
  /-- Whether a key is a number. -/
  isNumber : Key → Bool
    | .scalar (.bool _) | .scalar (.int _) | .scalar (.float _) => true
    | _ => false

/-- The lesser of two keys, if they are numbers. -/
def lesser (a b : Key) : Key :=
  match a, b with
  | .scalar s, .scalar t => if t.less s then b else a
  | _, _ => a

/-- What is wrong about unknown keys.  Names are told in order; of other keys the kind is told, of
numbers that of the least. -/
def faultOfKeys? (keys : List Key) : Option SettingsFault :=
  match keys with
  | [] => none
  | key :: rest =>
    -- keys are put in order before they are told, and that has to be possible
    match keys.mapM nameOf?, rest.findSome? (orderFault? key) with
    | some names, _ => some (.unknownNames (names.mergeSort Text.notAfter))
    | none, some fault => some fault
    | none, none => some (.notName (rest.foldl lesser key).kind)

/-- A folder that is set, or the default. -/
def folderOf (bindings : Bindings) (name default : Text) : Except SettingsFault Text :=
  match bindings.find? (.scalar (.text name)) with
  | none => .ok default
  | some (.scalar (.text (c :: rest))) => .ok (c :: rest)
  | some _ => .error (.folder name)

/-- The variables that are set; what counts as nothing sets none. -/
def globalsOf (bindings : Bindings) : Except SettingsFault Variables :=
  match bindings.find? (.scalar (.text globalsName)) with
  | none => .ok {}
  | some (.mapping entries) => Variables.ofBindings ⟨entries⟩
  | some value => if value.isBlank then .ok {} else .error .globals

/-- The settings that bindings give.  Unknown keys are looked for first, then the settings are checked
in the order of the fields. -/
def ofBindings (bindings : Bindings) : Except SettingsFault Settings := do
  if let some fault := faultOfKeys? (unknownKeys bindings) then
    throw fault
  let rootFolder ← folderOf bindings rootName defaultRoot
  let templatesFolder ← folderOf bindings templatesName defaultTemplates
  let globals ← globalsOf bindings
  return ⟨rootFolder, templatesFolder, globals⟩

end Settings

end Stencil
