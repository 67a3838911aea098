import Stencil.Proofs.CommandLine.Complaint
import Stencil.Proofs.CommandLine.Templates
import Stencil.Proofs.Settings.Faults

/-!
# `Stencil.Proofs.CommandLine.ExitCode` — how a run ends

A run ends well if all its input is sound (`Invocation.Sound`).  If not, an exception is raised, and this
should be caught and the user be told of it; but a file with variables or settings may break the run, and
that happens in the cases that `Invocation.Breaks` names and in no others.  Both are said of the input:
of the items, of the two files and of what the loader makes of their texts.

Two facts carry this.  Whatever is wrong with an item or with a template is caught, so that an exception
that is not caught comes from one of the two files (`setup_uncaught_iff`).  And once there is a batch,
both of its folders are texts, so that nothing but the templates is left to go wrong
(`exists_ready_of_setup`).

## Contents
- **Assignments.** `IsAssignment`.
- **Sound input.** `Invocation.LocalsSound`, `Invocation.SettingsSound` and **`Invocation.Sound`**;
  `exists_setup_iff`.
- **What breaks a run.** **`Invocation.Breaks`**, and `setup_uncaught_iff`.
- **What is said.** `Invocation.FromLoader`: what is told of a document was told by the loader.
- **`code_of_answer`**: how a run ends tells the three cases apart, and what is caught is never passed over
  in silence.
-/

namespace Stencil.CommandLine

/-! ## Assignments -/

/-- An item gives a variable its value: before the first equals sign there is a name. -/
def IsAssignment (item : Text) : Prop :=
  ∃ name value, item = name ++ '=' :: value ∧ '=' ∉ name ∧ name.trim ≠ []

theorem exists_assignment_iff {option item : Text} :
    (∃ given, assignment option item = .ok given) ↔ IsAssignment item := by
  rw [assignment, IsAssignment]
  cases hcut : Text.cut? '=' item with
  | none =>
    constructor
    · rintro ⟨given, h⟩
      cases h
    · rintro ⟨name, value, hitem, hfirst, _⟩
      rw [Text.cut?_eq_some_iff.2 ⟨hitem, hfirst⟩] at hcut
      cases hcut
  | some pair =>
    obtain ⟨name, value⟩ := pair
    obtain ⟨hitem, hfirst⟩ := Text.cut?_eq_some_iff.1 hcut
    dsimp only
    split
    next hblank =>
      constructor
      · rintro ⟨given, h⟩
        cases h
      · rintro ⟨other, rest, hother, hfree, hname⟩
        rw [Text.cut?_eq_some_iff.2 ⟨hother, hfree⟩] at hcut
        obtain ⟨rfl, rfl⟩ := Prod.mk.inj (Option.some.inj hcut)
        exact absurd hblank hname
    next hname => exact iff_of_true ⟨_, rfl⟩ ⟨name, value, hitem, hfirst, hname⟩

theorem exists_assignments_iff {option : Text} {items : List Text} :
    (∃ given, assignments option items = .ok given) ↔ ∀ item ∈ items, IsAssignment item := by
  simp only [← @exists_assignment_iff option, ← exists_mapM_eq_ok_iff]
  rw [assignments]
  cases items.mapM (assignment option) <;> simp [Except.map]

/-! ## Sound input -/

namespace Invocation

variable {invocation : Invocation} {found : Surroundings}

/-- The file with the settings. -/
def settingsPath (invocation : Invocation) : Path :=
  if invocation.options.config = [] then settingsFile else .ofText invocation.options.config

/-- What is loaded from the file of variables: the loader has loaded nothing before. -/
def loadVariables (_ : Invocation) (found : Surroundings) : Text → Except LoaderFault Value :=
  found.loader []

/-- What is loaded from the file with the settings, by the same loader. -/
def loadSettings (invocation : Invocation) (found : Surroundings) : Text → Except LoaderFault Value :=
  found.loader (invocation.loaded found.disk)

/-- **The local variables are sound**: the file of variables, if one is named, holds bindings whose keys have
texts and whose values are no lists or mappings, and each item is an assignment. -/
structure LocalsSound (invocation : Invocation) (found : Surroundings) : Prop where
  file : invocation.options.variablesFile ≠ [] → ∃ bindings,
    FileHolds (invocation.loadVariables found) found.disk (.ofText invocation.options.variablesFile)
      bindings ∧
    (∀ entry ∈ bindings.entries, ¬ entry.2.IsCompound) ∧
    ∀ entry ∈ bindings.entries, entry.1.isWritable = true
  items : ∀ item ∈ invocation.options.locals, IsAssignment item

/-- **The settings are sound**: their file holds bindings that are typed, and whose variables have names with
texts; or there is none, and none is named. -/
def SettingsSound (invocation : Invocation) (found : Surroundings) : Prop :=
  (∃ bindings, FileHolds (invocation.loadSettings found) found.disk invocation.settingsPath bindings ∧
      Settings.Typed (·.isBlank = true) bindings ∧ Settings.NamesWritable bindings) ∨
    invocation.options.config = [] ∧ found.disk.file? settingsFile = .ok none

/-- **All input before the templates is sound.** -/
structure InputSound (invocation : Invocation) (found : Surroundings) : Prop where
  locals : invocation.LocalsSound found
  settings : invocation.SettingsSound found
  globals : ∀ item ∈ invocation.options.globals, IsAssignment item

/-- **All input is sound**, the templates included. -/
structure Sound (invocation : Invocation) (found : Surroundings) : Prop where
  input : invocation.InputSound found
  templates : ∀ setup, invocation.setup found = .ok setup →
    invocation.TemplatesSound found.disk setup

/-- Variables are read from a file that holds them. -/
theorem exists_fileVariables_iff :
    (∃ given, invocation.fileVariables found = .ok given) ↔
      (invocation.options.variablesFile ≠ [] → ∃ bindings,
        FileHolds (invocation.loadVariables found) found.disk
          (.ofText invocation.options.variablesFile) bindings ∧
        (∀ entry ∈ bindings.entries, ¬ entry.2.IsCompound) ∧
        ∀ entry ∈ bindings.entries, entry.1.isWritable = true) := by
  rw [fileVariables]
  by_cases hfile : invocation.options.variablesFile = []
  · simp only [hfile, if_true]
    exact iff_of_true ⟨{}, rfl⟩ fun h => absurd rfl h
  · simp only [hfile, if_false, ne_eq, not_false_eq_true, forall_const, mapError_eq_ok_iff,
      variablesAt_eq_ok_iff]
    constructor
    · rintro ⟨given, bindings, hholds, hgiven⟩
      exact ⟨bindings, hholds, (Settings.checked_variables bindings).ok_iff.1 ⟨given, hgiven⟩⟩
    · rintro ⟨bindings, hholds, hsound⟩
      obtain ⟨given, hgiven⟩ := (Settings.checked_variables bindings).ok_iff.2 hsound
      exact ⟨given, bindings, hholds, hgiven⟩

/-- The local variables are read if they are sound. -/
theorem exists_locals_iff :
    (∃ locals, invocation.locals found = .ok locals) ↔ invocation.LocalsSound found := by
  constructor
  · rintro ⟨locals, h⟩
    obtain ⟨fromFile, hfile, h⟩ := bind_eq_ok_iff.1 h
    obtain ⟨given, hgiven, _⟩ := bind_eq_ok_iff.1 h
    exact ⟨exists_fileVariables_iff.1 ⟨fromFile, hfile⟩,
      exists_assignments_iff.1 ⟨given, mapError_eq_ok_iff.1 hgiven⟩⟩
  · rintro ⟨hfile, hitems⟩
    obtain ⟨fromFile, hfromFile⟩ := exists_fileVariables_iff.2 hfile
    obtain ⟨given, hgiven⟩ := (@exists_assignments_iff (Text.of "--var") _).2 hitems
    refine ⟨fromFile.update given, bind_eq_ok_iff.2 ⟨fromFile, hfromFile, ?_⟩⟩
    exact bind_eq_ok_iff.2 ⟨given, mapError_eq_ok_iff.2 hgiven, rfl⟩

/-- Settings are read from a file that holds them, whatever the file is told as. -/
theorem exists_settingsAt?_iff {load : Text → Except LoaderFault Value} {disk : Disk} {path : Path}
    {source : Text} :
    (∃ settings, settingsAt? load disk path source = .ok (some settings)) ↔
      ∃ bindings, FileHolds load disk path bindings ∧
        Settings.Typed (·.isBlank = true) bindings ∧ Settings.NamesWritable bindings := by
  simp only [settingsAt?_eq_some_iff]
  rw [exists_comm]
  refine exists_congr fun bindings => ?_
  rw [exists_and_left, Settings.exists_ofBindings_iff]

/-- The settings are read if they are sound. -/
theorem exists_settings_iff :
    (∃ settings, invocation.settings found = .ok settings) ↔ invocation.SettingsSound found := by
  unfold settings SettingsSound settingsPath loadSettings
  by_cases hconfig : invocation.options.config = []
  · simp only [hconfig, if_true, true_and, ← @exists_settingsAt?_iff _ _ _
      ((Path.ofText found.folder).join settingsFile).toText]
    constructor
    · rintro ⟨settings, h⟩
      obtain ⟨settings?, hsettings, _⟩ := bind_eq_ok_iff.1 h
      replace hsettings := mapError_eq_ok_iff.1 hsettings
      cases settings? with
      | none => exact .inr (settingsAt?_eq_none_iff.1 hsettings)
      | some given => exact .inl ⟨given, hsettings⟩
    · rintro (⟨given, hsettings⟩ | hnone)
      · exact ⟨given, bind_eq_ok_iff.2 ⟨some given, mapError_eq_ok_iff.2 hsettings, rfl⟩⟩
      · exact ⟨.default, bind_eq_ok_iff.2
          ⟨none, mapError_eq_ok_iff.2 (settingsAt?_eq_none_iff.2 hnone), rfl⟩⟩
  · simp only [hconfig, if_false, false_and, or_false, ← @exists_settingsAt?_iff _ _ _
      (Path.ofText invocation.options.config).toText]
    constructor
    · rintro ⟨settings, h⟩
      obtain ⟨settings?, hsettings, h⟩ := bind_eq_ok_iff.1 h
      cases settings? with
      | none => cases h
      | some given => exact ⟨given, mapError_eq_ok_iff.1 hsettings⟩
    · rintro ⟨given, hsettings⟩
      exact ⟨given, bind_eq_ok_iff.2 ⟨some given, mapError_eq_ok_iff.2 hsettings, rfl⟩⟩

/-- A batch is set up if the settings and the global variables are sound. -/
theorem exists_batch_iff :
    (∃ batch, invocation.batch found = .ok batch) ↔
      invocation.SettingsSound found ∧ ∀ item ∈ invocation.options.globals, IsAssignment item := by
  rw [← exists_settings_iff, ← @exists_assignments_iff (Text.of "--global")]
  constructor
  · rintro ⟨batch, h⟩
    obtain ⟨settings, hsettings, h⟩ := bind_eq_ok_iff.1 h
    obtain ⟨given, hgiven, _⟩ := bind_eq_ok_iff.1 h
    exact ⟨⟨settings, hsettings⟩, given, mapError_eq_ok_iff.1 hgiven⟩
  · rintro ⟨⟨settings, hsettings⟩, given, hgiven⟩
    exact ⟨_, bind_eq_ok_iff.2 ⟨settings, hsettings,
      bind_eq_ok_iff.2 ⟨given, mapError_eq_ok_iff.2 hgiven, rfl⟩⟩⟩

/-- **The templates are looked at if all other input is sound.** -/
theorem exists_setup_iff :
    (∃ setup, invocation.setup found = .ok setup) ↔ invocation.InputSound found := by
  constructor
  · rintro ⟨setup, h⟩
    obtain ⟨locals, hlocals, h⟩ := bind_eq_ok_iff.1 h
    obtain ⟨batch, hbatch, _⟩ := bind_eq_ok_iff.1 h
    obtain ⟨hsettings, hglobals⟩ := exists_batch_iff.1 ⟨batch, hbatch⟩
    exact ⟨exists_locals_iff.1 ⟨locals, hlocals⟩, hsettings, hglobals⟩
  · rintro ⟨hlocals, hsettings, hglobals⟩
    obtain ⟨locals, hlocals⟩ := exists_locals_iff.2 hlocals
    obtain ⟨batch, hbatch⟩ := exists_batch_iff.2 ⟨hsettings, hglobals⟩
    refine ⟨⟨locals, batch⟩, bind_eq_ok_iff.2 ⟨locals, hlocals, ?_⟩⟩
    exact bind_eq_ok_iff.2 ⟨batch, hbatch, rfl⟩

/-- Templates can be added to a batch that is set up. -/
theorem exists_ready_of_setup {setup : Setup} (h : invocation.setup found = .ok setup) :
    ∃ root templates, setup.batch.Ready root templates := by
  obtain ⟨_, _, h⟩ := bind_eq_ok_iff.1 h
  obtain ⟨batch, hbatch, h⟩ := bind_eq_ok_iff.1 h
  obtain rfl := Except.ok.inj h
  obtain ⟨settings, _, hbatch⟩ := bind_eq_ok_iff.1 hbatch
  obtain ⟨given, _, hbatch⟩ := bind_eq_ok_iff.1 hbatch
  obtain rfl := Except.ok.inj hbatch
  obtain ⟨hroot, htemplates⟩ := textAt?_startingGlobals
    (Variables.toBindings (settings.globals.update given))
    (orElse invocation.options.rootFolder settings.rootFolder)
    (orElse invocation.options.templatesFolder settings.templatesFolder)
  exact ⟨_, _, rfl, rfl, hroot, htemplates⟩

/-! ## What breaks a run -/

/-- **What breaks a run**: the file of variables breaks the loading; or, if the local variables are sound, the
file with the settings does, or has a key that is no text. -/
def Breaks (invocation : Invocation) (found : Surroundings) : Prop :=
  (invocation.options.variablesFile ≠ [] ∧
      BreaksLoading (invocation.loadVariables found) found.disk
        (.ofText invocation.options.variablesFile)) ∨
    invocation.LocalsSound found ∧
      (BreaksLoading (invocation.loadSettings found) found.disk invocation.settingsPath ∨
        HasNamelessSetting (invocation.loadSettings found) found.disk invocation.settingsPath)

/-- There is a fault whose exception is not caught. -/
def Uncaught {α : Type} (outcome : Except RunFault α) : Prop :=
  ∃ fault, outcome = .error fault ∧ fault.exceptionClass.isCaught = false

theorem uncaught_load_iff {α : Type} {outcome : Except LoadFault α} :
    Uncaught (outcome.mapError .load) ↔
      ∃ fault, outcome = .error fault ∧ fault.exceptionClass.isCaught = false := by
  constructor
  · rintro ⟨_, h, huncaught⟩
    obtain ⟨fault, hfault, rfl⟩ := mapError_eq_error_iff.1 h
    exact ⟨fault, hfault, huncaught⟩
  · rintro ⟨fault, h, huncaught⟩
    exact ⟨.load fault, mapError_eq_error_iff.2 ⟨fault, h, rfl⟩, huncaught⟩

/-- The fault of the first of two steps is not caught, or that of the second after the first went well. -/
theorem uncaught_bind_iff {α β : Type} {first : Except RunFault α} {second : α → Except RunFault β} :
    Uncaught (first >>= second) ↔ Uncaught first ∨ ∃ a, first = .ok a ∧ Uncaught (second a) := by
  constructor
  · rintro ⟨fault, h, huncaught⟩
    rcases bind_eq_error_iff.1 h with h | ⟨a, ha, h⟩
    · exact .inl ⟨fault, h, huncaught⟩
    · exact .inr ⟨a, ha, fault, h, huncaught⟩
  · rintro (⟨fault, h, huncaught⟩ | ⟨a, ha, fault, h, huncaught⟩)
    · exact ⟨fault, bind_eq_error_iff.2 (.inl h), huncaught⟩
    · exact ⟨fault, bind_eq_error_iff.2 (.inr ⟨a, ha, h⟩), huncaught⟩

theorem not_uncaught_ok {α : Type} {a : α} : ¬ Uncaught (.ok a) := by
  rintro ⟨fault, h, _⟩
  cases h

/-- Items that are no assignments are caught. -/
theorem not_uncaught_assignments {option : Text} {items : List Text} :
    ¬ Uncaught ((assignments option items).mapError .assignment) := by
  rintro ⟨_, h, huncaught⟩
  obtain ⟨fault, _, rfl⟩ := mapError_eq_error_iff.1 h
  cases huncaught

theorem locals_uncaught_iff :
    Uncaught (invocation.locals found) ↔ invocation.options.variablesFile ≠ [] ∧
      BreaksLoading (invocation.loadVariables found) found.disk
        (.ofText invocation.options.variablesFile) := by
  have hitems : Uncaught (invocation.locals found) ↔ Uncaught (invocation.fileVariables found) := by
    rw [locals, uncaught_bind_iff]
    refine or_iff_left ?_
    rintro ⟨fromFile, _, h⟩
    rcases uncaught_bind_iff.1 h with h | ⟨_, _, h⟩
    · exact not_uncaught_assignments h
    · exact not_uncaught_ok h
  rw [hitems, fileVariables]
  by_cases hfile : invocation.options.variablesFile = []
  · simp only [hfile, if_true]
    exact iff_of_false not_uncaught_ok fun h => h.1 rfl
  · simp only [hfile, if_false]
    rw [uncaught_load_iff, variablesAt_uncaught_iff, and_iff_right hfile]
    rfl

theorem settings_uncaught_iff :
    Uncaught (invocation.settings found) ↔
      BreaksLoading (invocation.loadSettings found) found.disk invocation.settingsPath ∨
        HasNamelessSetting (invocation.loadSettings found) found.disk invocation.settingsPath := by
  unfold settings settingsPath loadSettings
  by_cases hconfig : invocation.options.config = []
  · simp only [hconfig, if_true]
    rw [uncaught_bind_iff, uncaught_load_iff, settingsAt?_uncaught_iff]
    exact or_iff_left fun ⟨_, _, h⟩ => not_uncaught_ok h
  · simp only [hconfig, if_false]
    rw [uncaught_bind_iff, uncaught_load_iff, settingsAt?_uncaught_iff]
    refine or_iff_left ?_
    rintro ⟨settings?, _, fault, h, huncaught⟩
    cases settings? with
    | none =>
      obtain rfl := Except.error.inj h
      cases huncaught
    | some settings => cases h

theorem batch_uncaught_iff :
    Uncaught (invocation.batch found) ↔ Uncaught (invocation.settings found) := by
  rw [batch, uncaught_bind_iff]
  refine or_iff_left ?_
  rintro ⟨settings, _, h⟩
  rcases uncaught_bind_iff.1 h with h | ⟨_, _, h⟩
  · exact not_uncaught_assignments h
  · exact not_uncaught_ok h

/-- **A run breaks before the templates are looked at**, if at all. -/
theorem setup_uncaught_iff : Uncaught (invocation.setup found) ↔ invocation.Breaks found := by
  have hbatch {locals : Variables} :
      Uncaught (invocation.batch found >>= fun batch => pure (⟨locals, batch⟩ : Setup)) ↔
        BreaksLoading (invocation.loadSettings found) found.disk invocation.settingsPath ∨
          HasNamelessSetting (invocation.loadSettings found) found.disk invocation.settingsPath := by
    rw [uncaught_bind_iff, batch_uncaught_iff, settings_uncaught_iff]
    exact or_iff_left fun ⟨_, _, h⟩ => not_uncaught_ok h
  rw [setup, uncaught_bind_iff, locals_uncaught_iff, Breaks, ← exists_locals_iff, exists_and_right.symm]
  refine or_congr_right (exists_congr fun locals => and_congr_right fun _ => hbatch)

/-! ## What is said -/

/-- What is told of a document was told by the loader. -/
def FromLoader {α : Type} (found : Surroundings) (outcome : Except RunFault α) : Prop :=
  ∀ source fault, outcome = .error (.load (.document source fault)) →
    ∃ earlier text, found.loader earlier text = .error fault

theorem FromLoader.ok {α : Type} {a : α} : FromLoader found (.ok a) := by
  intro source fault h
  cases h

theorem FromLoader.bind {α β : Type} {first : Except RunFault α} {second : α → Except RunFault β}
    (hfirst : FromLoader found first) (hsecond : ∀ a, FromLoader found (second a)) :
    FromLoader found (first >>= second) := by
  intro source fault h
  rcases bind_eq_error_iff.1 h with h | ⟨a, _, h⟩
  · exact hfirst source fault h
  · exact hsecond a source fault h

theorem fromLoader_assignments {option : Text} {items : List Text} :
    FromLoader found ((assignments option items).mapError .assignment) := by
  intro source fault h
  obtain ⟨_, _, hfault⟩ := mapError_eq_error_iff.1 h
  cases hfault

theorem fromLoader_locals : FromLoader found (invocation.locals found) := by
  have hfile : FromLoader found (invocation.fileVariables found) := by
    unfold fileVariables
    by_cases hnamed : invocation.options.variablesFile = []
    · simp only [hnamed, if_true]
      exact .ok
    · simp only [hnamed, if_false]
      intro source fault h
      obtain ⟨e, he, hfault⟩ := mapError_eq_error_iff.1 h
      obtain rfl := RunFault.load.inj hfault
      obtain ⟨text, htext⟩ := exists_load_of_variables he
      exact ⟨[], text, htext⟩
  exact hfile.bind fun _ => fromLoader_assignments.bind fun _ => .ok

theorem fromLoader_settings : FromLoader found (invocation.settings found) := by
  have hread (path : Path) (source : Text) : FromLoader found
      ((settingsAt? (found.loader (invocation.loaded found.disk)) found.disk path source).mapError
        .load) := by
    intro told fault h
    obtain ⟨e, he, hfault⟩ := mapError_eq_error_iff.1 h
    obtain rfl := RunFault.load.inj hfault
    obtain ⟨text, htext⟩ := exists_load_of_settings he
    exact ⟨_, text, htext⟩
  unfold settings
  by_cases hconfig : invocation.options.config = []
  · simp only [hconfig, if_true]
    exact (hread _ _).bind fun _ => .ok
  · simp only [hconfig, if_false]
    refine (hread _ _).bind fun settings? => ?_
    cases settings? with
    | none =>
      intro source fault h
      cases h
    | some settings => exact .ok

/-- **What is told of a document before the templates was told by the loader.** -/
theorem fromLoader_setup : FromLoader found (invocation.setup found) := by
  have hbatch : FromLoader found (invocation.batch found) :=
    fromLoader_settings.bind fun _ => fromLoader_assignments.bind fun _ => .ok
  exact fromLoader_locals.bind fun _ => hbatch.bind fun _ => .ok

/-! ## Runs -/

/-- A run gives its output if all input is sound. -/
theorem exists_output_iff :
    (∃ output, (invocation.run found).output = .ok output) ↔ invocation.Sound found := by
  have hsound : invocation.Sound found ↔ (∃ setup, invocation.setup found = .ok setup) ∧
      ∀ setup, invocation.setup found = .ok setup → invocation.TemplatesSound found.disk setup := by
    rw [exists_setup_iff]
    exact ⟨fun h => ⟨h.input, h.templates⟩, fun h => ⟨h.1, h.2⟩⟩
  rw [run, hsound]
  cases hsetup : invocation.setup found with
  | error fault =>
    constructor
    · rintro ⟨output, h⟩
      cases h
    · rintro ⟨⟨setup, h⟩, _⟩
      cases h
  | ok setup =>
    obtain ⟨root, templates, hready⟩ := exists_ready_of_setup hsetup
    simp only [Except.ok.injEq, exists_eq', true_and, forall_eq']
    exact (perform_of_ready invocation hready found.disk invocation.options.layered).1

/-- A fault of a run is one of its input, or one of a template. -/
theorem fault_of_run {fault : RunFault} (h : (invocation.run found).output = .error fault) :
    invocation.setup found = .error fault ∨ ∃ e, fault = .template e := by
  rw [run] at h
  cases hsetup : invocation.setup found with
  | error e =>
    rw [hsetup] at h
    exact .inl (congrArg _ (Except.error.inj h))
  | ok setup =>
    rw [hsetup] at h
    obtain ⟨root, templates, hready⟩ := exists_ready_of_setup hsetup
    exact .inr
      ((perform_of_ready invocation hready found.disk invocation.options.layered).2 fault h)

/-- A fault of the input ends a run. -/
theorem output_of_setup {fault : RunFault} (h : invocation.setup found = .error fault) :
    (invocation.run found).output = .error fault := by
  rw [run, h]
  rfl

/-- A run breaks where the variables or the settings are read, and nowhere else. -/
theorem output_uncaught_iff :
    Uncaught (invocation.run found).output ↔ invocation.Breaks found := by
  rw [← setup_uncaught_iff]
  constructor
  · rintro ⟨fault, h, huncaught⟩
    rcases fault_of_run h with hsetup | ⟨e, rfl⟩
    · exact ⟨fault, hsetup, huncaught⟩
    · have hcaught : (RunFault.template e).exceptionClass.isCaught = true := e.isCaught_exceptionClass
      rw [hcaught] at huncaught
      cases huncaught
  · rintro ⟨fault, h, huncaught⟩
    exact ⟨fault, output_of_setup h, huncaught⟩

/-- What is caught can be seen, if what the loader says can. -/
theorem visible_of_run (hspeaks : found.loader.Speaks) {fault : RunFault}
    (h : (invocation.run found).output = .error fault)
    (hcaught : fault.exceptionClass.isCaught = true) : fault.message.Visible := by
  refine RunFault.visible_message hcaught fun source exception hfault hkind => ?_
  subst hfault
  rcases fault_of_run h with hsetup | ⟨_, he⟩
  · obtain ⟨earlier, text, hload⟩ := fromLoader_setup source _ hsetup
    exact hspeaks earlier text exception hload hkind
  · cases he

end Invocation

/-! ## Endings -/

/-- **How a run ends.**  It ends well exactly if all its input is sound, and then nothing is complained of.
It raises an exception that is not caught exactly where a file with variables or settings breaks the run;
this is of neither of the two families, and nothing is put out or complained of.  In all other cases
nothing is put out, and the user is told of what is wrong. -/
theorem code_of_answer {arguments : List Text} {invocation : Invocation}
    (h : Invocation.ofArguments arguments = .ok invocation) (found : Surroundings)
    (hspeaks : found.loader.Speaks) :
    let left := answer found arguments
    (left.ending = .exit 0 ↔ invocation.Sound found) ∧
      ((∃ exception, left.ending = .raise exception) ↔ invocation.Breaks found) ∧
      (left.ending = .exit 0 ∧ left.complaint = [] ∨
        left.ending = .exit 2 ∧ left.output = [] ∧ left.complaint.Visible ∨
        ∃ exception, left.ending = .raise exception ∧ exception.kind.isUserError = false ∧
          exception.kind.isValueError = false ∧ left.output = [] ∧ left.complaint = []) := by
  rw [answer, h, ← Invocation.exists_output_iff, ← Invocation.output_uncaught_iff]
  dsimp only
  rw [Answer.ofRun]
  cases houtput : (invocation.run found).output with
  | ok output =>
    refine ⟨iff_of_true rfl ⟨output, rfl⟩, ?_, .inl ⟨rfl, rfl⟩⟩
    exact iff_of_false (Ending.not_raise_of_exit 0) Invocation.not_uncaught_ok
  | error fault =>
    have hnone : ¬ ∃ output, (.error fault : Except RunFault Text) = .ok output := by
      rintro ⟨output, hok⟩
      cases hok
    have hexit : fault.ending ≠ .exit 0 := fault.ending_ne_exit_zero
    dsimp only
    cases hcaught : fault.exceptionClass.isCaught with
    | true =>
      -- the user is told of it, and what is left of the message without its blank end can be seen
      have hvisible := Invocation.visible_of_run hspeaks houtput hcaught
      rw [RunFault.ending_of_caught hcaught] at hexit ⊢
      rw [RunFault.complaint_of_caught hcaught]
      refine ⟨iff_of_false hexit hnone, ?_, ?_⟩
      · refine iff_of_false (Ending.not_raise_of_exit faultCode) ?_
        rintro ⟨e, he, huncaught⟩
        obtain rfl := Except.error.inj he
        rw [hcaught] at huncaught
        cases huncaught
      · exact .inr (.inl ⟨rfl, rfl, hvisible.trimEnd.append_right _⟩)
    | false =>
      -- it leaves the program by itself, and nothing is written
      rw [RunFault.ending_of_uncaught hcaught] at hexit ⊢
      rw [RunFault.complaint_of_uncaught hcaught]
      obtain ⟨huser, hvalue⟩ := Bool.or_eq_false_iff.1 hcaught
      refine ⟨iff_of_false hexit hnone, ?_, ?_⟩
      · exact iff_of_true ⟨_, rfl⟩ ⟨fault, rfl, hcaught⟩
      · exact .inr (.inr ⟨_, rfl, huser, hvalue, rfl, rfl⟩)

/-- With nothing on the disk the settings are the default ones, and it is the template that is missed. -/
theorem code_of_answer_missing :
    let found : Surroundings := ⟨fun _ => .missing, Text.of "/work", Yaml.loader⟩
    let invocation : Invocation := ⟨.ast (Text.of "a.txt"), {}⟩
    Invocation.ofArguments [Text.of "ast", Text.of "a.txt"] = .ok invocation ∧
      found.loader.Speaks ∧ ¬ invocation.Sound found ∧ ¬ invocation.Breaks found ∧
      (answer found [Text.of "ast", Text.of "a.txt"]).complaint.Visible := by
  intro found invocation
  have hinvocation : Invocation.ofArguments [Text.of "ast", Text.of "a.txt"] = .ok invocation := by
    decide +kernel
  have hending : (answer found [Text.of "ast", Text.of "a.txt"]).ending = .exit 2 := by
    decide +kernel
  have hspeaks : found.loader.Speaks := Yaml.speaks_loader
  obtain ⟨hsound, hbreaks, hcases⟩ := code_of_answer hinvocation found hspeaks
  rw [hending] at hsound hbreaks hcases
  refine ⟨hinvocation, hspeaks, fun h => ?_, fun h => ?_, ?_⟩
  · have hexit := hsound.2 h
    revert hexit
    decide
  · obtain ⟨_, hraise⟩ := hbreaks.2 h
    cases hraise
  · rcases hcases with ⟨hexit, _⟩ | ⟨_, _, hvisible⟩ | ⟨_, hraise, _⟩
    · revert hexit
      decide
    · exact hvisible
    · cases hraise

/-- The key null is no text: with it in the settings a run raises an exception that is not caught. -/
theorem code_of_answer_null_setting :
    let settings : List UInt8 := [0x6e, 0x75, 0x6c, 0x6c, 0x3a, 0x20, 0x78, 0x0a]
    let disk : Disk := fun path => .file (if path = settingsFile then settings else [0x78])
    let arguments := [Text.of "render", Text.of "a.txt"]
    let left := answer ⟨disk, Text.of "/work", Yaml.loader⟩ arguments
    (Invocation.ofArguments arguments).isOk = true ∧
      left.ending = .raise ⟨.type, Text.of "sequence item 0: expected str instance, NoneType found"⟩ ∧
      left.ending ≠ .exit 0 ∧ left.ending ≠ .exit 2 := by
  decide +kernel

end Stencil.CommandLine
