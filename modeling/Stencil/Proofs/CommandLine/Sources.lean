import Stencil.Proofs.CommandLine.ExitCode
import Stencil.Proofs.Settings.Bindings

/-!
# `Stencil.Proofs.CommandLine.Sources` — where the values of variables come from

Variables are given in two files and by items on the command line.  A file holds bindings, whose keys
may be of any kind and several of which may give the same name; an item holds a name and a value.  What
is made of them are variables, in which each name is once.  Here it is said for each source by itself
what a name has come to in it: the value of the last item, or of the last binding, that is for it.

## Contents
- **The files.** `Sources` and `Invocation.Reads`.
- **Items.** `givenBy?` and `lastGiven?`, with **`find?_assignments`**.
- **The files of a run.** **`reads_fileVariables`** and **`reads_settings`**.
-/

namespace Stencil.CommandLine

/-! ## The files -/

/-- What is read as variables is in the file of variables, if one is named. -/
def Invocation.ReadsVariables (invocation : Invocation) (found : Surroundings) (bindings : Bindings) :
    Prop :=
  if invocation.options.variablesFile = [] then bindings = {}
  else FileHolds (invocation.loadVariables found) found.disk
    (.ofText invocation.options.variablesFile) bindings

/-- What is read as settings is in the file with the settings, which has to be there only if it is
named. -/
def Invocation.ReadsSettings (invocation : Invocation) (found : Surroundings) (bindings : Bindings) :
    Prop :=
  FileHolds (invocation.loadSettings found) found.disk invocation.settingsPath bindings ∨
    invocation.options.config = [] ∧ (∀ octets, found.disk settingsFile ≠ .file octets) ∧ bindings = {}

/-- What stands in the two files. -/
structure Sources where
  fromFile : Bindings
  settings : Bindings

/-- **What is read from the two files**, by the loader that a run finds. -/
structure Invocation.Reads (invocation : Invocation) (found : Surroundings) (sources : Sources) :
    Prop where
  fromFile : invocation.ReadsVariables found sources.fromFile
  settings : invocation.ReadsSettings found sources.settings

/-! ## Items -/

/-- The value that an item gives to a name: all that follows the first equals sign, if what stands before
it is the name but for the blanks at its ends. -/
def givenBy? (name item : Text) : Option Text :=
  if '=' ∈ item ∧ Text.trim (item.takeWhile (· ≠ '=')) = name then
    some (item.dropWhile (· ≠ '=')).tail
  else none

/-- The value that the last item for a name gives to it. -/
def lastGiven? (items : List Text) (name : Text) : Option Text :=
  items.reverse.findSome? (givenBy? name)

/-- An item gives a value to the name before its first equals sign, and to no other. -/
theorem givenBy?_append {before value : Text} (hbefore : '=' ∉ before) (name : Text) :
    givenBy? name (before ++ '=' :: value) = if Text.trim before = name then some value else none := by
  have hmem : '=' ∈ before ++ '=' :: value := by simp
  have hapart : ∀ c ∈ before, decide (c ≠ '=') = true := fun c hc =>
    decide_eq_true fun hsame => hbefore (hsame ▸ hc)
  have htake : (before ++ '=' :: value).takeWhile (· ≠ '=') = before := by
    rw [List.takeWhile_append_of_pos hapart]
    simp
  have hdrop : (before ++ '=' :: value).dropWhile (· ≠ '=') = '=' :: value := by
    rw [List.dropWhile_append_of_pos hapart]
    simp
  unfold givenBy?
  rw [htake, hdrop]
  simp only [hmem, true_and, List.tail_cons]

/-- An item that gives a value to a name is an assignment of that value. -/
theorem givenBy?_of_assignment {option item : Text} {entry : Text × Simple}
    (h : assignment option item = .ok entry) (name : Text) :
    (givenBy? name item).map (fun value => Simple.scalar (.text value)) =
      if entry.1 == name then some entry.2 else none := by
  unfold assignment at h
  split at h
  next => cases h
  next before value hcut =>
    split at h
    next => cases h
    next =>
      obtain rfl := Except.ok.inj h
      obtain ⟨rfl, hbefore⟩ := Text.cut?_eq_some_iff.1 hcut
      rw [givenBy?_append hbefore]
      by_cases hname : before.trim = name <;> simp [hname]

/-- The last entry for a name is that of the last item for it. -/
theorem lastOf?_of_assignments {option : Text} {items : List Text} {entries : List (Text × Simple)}
    (h : items.map (assignment option) = entries.map .ok) (name : Text) :
    Mapping.lastOf? entries name =
      (lastGiven? items name).map fun value => .scalar (.text value) := by
  induction items generalizing entries with
  | nil =>
    obtain rfl := List.map_eq_nil_iff.1 h.symm
    rfl
  | cons item rest ih =>
    obtain ⟨entry, others, rfl, hentry, hothers⟩ := List.map_eq_cons_iff.1 h.symm
    rw [Mapping.lastOf?_cons, ih hothers.symm, ← givenBy?_of_assignment hentry.symm name]
    unfold lastGiven?
    rw [List.reverse_cons, List.findSome?_append, Option.map_or]
    cases hitem : givenBy? name item <;> simp [hitem]

/-- **The variables that some items give** have the values that the last items for them give. -/
theorem find?_assignments {option : Text} {items : List Text} {given : Variables}
    (h : assignments option items = .ok given) :
    given.Distinct ∧ ∀ name,
      given.find? name = (lastGiven? items name).map fun value => .scalar (.text value) := by
  obtain ⟨entries, hentries, rfl⟩ := map_eq_ok_iff.1 h
  refine ⟨Mapping.distinct_ofList entries, fun name => ?_⟩
  rw [Mapping.find?_ofList (sharp_of_lawful name)]
  exact lastOf?_of_assignments (mapM_eq_ok_iff.1 hentries) name

/-! ## The files of a run -/

section Files

variable {invocation : Invocation} {found : Surroundings}

/-- The variables in the file of variables are those that stand in it. -/
theorem reads_fileVariables {given : Variables} (h : invocation.fileVariables found = .ok given) :
    ∃ bindings, invocation.ReadsVariables found bindings ∧
      given.Distinct ∧ ∀ name, (given.find? name).map Simple.toValue = lastNamed? bindings name := by
  unfold Invocation.fileVariables at h
  unfold Invocation.ReadsVariables
  by_cases hfile : invocation.options.variablesFile = []
  · simp only [hfile, if_true] at h ⊢
    obtain rfl := Except.ok.inj h
    exact ⟨{}, rfl, Mapping.distinct_empty, fun _ => rfl⟩
  · simp only [hfile, if_false] at h ⊢
    obtain ⟨bindings, hholds, hgiven⟩ := variablesAt_eq_ok_iff.1 (mapError_eq_ok_iff.1 h)
    exact ⟨bindings, hholds, find?_variables hgiven⟩

/-- The settings of a run are those of the file, or the default ones where none is named. -/
theorem reads_settings {settings : Settings} (h : invocation.settings found = .ok settings) :
    ∃ bindings, Says bindings settings ∧ invocation.ReadsSettings found bindings := by
  unfold Invocation.settings at h
  unfold Invocation.ReadsSettings Invocation.settingsPath
  by_cases hconfig : invocation.options.config = []
  · simp only [hconfig, if_true] at h ⊢
    obtain ⟨settings?, hsettings, h⟩ := bind_eq_ok_iff.1 h
    obtain rfl := Except.ok.inj h
    replace hsettings := mapError_eq_ok_iff.1 hsettings
    cases settings? with
    | none =>
      have hnone : found.disk.file? settingsFile = .ok none := settingsAt?_eq_none_iff.1 hsettings
      exact ⟨{}, says_default, .inr ⟨trivial, not_file_of_file? hnone, rfl⟩⟩
    | some settings =>
      obtain ⟨bindings, hholds, hgiven⟩ := settingsAt?_eq_some_iff.1 hsettings
      exact ⟨bindings, says_of_ok hgiven, .inl hholds⟩
  · simp only [hconfig, if_false] at h ⊢
    obtain ⟨settings?, hsettings, h⟩ := bind_eq_ok_iff.1 h
    replace hsettings := mapError_eq_ok_iff.1 hsettings
    cases settings? with
    | none => cases h
    | some given =>
      obtain rfl := Except.ok.inj h
      obtain ⟨bindings, hholds, hgiven⟩ := settingsAt?_eq_some_iff.1 hsettings
      exact ⟨bindings, says_of_ok hgiven, .inl hholds⟩

end Files

end Stencil.CommandLine
