import Mathlib.Data.List.Forall2
import Stencil.Proofs.Batch.Adding
import Stencil.Proofs.FirstFault
import Stencil.Proofs.Variables

/-!
# `Stencil.Proofs.Settings.Bindings` — what bindings come to as variables and as settings

The keys of bindings may be of any kind, and several of them may give the same name.  What is made of them
are variables, in which each name is once and has the value of the last binding that is for it; settings
are two folders and such variables.

## Contents
- **Variables.** `lastNamed?`, and **`find?_variables`**.
- **Settings.** `globalsIn` and `Says`, with **`says_of_ok`**.
-/

namespace Stencil

/-! ## Variables -/

/-- The value of the last binding with a name. -/
def lastNamed? (bindings : Bindings) (name : Text) : Option Value :=
  Mapping.lastOf? (bindings.entries.map fun (key, value) => (key.toText, value)) name

/-- A variable has the name of its key, and its value. -/
theorem eq_of_entryOf {key : Key} {value : Value} {entry : Text × Simple}
    (h : Variables.entryOf key value = .ok entry) : (key.toText, value) = (entry.1, entry.2.toValue) := by
  unfold Variables.entryOf at h
  split at h
  next => cases h
  next =>
    split at h
    next simple hsimple =>
      obtain rfl := Except.ok.inj h
      rw [Value.simple?_eq_some_iff.1 hsimple]
    next => cases h

/-- **The variables that some bindings give** have the values of the last bindings with their names. -/
theorem find?_variables {bindings : Bindings} {given : Variables}
    (h : Variables.ofBindings bindings = .ok given) :
    given.Distinct ∧ ∀ name, (given.find? name).map Simple.toValue = lastNamed? bindings name := by
  obtain ⟨entries, hentries, rfl⟩ := map_eq_ok_iff.1 h
  refine ⟨Mapping.distinct_ofList entries, fun name => ?_⟩
  have hnamed : (bindings.entries.map fun (key, value) => (key.toText, value)) =
      entries.map fun entry => (entry.1, entry.2.toValue) := by
    have hmap := mapM_eq_ok_iff.1 hentries
    rw [← List.forall₂_eq_eq_eq, List.forall₂_map_left_iff, List.forall₂_map_right_iff] at hmap ⊢
    exact hmap.imp fun _ _ => eq_of_entryOf
  unfold lastNamed?
  rw [Mapping.find?_ofList (sharp_of_lawful name), hnamed, Mapping.lastOf?_map]

/-! ## Settings -/

/-- The variables among the settings. -/
def globalsIn (settings : Bindings) : Bindings :=
  match settings.find? (Batch.keyOf Settings.globalsName) with
  | some (.mapping entries) => ⟨entries⟩
  | _ => {}

/-- A folder among the settings is a text that is not empty, or the default. -/
theorem eq_of_folderOf {bindings : Bindings} {name default folder : Text} (hdefault : default ≠ [])
    (h : Settings.folderOf bindings name default = .ok folder) :
    folder = (textAt? bindings name).getD default ∧ folder ≠ [] := by
  unfold Settings.folderOf at h
  unfold textAt? Batch.keyOf
  split at h
  next hnone =>
    obtain rfl := Except.ok.inj h
    rw [hnone]
    exact ⟨rfl, hdefault⟩
  next c rest hsome =>
    obtain rfl := Except.ok.inj h
    rw [hsome]
    exact ⟨rfl, List.cons_ne_nil c rest⟩
  next => cases h

/-- **What settings say**, layer by layer. -/
structure Says (bindings : Bindings) (settings : Settings) : Prop where
  rootFolder : settings.rootFolder =
    (textAt? bindings Settings.rootName).getD Settings.defaultRoot ∧ settings.rootFolder ≠ []
  templatesFolder : settings.templatesFolder =
    (textAt? bindings Settings.templatesName).getD Settings.defaultTemplates ∧
      settings.templatesFolder ≠ []
  distinct : settings.globals.Distinct
  globals : ∀ name, (settings.globals.find? name).map Simple.toValue =
    lastNamed? (globalsIn bindings) name

/-- Where nothing is set the settings are the default ones. -/
theorem says_default : Says {} Settings.default where
  rootFolder := ⟨rfl, by decide⟩
  templatesFolder := ⟨rfl, by decide⟩
  distinct := Mapping.distinct_empty
  globals := fun _ => rfl

/-- What counts as nothing sets no variables. -/
theorem find?_globalsOf {bindings : Bindings} {globals : Variables}
    (h : Settings.globalsOf bindings = .ok globals) :
    globals.Distinct ∧ ∀ name,
      (globals.find? name).map Simple.toValue = lastNamed? (globalsIn bindings) name := by
  unfold Settings.globalsOf at h
  unfold globalsIn Batch.keyOf
  split at h
  next hnone =>
    obtain rfl := Except.ok.inj h
    rw [hnone]
    exact ⟨Mapping.distinct_empty, fun _ => rfl⟩
  next entries hmapping =>
    rw [hmapping]
    exact find?_variables h
  next value hvalue hother =>
    split at h
    next =>
      obtain rfl := Except.ok.inj h
      rw [hother]
      refine ⟨Mapping.distinct_empty, fun _ => ?_⟩
      split
      next entries hmapping => exact absurd (Option.some.inj hmapping) (hvalue entries)
      next => rfl
    next => cases h

/-- Settings that are accepted are what stands in the bindings. -/
theorem says_of_ok {bindings : Bindings} {settings : Settings}
    (h : Settings.ofBindings bindings = .ok settings) : Says bindings settings := by
  unfold Settings.ofBindings at h
  cases hkeys : Settings.faultOfKeys? (Settings.unknownKeys bindings) with
  | some fault =>
    rw [hkeys] at h
    cases h
  | none =>
    rw [hkeys] at h
    obtain ⟨root, hroot, h⟩ := bind_eq_ok_iff.1 h
    obtain ⟨templates, htemplates, h⟩ := bind_eq_ok_iff.1 h
    obtain ⟨globals, hglobals, h⟩ := bind_eq_ok_iff.1 h
    obtain rfl := Except.ok.inj h
    obtain ⟨hdistinct, hfind⟩ := find?_globalsOf hglobals
    exact ⟨eq_of_folderOf (by decide) hroot, eq_of_folderOf (by decide) htemplates, hdistinct, hfind⟩

end Stencil
