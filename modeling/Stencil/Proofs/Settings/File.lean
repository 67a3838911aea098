import Stencil.Proofs.FirstFault
import Stencil.Settings.File

/-!
# `Stencil.Proofs.Settings.File` — what stands in a file

A file holds octets, these hold a text, and a loader makes a value of the text.  If all of this goes well
and the value is a mapping, or nothing, the file holds bindings.  What is read of a file is told by these
three steps alone, whatever the loader is.

## Contents
- **Texts and bindings.** `Disk.Holds` and `FileHolds`, with **`bindingsOfOctets_eq_ok_iff`**.
- **Variables and settings.** **`variablesAt_eq_ok_iff`**, `settingsAt?_eq_none_iff` and
  **`settingsAt?_eq_some_iff`**.
- **What a loader refuses.** `exists_load_of_variables` and `exists_load_of_settings`.
-/

namespace Stencil

/-! ## Texts and bindings -/

/-- A file holds a text. -/
def Disk.Holds (disk : Disk) (path : Path) (text : Text) : Prop :=
  ∃ octets, disk path = .file octets ∧ textOfOctets octets = .ok text

section Files

variable {load : Text → Except LoaderFault Value} {disk : Disk} {path : Path} {source : Text}
  {octets : List UInt8} {bindings : Bindings}

/-- **A file holds some bindings**: its text is loaded as a mapping, or as nothing. -/
def FileHolds (load : Text → Except LoaderFault Value) (disk : Disk) (path : Path)
    (bindings : Bindings) : Prop :=
  ∃ text value, disk.Holds path text ∧ load text = .ok value ∧
    (value = .mapping bindings.entries ∨ value = .scalar .null ∧ bindings = {})

/-- A value gives bindings if it is a mapping, or nothing. -/
theorem bindingsOfValue_eq_ok_iff {value : Value} :
    bindingsOfValue source value = .ok bindings ↔
      value = .mapping bindings.entries ∨ value = .scalar .null ∧ bindings = {} := by
  constructor
  · intro h
    unfold bindingsOfValue at h
    split at h
    · exact .inr ⟨rfl, (Except.ok.inj h).symm⟩
    · obtain rfl := Except.ok.inj h
      exact .inl rfl
    · cases h
  · rintro (rfl | ⟨rfl, rfl⟩) <;> rfl

/-- **What is read as bindings is what the file holds.** -/
theorem bindingsOfOctets_eq_ok_iff (source : Text) (hfile : disk path = .file octets) :
    bindingsOfOctets load source octets = .ok bindings ↔ FileHolds load disk path bindings := by
  constructor
  · intro h
    obtain ⟨text, htext, h⟩ := bind_eq_ok_iff.1 h
    obtain ⟨value, hvalue, h⟩ := bind_eq_ok_iff.1 h
    exact ⟨text, value, ⟨octets, hfile, mapError_eq_ok_iff.1 htext⟩, mapError_eq_ok_iff.1 hvalue,
      bindingsOfValue_eq_ok_iff.1 h⟩
  · rintro ⟨text, value, ⟨held, hheld, htext⟩, hvalue, hbindings⟩
    obtain rfl := Reading.file.inj (hfile.symm.trans hheld)
    refine bind_eq_ok_iff.2 ⟨text, mapError_eq_ok_iff.2 htext, ?_⟩
    exact bind_eq_ok_iff.2 ⟨value, mapError_eq_ok_iff.2 hvalue, bindingsOfValue_eq_ok_iff.2 hbindings⟩

/-- There is a file where something is read. -/
theorem file?_eq_some_iff : disk.file? path = .ok (some octets) ↔ disk path = .file octets := by
  unfold Disk.file?
  cases disk path <;> simp

/-- Only a name that is too long stops a look at a path. -/
theorem nameTooLong_of_file? {fault : DiskFault} (h : disk.file? path = .error fault) :
    disk path = .nameTooLong := by
  unfold Disk.file? at h
  cases hreading : disk path with
  | nameTooLong => rfl
  | file | folder | missing | notFolder | nullCharacter =>
    rw [hreading] at h
    cases h

/-- There is no file where nothing is read. -/
theorem not_file_of_file? (h : disk.file? path = .ok none) (octets : List UInt8) :
    disk path ≠ .file octets := by
  intro hfile
  rw [file?_eq_some_iff.2 hfile] at h
  cases h

/-- What holds bindings is a file. -/
theorem FileHolds.exists_octets (h : FileHolds load disk path bindings) :
    ∃ octets, disk path = .file octets := by
  obtain ⟨_, _, ⟨octets, hfile, _⟩, _⟩ := h
  exact ⟨octets, hfile⟩

/-! ## Variables and settings -/

theorem variablesAt_file (h : disk path = .file octets) :
    variablesAt load disk path =
      bindingsOfOctets load path.toText octets >>= fun bindings =>
        (Variables.ofBindings bindings).mapError (.settings path.toText) := by
  rw [variablesAt, file?_eq_some_iff.2 h]
  rfl

theorem settingsAt?_file (h : disk path = .file octets) :
    settingsAt? load disk path source =
      bindingsOfOctets load source octets >>= fun bindings =>
        (Settings.ofBindings bindings).mapError (.settings source) >>= fun settings =>
          pure (some settings) := by
  rw [settingsAt?, file?_eq_some_iff.2 h]
  rfl

/-- **The variables in a file** are those of the bindings that it holds. -/
theorem variablesAt_eq_ok_iff {given : Variables} :
    variablesAt load disk path = .ok given ↔
      ∃ bindings, FileHolds load disk path bindings ∧ Variables.ofBindings bindings = .ok given := by
  constructor
  · intro h
    obtain ⟨octets?, hoctets, hread⟩ := bind_eq_ok_iff.1 h
    cases octets? with
    | none => cases hread
    | some octets =>
      have hfile := file?_eq_some_iff.1 (mapError_eq_ok_iff.1 hoctets)
      obtain ⟨bindings, hbindings, hgiven⟩ := bind_eq_ok_iff.1 hread
      exact ⟨bindings, (bindingsOfOctets_eq_ok_iff _ hfile).1 hbindings, mapError_eq_ok_iff.1 hgiven⟩
  · rintro ⟨bindings, hholds, hgiven⟩
    obtain ⟨octets, hfile⟩ := hholds.exists_octets
    rw [variablesAt_file hfile]
    exact bind_eq_ok_iff.2
      ⟨bindings, (bindingsOfOctets_eq_ok_iff _ hfile).2 hholds, mapError_eq_ok_iff.2 hgiven⟩

/-- There are no settings where there is no file. -/
theorem settingsAt?_eq_none_iff :
    settingsAt? load disk path source = .ok none ↔ disk.file? path = .ok none := by
  constructor
  · intro h
    obtain ⟨octets?, hoctets, hread⟩ := bind_eq_ok_iff.1 h
    cases octets? with
    | none => exact mapError_eq_ok_iff.1 hoctets
    | some octets =>
      obtain ⟨_, _, hread⟩ := bind_eq_ok_iff.1 hread
      obtain ⟨_, _, hread⟩ := bind_eq_ok_iff.1 hread
      cases hread
  · intro h
    rw [settingsAt?, h]
    rfl

/-- **The settings in a file** are those of the bindings that it holds. -/
theorem settingsAt?_eq_some_iff {settings : Settings} :
    settingsAt? load disk path source = .ok (some settings) ↔
      ∃ bindings, FileHolds load disk path bindings ∧ Settings.ofBindings bindings = .ok settings := by
  constructor
  · intro h
    obtain ⟨octets?, hoctets, hread⟩ := bind_eq_ok_iff.1 h
    cases octets? with
    | none => cases hread
    | some octets =>
      have hfile := file?_eq_some_iff.1 (mapError_eq_ok_iff.1 hoctets)
      obtain ⟨bindings, hbindings, hread⟩ := bind_eq_ok_iff.1 hread
      obtain ⟨given, hgiven, hread⟩ := bind_eq_ok_iff.1 hread
      obtain rfl := Option.some.inj (Except.ok.inj hread)
      exact ⟨bindings, (bindingsOfOctets_eq_ok_iff _ hfile).1 hbindings, mapError_eq_ok_iff.1 hgiven⟩
  · rintro ⟨bindings, hholds, hsettings⟩
    obtain ⟨octets, hfile⟩ := hholds.exists_octets
    rw [settingsAt?_file hfile]
    refine bind_eq_ok_iff.2 ⟨bindings, (bindingsOfOctets_eq_ok_iff _ hfile).2 hholds, ?_⟩
    exact bind_eq_ok_iff.2 ⟨settings, mapError_eq_ok_iff.2 hsettings, rfl⟩

/-! ## What a loader refuses -/

/-- What is told of a document was told by the loader. -/
theorem exists_load_of_bindings {told : Text} {fault : LoaderFault}
    (h : bindingsOfOctets load source octets = .error (.document told fault)) :
    ∃ text, load text = .error fault := by
  rcases bind_eq_error_iff.1 h with h | ⟨text, _, h⟩
  · obtain ⟨_, _, hfault⟩ := mapError_eq_error_iff.1 h
    cases hfault
  rcases bind_eq_error_iff.1 h with h | ⟨value, _, h⟩
  · obtain ⟨e, he, hfault⟩ := mapError_eq_error_iff.1 h
    obtain ⟨_, rfl⟩ := LoadFault.document.inj hfault
    exact ⟨text, he⟩
  · unfold bindingsOfValue at h
    split at h <;> cases h

theorem exists_load_of_variables {told : Text} {fault : LoaderFault}
    (h : variablesAt load disk path = .error (.document told fault)) :
    ∃ text, load text = .error fault := by
  rcases bind_eq_error_iff.1 h with h | ⟨octets?, _, h⟩
  · obtain ⟨_, _, hfault⟩ := mapError_eq_error_iff.1 h
    cases hfault
  cases octets? with
  | none => cases h
  | some octets =>
    rcases bind_eq_error_iff.1 h with h | ⟨bindings, _, h⟩
    · exact exists_load_of_bindings h
    · obtain ⟨_, _, hfault⟩ := mapError_eq_error_iff.1 h
      cases hfault

theorem exists_load_of_settings {told : Text} {fault : LoaderFault}
    (h : settingsAt? load disk path source = .error (.document told fault)) :
    ∃ text, load text = .error fault := by
  rcases bind_eq_error_iff.1 h with h | ⟨octets?, _, h⟩
  · obtain ⟨_, _, hfault⟩ := mapError_eq_error_iff.1 h
    cases hfault
  cases octets? with
  | none => cases h
  | some octets =>
    rcases bind_eq_error_iff.1 h with h | ⟨bindings, _, h⟩
    · exact exists_load_of_bindings h
    rcases bind_eq_error_iff.1 h with h | ⟨_, _, h⟩
    · obtain ⟨_, _, hfault⟩ := mapError_eq_error_iff.1 h
      cases hfault
    · cases h

end Files

end Stencil
