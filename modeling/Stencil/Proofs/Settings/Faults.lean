import Stencil.CommandLine.Fault
import Stencil.Proofs.Settings.File
import Stencil.Proofs.Settings.Typing

/-!
# `Stencil.Proofs.Settings.Faults` — what is wrong with a file and not caught

Whatever is wrong with a file with settings or variables is raised as an exception that is caught, with
few exceptions.  A file may have a name too long to be looked for; its loader may raise an exception of
another family on its text; and among settings there may be a key that is no text, since the message that
should tell of unknown keys cannot be written then.

## Contents
- **Bindings.** `Settings.HasNameless`; **`settings_uncaught_iff`** and `variables_caught`.
- **Files.** `BreaksLoading` and `HasNamelessSetting`; **`variablesAt_uncaught_iff`** and
  **`settingsAt?_uncaught_iff`**.
-/

namespace Stencil

/-! ## Bindings -/

namespace Settings

/-- Among the keys is one that is no text. -/
def HasNameless (bindings : Bindings) : Prop :=
  ∃ key ∈ bindings.keys, ∀ name, key ≠ .scalar (.text name)

theorem not_hasNameless_iff {bindings : Bindings} :
    ¬ HasNameless bindings ↔ ∀ key ∈ bindings.keys, ∃ name, key = .scalar (.text name) := by
  unfold HasNameless
  push Not
  rfl

/-- What is refused by a check is raised as an error that the user is meant to see. -/
theorem exceptionClass_of_isRefusal {fault : SettingsFault} (h : fault.isRefusal = true) :
    fault.exceptionClass = .config := by
  cases fault with
  | unknownNames | folder | globals | compound => rfl
  | notName | unordered | dateAndTime | zoneAndNone | notWritable => cases h

/-- **Whatever ends a check is caught.** -/
theorem Checked.caught {α : Type} {rule writable : Prop} {result : Except SettingsFault α}
    (h : Checked rule writable result) {fault : SettingsFault} (hfault : result = .error fault) :
    fault.exceptionClass.isCaught = true := by
  have hcases : fault.isRefusal = true ∨ fault = .notWritable := by
    by_cases hrule : rule
    · by_cases hwritable : writable
      · obtain ⟨a, ha⟩ := h.accepted hrule hwritable
        rw [ha] at hfault
        cases hfault
      · rw [h.unwritten hrule hwritable] at hfault
        exact .inr (Except.error.inj hfault).symm
    · obtain ⟨refused, hrefused, hwhy⟩ := h.refused hrule
      rw [hrefused] at hfault
      obtain rfl := Except.error.inj hfault
      exact hwhy.imp_right And.left
  rcases hcases with hrefusal | rfl
  · rw [exceptionClass_of_isRefusal hrefusal]
    rfl
  · rfl

/-- Keys without a common order are compared in vain. -/
theorem exceptionClass_of_orderFault {a b : Key} {fault : SettingsFault}
    (h : orderFault? a b = some fault) : fault.exceptionClass = .type := by
  unfold orderFault? at h
  split at h
  case h_3 => split at h <;> cases h; rfl
  case h_4 => split at h <;> cases h; rfl
  all_goals cases h; rfl

/-- Unknown keys that are no names are told in vain. -/
theorem exceptionClass_of_faultOfKeys {keys : List Key} {key : Key} (hkey : key ∈ keys)
    (hnameless : nameOf? key = none) :
    ∃ fault, faultOfKeys? keys = some fault ∧ fault.exceptionClass = .type := by
  have hnone : keys.mapM nameOf? = none := mapM_nameOf?_eq_none_iff.2 ⟨key, hkey, hnameless⟩
  cases keys with
  | nil => cases hkey
  | cons first rest =>
    rw [faultOfKeys?, hnone]
    cases horder : rest.findSome? (orderFault? first) with
    | none => exact ⟨_, rfl, rfl⟩
    | some fault =>
      obtain ⟨second, _, hsecond⟩ := List.exists_of_findSome?_eq_some horder
      exact ⟨fault, rfl, exceptionClass_of_orderFault hsecond⟩

/-- A key that is no text is unknown, and no name. -/
theorem mem_unknownKeys {bindings : Bindings} {key : Key} (hkey : key ∈ bindings.keys)
    (htext : ∀ name, key ≠ .scalar (.text name)) :
    key ∈ unknownKeys bindings ∧ nameOf? key = none := by
  constructor
  · refine List.mem_filter.2 ⟨hkey, ?_⟩
    rw [Bool.not_eq_true', List.any_eq_false]
    intro name _ hsame
    exact htext name (((sharp_text name).left key).1 hsame)
  · unfold nameOf?
    split
    next name => exact absurd rfl (htext name)
    next => rfl

end Settings

/-- **What is wrong with settings is caught**, unless a key is no text. -/
theorem settings_uncaught_iff {bindings : Bindings} :
    (∃ fault, Settings.ofBindings bindings = .error fault ∧ fault.exceptionClass.isCaught = false) ↔
      Settings.HasNameless bindings := by
  constructor
  · rintro ⟨fault, hfault, huncaught⟩
    by_contra hnames
    have hkeys := Settings.not_hasNameless_iff.1 hnames
    rw [(Settings.checked_ofBindings hkeys).caught hfault] at huncaught
    cases huncaught
  · rintro ⟨key, hkey, htext⟩
    obtain ⟨hunknown, hnameless⟩ := Settings.mem_unknownKeys hkey htext
    obtain ⟨fault, hfault, hclass⟩ := Settings.exceptionClass_of_faultOfKeys hunknown hnameless
    refine ⟨fault, ?_, ?_⟩
    · rw [Settings.ofBindings, hfault]
      rfl
    · rw [hclass]
      rfl

/-- What is wrong with variables is caught. -/
theorem variables_caught {bindings : Bindings} {fault : SettingsFault}
    (h : Variables.ofBindings bindings = .error fault) : fault.exceptionClass.isCaught = true :=
  (Settings.checked_variables bindings).caught h

/-! ## Files -/

/-- **What keeps a file from being loaded and is not caught**: its name is too long, or on its text the loader
raises an exception of neither family. -/
def BreaksLoading (load : Text → Except LoaderFault Value) (disk : Disk) (path : Path) : Prop :=
  disk path = .nameTooLong ∨
    ∃ text exception, disk.Holds path text ∧ load text = .error (.raised exception) ∧
      exception.kind.isUserError = false ∧ exception.kind.isValueError = false

/-- A file holds a mapping with a key that is no text. -/
def HasNamelessSetting (load : Text → Except LoaderFault Value) (disk : Disk) (path : Path) : Prop :=
  ∃ bindings, FileHolds load disk path bindings ∧ Settings.HasNameless bindings

section Files

variable {load : Text → Except LoaderFault Value} {disk : Disk} {path : Path} {source : Text}
  {octets : List UInt8}

/-- The loader raises an exception that is not caught. -/
theorem bindingsOfOctets_uncaught_iff (source : Text) (hfile : disk path = .file octets) :
    (∃ fault, bindingsOfOctets load source octets = .error fault ∧
        fault.exceptionClass.isCaught = false) ↔ BreaksLoading load disk path := by
  constructor
  · rintro ⟨fault, h, huncaught⟩
    rcases bind_eq_error_iff.1 h with h | ⟨text, htext, h⟩
    · obtain ⟨_, _, rfl⟩ := mapError_eq_error_iff.1 h
      cases huncaught
    have hholds : disk.Holds path text := ⟨octets, hfile, mapError_eq_ok_iff.1 htext⟩
    rcases bind_eq_error_iff.1 h with h | ⟨value, _, h⟩
    · obtain ⟨loaderFault, hload, rfl⟩ := mapError_eq_error_iff.1 h
      cases loaderFault with
      | notDocument message => cases huncaught
      | raised exception =>
        exact .inr ⟨text, exception, hholds, hload, Bool.or_eq_false_iff.1 huncaught⟩
    · unfold bindingsOfValue at h
      split at h
      · cases h
      · cases h
      · obtain rfl := Except.error.inj h
        cases huncaught
  · rintro (hlong | ⟨text, exception, ⟨held, hheld, htext⟩, hload, hfamilies⟩)
    · rw [hfile] at hlong
      cases hlong
    · obtain rfl := Reading.file.inj (hfile.symm.trans hheld)
      refine ⟨.document source (.raised exception), ?_, Bool.or_eq_false_iff.2 hfamilies⟩
      refine bind_eq_error_iff.2 (.inr ⟨text, mapError_eq_ok_iff.2 htext, ?_⟩)
      exact bind_eq_error_iff.2 (.inl (mapError_eq_error_iff.2 ⟨_, hload, rfl⟩))

/-- Where there is no file nothing is loaded. -/
theorem not_breaksLoading (h : disk.file? path = .ok none) : ¬ BreaksLoading load disk path := by
  rintro (hlong | ⟨_, _, ⟨_, hfile, _⟩, _⟩)
  · rw [Disk.file?, hlong] at h
    cases h
  · rw [Disk.file?, hfile] at h
    cases h

theorem not_hasNamelessSetting (h : disk.file? path = .ok none) :
    ¬ HasNamelessSetting load disk path := by
  rintro ⟨bindings, hholds, _⟩
  obtain ⟨octets, hfile⟩ := hholds.exists_octets
  rw [Disk.file?, hfile] at h
  cases h

/-- **What is wrong with a file of variables is caught**, unless it breaks the loading. -/
theorem variablesAt_uncaught_iff :
    (∃ fault, variablesAt load disk path = .error fault ∧ fault.exceptionClass.isCaught = false) ↔
      BreaksLoading load disk path := by
  cases hfound : disk.file? path with
  | error fault =>
    have hlong := nameTooLong_of_file? hfound
    rw [variablesAt, hfound]
    exact iff_of_true ⟨_, rfl, rfl⟩ (.inl hlong)
  | ok octets? =>
    cases octets? with
    | none =>
      -- the file is missed, and this is caught
      refine iff_of_false ?_ (not_breaksLoading hfound)
      rintro ⟨fault, h, huncaught⟩
      rw [variablesAt, hfound] at h
      obtain rfl := Except.error.inj h
      cases huncaught
    | some octets =>
      have hfile := file?_eq_some_iff.1 hfound
      rw [variablesAt_file hfile, ← bindingsOfOctets_uncaught_iff path.toText hfile]
      constructor
      · rintro ⟨fault, h, huncaught⟩
        rcases bind_eq_error_iff.1 h with h | ⟨bindings, _, h⟩
        · exact ⟨fault, h, huncaught⟩
        · obtain ⟨e, he, rfl⟩ := mapError_eq_error_iff.1 h
          exact absurd (variables_caught he) (Bool.eq_false_iff.1 huncaught)
      · rintro ⟨fault, h, huncaught⟩
        exact ⟨fault, bind_eq_error_iff.2 (.inl h), huncaught⟩

/-- **What is wrong with a file of settings is caught**, unless it breaks the loading or a key is no text. -/
theorem settingsAt?_uncaught_iff :
    (∃ fault, settingsAt? load disk path source = .error fault ∧
        fault.exceptionClass.isCaught = false) ↔
      BreaksLoading load disk path ∨ HasNamelessSetting load disk path := by
  cases hfound : disk.file? path with
  | error fault =>
    have hlong := nameTooLong_of_file? hfound
    rw [settingsAt?, hfound]
    exact iff_of_true ⟨_, rfl, rfl⟩ (.inl (.inl hlong))
  | ok octets? =>
    cases octets? with
    | none =>
      -- settings may be missing
      refine iff_of_false ?_ (not_or.2 ⟨not_breaksLoading hfound, not_hasNamelessSetting hfound⟩)
      rintro ⟨fault, h, _⟩
      rw [settingsAt?, hfound] at h
      cases h
    | some octets =>
      have hfile := file?_eq_some_iff.1 hfound
      rw [settingsAt?_file hfile, ← bindingsOfOctets_uncaught_iff source hfile]
      constructor
      · rintro ⟨fault, h, huncaught⟩
        rcases bind_eq_error_iff.1 h with h | ⟨bindings, hbindings, h⟩
        · exact .inl ⟨fault, h, huncaught⟩
        rcases bind_eq_error_iff.1 h with h | ⟨_, _, h⟩
        · obtain ⟨e, he, rfl⟩ := mapError_eq_error_iff.1 h
          exact .inr ⟨bindings, (bindingsOfOctets_eq_ok_iff _ hfile).1 hbindings,
            settings_uncaught_iff.1 ⟨e, he, huncaught⟩⟩
        · cases h
      · rintro (⟨fault, h, huncaught⟩ | ⟨bindings, hholds, hnameless⟩)
        · exact ⟨fault, bind_eq_error_iff.2 (.inl h), huncaught⟩
        · obtain ⟨e, he, huncaught⟩ := settings_uncaught_iff.2 hnameless
          have hbindings := (bindingsOfOctets_eq_ok_iff source hfile).2 hholds
          refine ⟨.settings source e, bind_eq_error_iff.2 (.inr ⟨bindings, hbindings, ?_⟩), huncaught⟩
          exact bind_eq_error_iff.2 (.inl (mapError_eq_error_iff.2 ⟨e, he, rfl⟩))

end Files

end Stencil
