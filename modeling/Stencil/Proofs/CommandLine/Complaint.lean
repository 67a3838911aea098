import Mathlib.Data.List.TakeWhile
import Stencil.CommandLine.Run
import Stencil.Yaml.Document

/-!
# `Stencil.Proofs.CommandLine.Complaint` — something is said of every fault

A complaint is the message of a fault, without the blanks at its end.  Of every fault that is caught there
is something to be seen, as long as the loader of settings and variables says something of the values
that it refuses.

## Contents
- **`Text.Visible`**: a text has a character that is not blank, and keeps it without its blank end.
- **Loaders.** **`Loader.Speaks`**, and a loader that does.
- **Faults.** **`RunFault.visible_message`**, fault by fault.
-/

namespace Stencil

/-! ## Visible texts -/

/-- A text shows something. -/
def Text.Visible (s : Text) : Prop :=
  ∃ c ∈ s, isBlank c = false

section Visible

variable {s t : Text}

instance : Decidable s.Visible := List.decidableBEx _ s

theorem Text.Visible.append_right (h : s.Visible) (t : Text) : (s ++ t).Visible := by
  obtain ⟨c, hc, hvisible⟩ := h
  exact ⟨c, List.mem_append_left t hc, hvisible⟩

theorem Text.Visible.append_left (h : t.Visible) (s : Text) : (s ++ t).Visible := by
  obtain ⟨c, hc, hvisible⟩ := h
  exact ⟨c, List.mem_append_right s hc, hvisible⟩

/-- Blanks at the end are not what is seen. -/
theorem Text.Visible.trimEnd (h : s.Visible) : s.trimEnd.Visible := by
  obtain ⟨c, hc, hvisible⟩ := h
  refine ⟨c, ?_, hvisible⟩
  rw [← List.mem_reverse, ← @List.takeWhile_append_dropWhile _ isBlank s.reverse,
    List.mem_append] at hc
  rcases hc with hc | hc
  · rw [List.mem_takeWhile_imp hc] at hvisible
    cases hvisible
  · exact List.mem_reverse.2 hc

/-- Something is said of an integer with too many digits; the text is long, and its first part is enough. -/
theorem Text.visible_notWritableMessage : Text.notWritableMessage.Visible :=
  Text.Visible.append_right (by decide) _

end Visible

/-! ## Loaders -/

/-- **A loader speaks**: what it says of a value that it refuses can be seen. -/
def Loader.Speaks (loader : Loader) : Prop :=
  ∀ earlier text exception, loader earlier text = .error (.raised exception) →
    exception.kind.isCaught = true → exception.message.Visible

theorem CalendarFault.visible_message (fault : CalendarFault) : fault.message.Visible := by
  cases fault with
  | year n => exact (Text.Visible.append_right (by decide) _).append_right _
  | zone ahead =>
    refine Text.Visible.append_right (Text.Visible.append_right (Text.Visible.append_right ?_ _) _) _
    decide
  | month | day | hour | minute | second | overflow => decide

theorem Yaml.Fault.visible_message {fault : Yaml.Fault} {kind : ExceptionClass}
    (hkind : fault.exceptionClass? = some kind) (hcaught : kind.isCaught = true) :
    fault.message.Visible := by
  cases fault with
  | calendar fault => exact fault.visible_message
  | integer base text =>
    exact ((Text.Visible.append_right (by decide) _).append_right _).append_right _
  | longInteger digits => exact (Text.Visible.append_right (by decide) _).append_right _
  | number text => exact Text.Visible.append_right (by decide) _
  | malformed | codePoint | exponents => decide
  | notWritable => exact Text.visible_notWritableMessage
  | codeSize | emptyNumber | truthValue | unhashable | repeatedKey | endless | version =>
    obtain rfl := Option.some.inj hkind
    cases hcaught

/-- The loader of the documents that are read here speaks. -/
theorem Yaml.speaks_loader : Loader.Speaks Yaml.loader := by
  intro earlier text exception h hcaught
  unfold loader at h
  split at h
  next => cases h
  next fault _ =>
    have hfault := Except.error.inj h
    unfold Fault.toLoaderFault at hfault
    cases hkind : fault.exceptionClass? with
    | none =>
      rw [hkind] at hfault
      cases hfault
    | some kind =>
      rw [hkind] at hfault
      obtain rfl := LoaderFault.raised.inj hfault
      exact fault.visible_message hkind hcaught

/-! ## Faults -/

theorem Utf8.Fault.visible_message (fault : Utf8.Fault) : fault.message.Visible :=
  ((Text.Visible.append_right (by decide) _).append_right _).append_right _

theorem SettingsFault.visible_message (source : Text) (fault : SettingsFault) :
    (fault.message source).Visible := by
  cases fault with
  | unknownNames names =>
    exact (Text.Visible.append_left (by decide) source).append_right _
  | folder name | globals | compound name =>
    -- the source comes first, and nothing is known of it
    exact Text.Visible.append_left (by decide) _
  | notName kind => exact (Text.Visible.append_right (by decide) _).append_right _
  | unordered kind other => exact ⟨'\'', List.mem_append_right _ (List.mem_singleton_self _), rfl⟩
  | dateAndTime =>
    show (Text.of _).Visible
    decide
  | zoneAndNone =>
    show (Text.of _).Visible
    decide
  | notWritable => exact Text.visible_notWritableMessage

/-- What is said of a file that is not loaded can be seen, if what the loader says can. -/
theorem LoadFault.visible_message {fault : LoadFault} (hcaught : fault.exceptionClass.isCaught = true)
    (hspeaks : ∀ source exception, fault = .document source (.raised exception) →
      exception.kind.isCaught = true → exception.message.Visible) : fault.message.Visible := by
  cases fault with
  | encoding fault => exact fault.visible_message
  | settings source fault => exact fault.visible_message source
  | disk fault => cases hcaught
  | document source fault =>
    cases fault with
    | notDocument message =>
      exact ((Text.Visible.append_right (by decide) _).append_right _).append_right _
    | raised exception => exact hspeaks source exception rfl hcaught
  | noVariables path | notMapping source => exact Text.Visible.append_right (by decide) _

/-- A report on one line starts with its code. -/
theorem Diagnostic.visible_summary (report : Diagnostic) : report.summary.Visible := by
  refine Text.Visible.append_right (Text.Visible.append_right (Text.Visible.append_right ?_ _) _) _
  cases report.code <;> decide

theorem RenderFault.visible_message (fault : RenderFault) : fault.message.Visible := by
  cases fault with
  | unbalanced report => exact report.visible_summary
  | notWritable => exact Text.visible_notWritableMessage

/-- The faults of templates are all caught. -/
theorem TemplateFault.isCaught_exceptionClass (fault : TemplateFault) :
    fault.exceptionClass.isCaught = true := by
  cases fault with
  | render fault => cases fault <;> rfl
  | notFound | notFolder | nameTooLong | nullCharacter | encoding => rfl

theorem TemplateFault.visible_message (fault : TemplateFault) : fault.message.Visible := by
  cases fault with
  | encoding fault => exact fault.visible_message
  | render fault => exact fault.visible_message
  | notFound path => exact Text.Visible.append_right (by decide) _
  | notFolder path | nameTooLong path =>
    exact ((Text.Visible.append_right (by decide) _).append_right _).append_right _
  | nullCharacter => decide

/-- What a batch refuses is caught only where there is nobody to do the jobs. -/
theorem BatchFault.visible_message {fault : BatchFault}
    (hcaught : fault.exceptionClass.isCaught = true) : fault.message.Visible := by
  cases fault with
  | noWorkers => decide
  | rootKind | templatesKind | closed => cases hcaught

namespace CommandLine

theorem AssignmentFault.visible_message (fault : AssignmentFault) : fault.message.Visible := by
  cases fault with
  | noEquals option item | noName option item => exact Text.Visible.append_left (by decide) _

/-- **Something is said of every fault that is caught**, if what the loader says can be seen. -/
theorem RunFault.visible_message {fault : RunFault} (hcaught : fault.exceptionClass.isCaught = true)
    (hspeaks : ∀ source exception, fault = .load (.document source (.raised exception)) →
      exception.kind.isCaught = true → exception.message.Visible) : fault.message.Visible := by
  cases fault with
  | load fault =>
    refine LoadFault.visible_message hcaught fun source exception hfault => ?_
    exact hspeaks source exception (congrArg RunFault.load hfault)
  | assignment fault => exact fault.visible_message
  | noSettings path => exact Text.Visible.append_right (by decide) _
  | batch fault => exact BatchFault.visible_message hcaught
  | template fault => exact fault.visible_message

end CommandLine

end Stencil
