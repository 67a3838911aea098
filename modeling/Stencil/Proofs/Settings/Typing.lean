import Mathlib.Data.List.Induction
import Stencil.Proofs.Settings.Bindings

/-!
# `Stencil.Proofs.Settings.Typing` — which settings are accepted

Settings are typed: there are three names, the folders are texts that are not empty, and the variables are
a mapping to values that are no lists or mappings (`Settings.Typed`).  The checks that are made one after
the other come to just this rule, but for what counts as no variables: not only the missing value does,
but whatever counts as nothing, such as zero, an empty text or an empty list.  What is accepted is taken as
it stands (`Settings.Gives`).

A name with too many digits has no text, so that variables under it can neither be accepted nor be refused
by name.

## Contents
- **Keys in order.** `Mapping.keys_ofList`.
- **The rule.** `Settings.Typed`, `Settings.Gives` and **`Settings.AcceptsTyped`**.
- **Checks.** `Settings.Checked`, one check after the other; `checked_folderOf`, `checked_variables`,
  `checked_globalsOf` and **`checked_ofBindings`**.
- **What is accepted.** **`Settings.ofBindings_typed`**, and settings for which the rule is broken.
-/

namespace Stencil

/-! ## Keys in order -/

/-- The keys of a mapping are those that were put in, each where it was put in first. -/
theorem Mapping.keys_ofList {κ ν : Type} [BEq κ] [LawfulBEq κ] (entries : List (κ × ν)) :
    (ofList entries).keys = (entries.map Prod.fst).eraseDups := by
  induction entries using List.reverseRecOn with
  | nil => rfl
  | append_singleton entries entry ih =>
    have hlast : ofList (entries ++ [entry]) = (ofList entries).insert entry.1 entry.2 :=
      List.foldl_append
    have hthere : (ofList entries).contains entry.1 = (entries.map Prod.fst).contains entry.1 := by
      rw [Bool.eq_iff_iff, List.contains_iff_mem, ← List.mem_eraseDups, ← ih, contains_eq_true_iff, keys,
        List.mem_map]
      simp only [beq_iff_eq]
    rw [hlast, keys_insert, ih, hthere, List.map_append, List.eraseDups_append]
    by_cases hmem : entry.1 ∈ entries.map Prod.fst
    · have hnone : [entry.1].removeAll (entries.map Prod.fst) = [] := by simp [List.removeAll, hmem]
      rw [if_pos (List.contains_iff_mem.2 hmem), List.map_singleton, hnone]
      simp
    · have hnew : [entry.1].removeAll (entries.map Prod.fst) = [entry.1] := by
        simp [List.removeAll, hmem]
      rw [if_neg (fun h => hmem (List.contains_iff_mem.1 h)), List.map_singleton, hnew]
      simp [List.eraseDups_cons]

/-! ## The rule -/

/-- A value is a list or a mapping. -/
def Value.IsCompound : Value → Prop
  | .list _ | .mapping _ => True
  | .scalar _ | .set _ => False

theorem Value.simple?_eq_none_iff {value : Value} : value.simple? = none ↔ value.IsCompound := by
  cases value <;> simp [simple?, IsCompound]

/-- A fault that is told of the settings: a name, a folder, the variables or one of them is not as it has to
be. -/
def SettingsFault.isRefusal : SettingsFault → Bool
  | .unknownNames _ | .folder _ | .globals | .compound _ => true
  | .notName _ | .unordered _ _ | .dateAndTime | .zoneAndNone | .notWritable => false

namespace Settings

/-- What is set under a name is a text that is not empty, if it is set. -/
def TypedFolder (bindings : Bindings) (name : Text) : Prop :=
  ∀ value, bindings.find? (.scalar (.text name)) = some value →
    ∃ folder, folder ≠ [] ∧ value = .scalar (.text folder)

/-- What is set for the variables is absent, or a mapping to values that are no lists or mappings. -/
def TypedGlobals (absent : Value → Prop) (bindings : Bindings) : Prop :=
  ∀ value, bindings.find? (.scalar (.text globalsName)) = some value →
    absent value ∨ ∃ entries, value = .mapping entries ∧ ∀ entry ∈ entries, ¬ entry.2.IsCompound

/-- **Settings are typed**, where some values stand for no variables. -/
structure Typed (absent : Value → Prop) (bindings : Bindings) : Prop where
  known : ∀ key ∈ bindings.keys, ∃ name ∈ [rootName, templatesName, globalsName],
    key = .scalar (.text name)
  rootFolder : TypedFolder bindings rootName
  templatesFolder : TypedFolder bindings templatesName
  globals : TypedGlobals absent bindings

/-- **What is set is given as it stands**: the folders, or the defaults where they are not set, and the
variables under the texts of their keys, a name where it is first and with its last value. -/
structure Gives (bindings : Bindings) (settings : Settings) : Prop where
  values : Says bindings settings
  names : settings.globals.keys = ((globalsIn bindings).entries.map fun entry => entry.1.toText).eraseDups

/-- The missing value. -/
def IsNull (value : Value) : Prop :=
  value = .scalar .null

/-- **Settings are accepted, and given as they stand, exactly if they are typed**, where nothing but the
missing value stands for no variables. -/
def AcceptsTyped (bindings : Bindings) : Prop :=
  (¬ Typed IsNull bindings → ∃ fault, ofBindings bindings = .error fault ∧ fault.isRefusal = true) ∧
  (Typed IsNull bindings → ∃ settings, ofBindings bindings = .ok settings ∧ Gives bindings settings)

/-- A value that is neither missing nor a mapping counts as nothing, and so as no variables. -/
def MistakenForNothing (bindings : Bindings) : Prop :=
  ∃ value, bindings.find? (.scalar (.text globalsName)) = some value ∧ value.isBlank = true ∧
    ¬ IsNull value ∧ ∀ entries, value ≠ .mapping entries

/-- The keys of the variables have texts. -/
def NamesWritable (bindings : Bindings) : Prop :=
  ∀ entry ∈ (globalsIn bindings).entries, entry.1.isWritable = true

/-! ## Checks -/

/-- What comes of checks by a rule, where texts may be missing to tell of what is found. -/
structure Checked {α : Type} (rule writable : Prop) (result : Except SettingsFault α) : Prop where
  accepted : rule → writable → ∃ a, result = .ok a
  unwritten : rule → ¬ writable → result = .error .notWritable
  refused : ¬ rule → ∃ fault, result = .error fault ∧
    (fault.isRefusal = true ∨ fault = .notWritable ∧ ¬ writable)

/-- Where no text is missing none is missed. -/
theorem Checked.written {α : Type} {rule writable : Prop} {result : Except SettingsFault α}
    (h : Checked rule writable result) (hwritable : writable) : result ≠ .error .notWritable := by
  intro hunwritten
  by_cases hrule : rule
  · obtain ⟨a, ha⟩ := h.accepted hrule hwritable
    rw [ha] at hunwritten
    cases hunwritten
  · obtain ⟨fault, hfault, htold | ⟨_, hmissing⟩⟩ := h.refused hrule
    · rw [hfault] at hunwritten
      obtain rfl := Except.error.inj hunwritten
      cases htold
    · exact hmissing hwritable

/-- What is accepted keeps to the rule, and all of its texts are there. -/
theorem Checked.ok_iff {α : Type} {rule writable : Prop} {result : Except SettingsFault α}
    (h : Checked rule writable result) : (∃ a, result = .ok a) ↔ rule ∧ writable := by
  constructor
  · rintro ⟨a, ha⟩
    have hrule : rule := by
      by_contra hbroken
      obtain ⟨fault, hfault, _⟩ := h.refused hbroken
      rw [hfault] at ha
      cases ha
    refine ⟨hrule, ?_⟩
    by_contra hunwritable
    rw [h.unwritten hrule hunwritable] at ha
    cases ha
  · rintro ⟨hrule, hwritable⟩
    exact h.accepted hrule hwritable

/-- One check after the other: both rules have to hold, and the texts of both may be missing. -/
theorem Checked.bind {α β : Type} {rule next writable further : Prop} {x : Except SettingsFault α}
    {f : α → Except SettingsFault β} (hx : Checked rule writable x)
    (hf : ∀ a, Checked next further (f a)) :
    Checked (rule ∧ next) (writable ∧ further) (x >>= f) where
  accepted := by
    intro ⟨hrule, hnext⟩ ⟨hwritable, hfurther⟩
    obtain ⟨a, ha⟩ := hx.accepted hrule hwritable
    obtain ⟨b, hb⟩ := (hf a).accepted hnext hfurther
    exact ⟨b, bind_eq_ok_iff.2 ⟨a, ha, hb⟩⟩
  unwritten := by
    intro ⟨hrule, hnext⟩ hunwritable
    by_cases hwritable : writable
    · obtain ⟨a, ha⟩ := hx.accepted hrule hwritable
      have hlast := (hf a).unwritten hnext fun hfurther => hunwritable ⟨hwritable, hfurther⟩
      exact bind_eq_error_iff.2 (.inr ⟨a, ha, hlast⟩)
    · exact bind_eq_error_iff.2 (.inl (hx.unwritten hrule hwritable))
  refused := by
    intro hbroken
    by_cases hrule : rule
    · by_cases hwritable : writable
      · obtain ⟨a, ha⟩ := hx.accepted hrule hwritable
        obtain ⟨fault, hfault, htold⟩ := (hf a).refused fun hnext => hbroken ⟨hrule, hnext⟩
        refine ⟨fault, bind_eq_error_iff.2 (.inr ⟨a, ha, hfault⟩), htold.imp_right ?_⟩
        exact And.imp_right fun hunwritable hboth => hunwritable hboth.2
      · -- the second check is not made
        have hfirst := hx.unwritten hrule hwritable
        exact ⟨_, bind_eq_error_iff.2 (.inl hfirst), .inr ⟨rfl, fun hboth => hwritable hboth.1⟩⟩
    · obtain ⟨fault, hfault, htold⟩ := hx.refused hrule
      refine ⟨fault, bind_eq_error_iff.2 (.inl hfault), htold.imp_right ?_⟩
      exact And.imp_right fun hunwritable hboth => hunwritable hboth.1

/-- What is made of an accepted value does not matter to the check. -/
theorem Checked.map {α β : Type} {rule writable : Prop} {x : Except SettingsFault α} (f : α → β)
    (hx : Checked rule writable x) : Checked rule writable (x.map f) where
  accepted := by
    intro hrule hwritable
    obtain ⟨a, ha⟩ := hx.accepted hrule hwritable
    exact ⟨f a, map_eq_ok_iff.2 ⟨a, ha, rfl⟩⟩
  unwritten := fun hrule hwritable => map_eq_error_iff.2 (hx.unwritten hrule hwritable)
  refused := by
    intro hbroken
    obtain ⟨fault, hfault, htold⟩ := hx.refused hbroken
    exact ⟨fault, map_eq_error_iff.2 hfault, htold⟩

/-- A check that refuses with a fault of its own. -/
theorem checked_of_refused {α : Type} {rule writable : Prop} {fault : SettingsFault}
    (hrule : ¬ rule) (hfault : fault.isRefusal = true) :
    Checked rule writable (.error fault : Except SettingsFault α) where
  accepted := fun h => absurd h hrule
  unwritten := fun h => absurd h hrule
  refused := fun _ => ⟨fault, rfl, .inl hfault⟩

theorem checked_of_accepted {α : Type} {rule writable : Prop} (hrule : rule) (hwritable : writable)
    (a : α) : Checked rule writable (.ok a) where
  accepted := fun _ _ => ⟨a, rfl⟩
  unwritten := fun _ h => absurd hwritable h
  refused := fun h => absurd hrule h

/-- A folder is checked to be a text that is not empty. -/
theorem checked_folderOf (bindings : Bindings) (name default : Text) :
    Checked (TypedFolder bindings name) True (folderOf bindings name default) := by
  unfold folderOf
  split
  next hnone =>
    refine checked_of_accepted (fun value hvalue => ?_) trivial default
    rw [hnone] at hvalue
    cases hvalue
  next c rest hfolder =>
    refine checked_of_accepted (fun value hvalue => ?_) trivial (c :: rest)
    rw [hfolder] at hvalue
    exact ⟨c :: rest, List.cons_ne_nil c rest, (Option.some.inj hvalue).symm⟩
  next value hvalue hother =>
    refine checked_of_refused (fun hrule => ?_) rfl
    obtain ⟨folder, hne, rfl⟩ := hrule value hother
    obtain ⟨c, rest, rfl⟩ := List.exists_cons_of_ne_nil hne
    exact hvalue c rest rfl

/-- A variable is checked to be neither a list nor a mapping, once its name has a text. -/
theorem checked_entryOf (key : Key) (value : Value) :
    Checked (¬ value.IsCompound) (key.isWritable = true) (Variables.entryOf key value) := by
  by_cases hkey : key.isWritable = true
  · cases hvalue : value.simple? with
    | none =>
      have hentry : Variables.entryOf key value = .error (.compound key.toText) := by
        rw [Variables.entryOf, hkey, hvalue]
        rfl
      rw [hentry]
      exact checked_of_refused (fun hrule => hrule (Value.simple?_eq_none_iff.1 hvalue)) rfl
    | some simple =>
      have hentry : Variables.entryOf key value = .ok (key.toText, simple) := by
        rw [Variables.entryOf, hkey, hvalue]
        rfl
      rw [hentry]
      refine checked_of_accepted (fun hcompound => ?_) hkey _
      rw [Value.simple?_eq_none_iff.2 hcompound] at hvalue
      cases hvalue
  · have hentry : Variables.entryOf key value = .error .notWritable := by
      rw [Variables.entryOf, Bool.eq_false_iff.2 hkey]
      rfl
    rw [hentry]
    exact ⟨fun _ h => absurd h hkey, fun _ _ => rfl, fun _ => ⟨_, rfl, .inr ⟨rfl, hkey⟩⟩⟩

/-- All variables are checked, and the first one that fails decides. -/
theorem checked_mapM (entries : List (Key × Value)) :
    Checked (∀ entry ∈ entries, ¬ entry.2.IsCompound) (∀ entry ∈ entries, entry.1.isWritable = true)
      (entries.mapM fun (key, value) => Variables.entryOf key value) := by
  induction entries with
  | nil => exact checked_of_accepted (by simp) (by simp) []
  | cons entry rest ih =>
    have hboth := (checked_entryOf entry.1 entry.2).bind fun first =>
      ih.bind fun others => checked_of_accepted trivial trivial (first :: others)
    rw [List.mapM_cons, List.forall_mem_cons, List.forall_mem_cons]
    rw [and_true, and_true] at hboth
    exact hboth

/-- **What comes of variables.** -/
theorem checked_variables (bindings : Bindings) :
    Checked (∀ entry ∈ bindings.entries, ¬ entry.2.IsCompound)
      (∀ entry ∈ bindings.entries, entry.1.isWritable = true) (Variables.ofBindings bindings) :=
  (checked_mapM bindings.entries).map Mapping.ofList

theorem entries_globalsIn {bindings : Bindings} {entries : List (Key × Value)}
    (h : bindings.find? (.scalar (.text globalsName)) = some (.mapping entries)) :
    (globalsIn bindings).entries = entries := by
  unfold globalsIn Batch.keyOf
  rw [h]

theorem globalsIn_of_no_mapping {bindings : Bindings}
    (h : ∀ entries, bindings.find? (.scalar (.text globalsName)) ≠ some (.mapping entries)) :
    (globalsIn bindings).entries = [] := by
  unfold globalsIn Batch.keyOf
  split
  next entries hmapping => exact absurd hmapping (h entries)
  next => rfl

/-- Without a mapping there are no names. -/
theorem namesWritable_of_no_mapping {bindings : Bindings}
    (h : ∀ entries, bindings.find? (.scalar (.text globalsName)) ≠ some (.mapping entries)) :
    NamesWritable bindings := by
  rw [NamesWritable, globalsIn_of_no_mapping h]
  exact fun entry hentry => absurd hentry List.not_mem_nil

/-- What is set for the variables is typed if the one value is. -/
theorem typedGlobals_iff {absent : Value → Prop} {bindings : Bindings} {value : Value}
    (h : bindings.find? (.scalar (.text globalsName)) = some value) :
    TypedGlobals absent bindings ↔ absent value ∨
      ∃ entries, value = .mapping entries ∧ ∀ entry ∈ entries, ¬ entry.2.IsCompound := by
  constructor
  · intro htyped
    exact htyped value h
  · intro hvalue other hother
    rw [h] at hother
    exact Option.some.inj hother ▸ hvalue

/-- A mapping that counts as nothing is empty. -/
theorem typedGlobals_mapping_iff {bindings : Bindings} {entries : List (Key × Value)}
    (h : bindings.find? (.scalar (.text globalsName)) = some (.mapping entries)) :
    TypedGlobals (·.isBlank = true) bindings ↔ ∀ entry ∈ entries, ¬ entry.2.IsCompound := by
  rw [typedGlobals_iff h]
  constructor
  · rintro (hblank | ⟨_, hsame, hsimple⟩)
    · obtain rfl := List.isEmpty_iff.1 hblank
      exact fun entry hentry => absurd hentry List.not_mem_nil
    · obtain rfl := Value.mapping.inj hsame
      exact hsimple
  · exact fun hsimple => .inr ⟨entries, rfl, hsimple⟩

/-- The variables are checked to count as nothing or to be a mapping, and then one by one. -/
theorem checked_globalsOf (bindings : Bindings) :
    Checked (TypedGlobals (·.isBlank = true) bindings) (NamesWritable bindings)
      (globalsOf bindings) := by
  unfold globalsOf
  split
  next hnone =>
    refine checked_of_accepted (fun value hvalue => ?_) (namesWritable_of_no_mapping ?_) _
    · rw [hnone] at hvalue
      cases hvalue
    · simp [hnone]
  next entries hmapping =>
    rw [typedGlobals_mapping_iff hmapping, NamesWritable, entries_globalsIn hmapping]
    exact checked_variables ⟨entries⟩
  next value hother hvalue =>
    have hwritable : NamesWritable bindings := namesWritable_of_no_mapping (by simpa [hvalue] using hother)
    by_cases hblank : value.isBlank = true
    · rw [if_pos hblank]
      exact checked_of_accepted ((typedGlobals_iff hvalue).2 (.inl hblank)) hwritable _
    · rw [if_neg hblank]
      refine checked_of_refused (fun htyped => ?_) rfl
      rcases (typedGlobals_iff hvalue).1 htyped with h | ⟨entries, hmapping, _⟩
      · exact hblank h
      · exact hother entries hmapping

/-- Keys are names unless one of them is none. -/
theorem mapM_nameOf?_eq_none_iff {keys : List Key} :
    keys.mapM nameOf? = none ↔ ∃ key ∈ keys, nameOf? key = none := by
  induction keys with
  | nil => simp
  | cons key rest ih =>
    rw [List.mapM_cons]
    cases hkey : nameOf? key with
    | none => simp [hkey]
    | some name => cases hrest : rest.mapM nameOf? <;> simp_all

/-- Unknown keys are a fault. -/
theorem faultOfKeys?_eq_none_iff {keys : List Key} : faultOfKeys? keys = none ↔ keys = [] := by
  cases keys with
  | nil => simp [faultOfKeys?]
  | cons key rest =>
    rw [faultOfKeys?]
    split <;> simp

/-- Keys that are no names of settings are looked for. -/
theorem unknownKeys_eq_nil_iff {bindings : Bindings} :
    unknownKeys bindings = [] ↔ ∀ key ∈ bindings.keys,
      ∃ name ∈ [rootName, templatesName, globalsName], key = .scalar (.text name) := by
  rw [unknownKeys, List.filter_eq_nil_iff]
  refine forall₂_congr fun key _ => ?_
  rw [Bool.not_eq_true', Bool.not_eq_false, List.any_eq_true]
  simp only [(sharp_text _).left]

/-- Unknown keys that are all texts are told. -/
theorem refused_of_unknown {bindings : Bindings}
    (hkeys : ∀ key ∈ bindings.keys, ∃ name, key = .scalar (.text name)) {fault : SettingsFault}
    (h : faultOfKeys? (unknownKeys bindings) = some fault) : fault.isRefusal = true := by
  have hnames : (unknownKeys bindings).mapM nameOf? ≠ none := by
    intro hnone
    obtain ⟨key, hkey, hnameless⟩ := mapM_nameOf?_eq_none_iff.1 hnone
    obtain ⟨name, rfl⟩ := hkeys key (List.mem_filter.1 hkey).1
    cases hnameless
  obtain ⟨names, hsome⟩ := Option.ne_none_iff_exists'.1 hnames
  cases hunknown : unknownKeys bindings with
  | nil =>
    rw [hunknown] at h
    cases h
  | cons key rest =>
    rw [hunknown] at h hsome
    rw [faultOfKeys?, hsome] at h
    obtain rfl := Option.some.inj h
    rfl

/-- **What comes of settings with texts for keys.** -/
theorem checked_ofBindings {bindings : Bindings}
    (hkeys : ∀ key ∈ bindings.keys, ∃ name, key = .scalar (.text name)) :
    Checked (Typed (·.isBlank = true) bindings) (NamesWritable bindings) (ofBindings bindings) := by
  cases hfault : faultOfKeys? (unknownKeys bindings) with
  | some fault =>
    have hresult : ofBindings bindings = .error fault := by
      rw [ofBindings, hfault]
      rfl
    rw [hresult]
    refine checked_of_refused (fun htyped => ?_) (refused_of_unknown hkeys hfault)
    rw [unknownKeys_eq_nil_iff.2 htyped.known] at hfault
    cases hfault
  | none =>
    have hknown := unknownKeys_eq_nil_iff.1 (faultOfKeys?_eq_none_iff.1 hfault)
    have hresult : ofBindings bindings =
        folderOf bindings rootName defaultRoot >>= fun root =>
          folderOf bindings templatesName defaultTemplates >>= fun templates =>
            globalsOf bindings >>= fun globals => .ok ⟨root, templates, globals⟩ := by
      rw [ofBindings, hfault]
      rfl
    have hchecked := (checked_folderOf bindings rootName defaultRoot).bind fun root =>
      (checked_folderOf bindings templatesName defaultTemplates).bind fun templates =>
        (checked_globalsOf bindings).bind fun globals =>
          checked_of_accepted trivial trivial (⟨root, templates, globals⟩ : Settings)
    have hrule : Typed (·.isBlank = true) bindings ↔
        TypedFolder bindings rootName ∧ TypedFolder bindings templatesName ∧
          TypedGlobals (·.isBlank = true) bindings := by
      constructor
      · intro h
        exact ⟨h.rootFolder, h.templatesFolder, h.globals⟩
      · rintro ⟨hroot, htemplates, hglobals⟩
        exact ⟨hknown, hroot, htemplates, hglobals⟩
    rw [true_and, true_and, and_true, and_true, ← hrule, ← hresult] at hchecked
    exact hchecked

/-- Settings are accepted exactly if they are typed, where whatever counts as nothing stands for no variables,
and all names have a text. -/
theorem exists_ofBindings_iff {bindings : Bindings} :
    (∃ settings, ofBindings bindings = .ok settings) ↔
      Typed (·.isBlank = true) bindings ∧ NamesWritable bindings := by
  by_cases hkeys : ∀ key ∈ bindings.keys, ∃ name, key = .scalar (.text name)
  · exact (checked_ofBindings hkeys).ok_iff
  · -- a key that is no text is unknown
    have huntyped : ¬ Typed (·.isBlank = true) bindings := by
      intro htyped
      refine hkeys fun key hkey => ?_
      obtain ⟨name, _, hname⟩ := htyped.known key hkey
      exact ⟨name, hname⟩
    refine iff_of_false ?_ fun h => huntyped h.1
    rintro ⟨settings, h⟩
    cases hfault : faultOfKeys? (unknownKeys bindings) with
    | some fault =>
      rw [ofBindings, hfault] at h
      cases h
    | none =>
      have hknown := unknownKeys_eq_nil_iff.1 (faultOfKeys?_eq_none_iff.1 hfault)
      refine hkeys fun key hkey => ?_
      obtain ⟨name, _, hname⟩ := hknown key hkey
      exact ⟨name, hname⟩

/-- The names of variables are the texts of their keys, each where it is first. -/
theorem keys_ofBindings {bindings : Bindings} {given : Variables}
    (h : Variables.ofBindings bindings = .ok given) :
    given.keys = (bindings.entries.map fun entry => entry.1.toText).eraseDups := by
  obtain ⟨named, hnamed, rfl⟩ := map_eq_ok_iff.1 h
  have hnames : bindings.entries.map (fun entry => entry.1.toText) = named.map Prod.fst := by
    have hmap := mapM_eq_ok_iff.1 hnamed
    rw [← List.forall₂_eq_eq_eq, List.forall₂_map_left_iff, List.forall₂_map_right_iff] at hmap ⊢
    exact hmap.imp fun entry _ hentry => congrArg Prod.fst (eq_of_entryOf hentry)
  rw [Mapping.keys_ofList, hnames]

theorem keys_globalsOf {bindings : Bindings} {given : Variables} (h : globalsOf bindings = .ok given) :
    given.keys = ((globalsIn bindings).entries.map fun entry => entry.1.toText).eraseDups := by
  unfold globalsOf at h
  split at h
  next hnone =>
    obtain rfl := Except.ok.inj h
    rw [globalsIn_of_no_mapping (by simp [hnone])]
    rfl
  next entries hmapping =>
    rw [entries_globalsIn hmapping]
    exact keys_ofBindings h
  next value hother hvalue =>
    split at h
    next =>
      obtain rfl := Except.ok.inj h
      rw [globalsIn_of_no_mapping (by simpa [hvalue] using hother)]
      rfl
    next => cases h

/-- Settings that are accepted are given as they stand. -/
theorem gives_of_ok {bindings : Bindings} {settings : Settings}
    (h : ofBindings bindings = .ok settings) : Gives bindings settings := by
  refine ⟨says_of_ok h, ?_⟩
  rw [ofBindings] at h
  cases hfault : faultOfKeys? (unknownKeys bindings) with
  | some fault =>
    rw [hfault] at h
    cases h
  | none =>
    rw [hfault] at h
    obtain ⟨_, _, h⟩ := bind_eq_ok_iff.1 h
    obtain ⟨_, _, h⟩ := bind_eq_ok_iff.1 h
    obtain ⟨globals, hglobals, h⟩ := bind_eq_ok_iff.1 h
    obtain rfl := Except.ok.inj h
    exact keys_globalsOf hglobals

/-! ## What is accepted -/

theorem Typed.isBlank {bindings : Bindings} (h : Typed IsNull bindings) :
    Typed (·.isBlank = true) bindings where
  known := h.known
  rootFolder := h.rootFolder
  templatesFolder := h.templatesFolder
  globals := by
    intro value hvalue
    refine (h.globals value hvalue).imp_left ?_
    rintro rfl
    rfl

/-- What is typed only by what counts as nothing has such a value for its variables. -/
theorem Typed.mistaken {bindings : Bindings} (h : Typed (·.isBlank = true) bindings)
    (hnot : ¬ Typed IsNull bindings) : MistakenForNothing bindings := by
  have hglobals : ¬ TypedGlobals IsNull bindings := fun hglobals =>
    hnot ⟨h.known, h.rootFolder, h.templatesFolder, hglobals⟩
  unfold TypedGlobals at hglobals
  push Not at hglobals
  obtain ⟨value, hvalue, hnull, hentries⟩ := hglobals
  rcases h.globals value hvalue with hblank | ⟨entries, hmapping, hsimple⟩
  · refine ⟨value, hvalue, hblank, hnull, ?_⟩
    rintro entries rfl
    obtain ⟨entry, hentry, _⟩ := hentries entries rfl
    obtain rfl := List.isEmpty_iff.1 hblank
    cases hentry
  · obtain ⟨entry, hentry, hcompound⟩ := hentries entries hmapping
    exact absurd hcompound (hsimple entry hentry)

/-- A value that is mistaken for nothing is not typed, and there are no names beside it. -/
theorem MistakenForNothing.not_typed {bindings : Bindings} (h : MistakenForNothing bindings) :
    ¬ Typed IsNull bindings ∧ NamesWritable bindings := by
  obtain ⟨value, hvalue, _, hnull, hmapping⟩ := h
  constructor
  · intro htyped
    rcases htyped.globals value hvalue with h | ⟨entries, hentries, _⟩
    · exact hnull h
    · exact hmapping entries hentries
  · refine namesWritable_of_no_mapping fun entries hentries => ?_
    rw [hvalue] at hentries
    exact hmapping entries (Option.some.inj hentries)

/-- **Which settings are accepted.**  Of settings with texts for keys those are accepted that are typed, where
whatever counts as nothing stands for no variables, and all of whose names have a text; they are given
as they stand.  Others are refused with a fault that is told of them, unless a name has no text.  So
settings are accepted exactly if they are typed by the missing value alone, but for two cases: the
variables are mistaken for nothing, or it is a name without a text that ends the checks. -/
theorem ofBindings_typed (bindings : Bindings)
    (hkeys : ∀ key ∈ bindings.keys, ∃ name, key = .scalar (.text name)) :
    Checked (Typed (·.isBlank = true) bindings) (NamesWritable bindings) (ofBindings bindings) ∧
    (∀ settings, ofBindings bindings = .ok settings → Gives bindings settings) ∧
    (AcceptsTyped bindings ↔
      ¬ (Typed (·.isBlank = true) bindings ∧ MistakenForNothing bindings) ∧
        ofBindings bindings ≠ .error .notWritable) ∧
    (NamesWritable bindings → ofBindings bindings ≠ .error .notWritable) := by
  have hchecked := checked_ofBindings hkeys
  refine ⟨hchecked, fun settings h => gives_of_ok h, ⟨?_, ?_⟩, hchecked.written⟩
  · rintro ⟨hrefused, haccepted⟩
    refine ⟨fun ⟨htyped, hmistaken⟩ => ?_, fun hunwritten => ?_⟩
    · obtain ⟨hnot, hwritable⟩ := hmistaken.not_typed
      obtain ⟨settings, hok⟩ := hchecked.accepted htyped hwritable
      obtain ⟨fault, herror, _⟩ := hrefused hnot
      rw [hok] at herror
      cases herror
    · by_cases htyped : Typed IsNull bindings
      · obtain ⟨settings, hok, _⟩ := haccepted htyped
        rw [hok] at hunwritten
        cases hunwritten
      · obtain ⟨fault, herror, htold⟩ := hrefused htyped
        rw [herror] at hunwritten
        obtain rfl := Except.error.inj hunwritten
        cases htold
  · rintro ⟨hmistaken, hunwritten⟩
    refine ⟨fun hnot => ?_, fun htyped => ?_⟩
    · have hbroken : ¬ Typed (·.isBlank = true) bindings := fun htyped =>
        hmistaken ⟨htyped, htyped.mistaken hnot⟩
      obtain ⟨fault, herror, htold | ⟨rfl, _⟩⟩ := hchecked.refused hbroken
      · exact ⟨fault, herror, htold⟩
      · exact absurd herror hunwritten
    · by_cases hwritable : NamesWritable bindings
      · obtain ⟨settings, hok⟩ := hchecked.accepted htyped.isBlank hwritable
        exact ⟨settings, hok, gives_of_ok hok⟩
      · exact absurd (hchecked.unwritten htyped.isBlank hwritable) hunwritten

/-- A root folder, and variables two of whose keys have the same text. -/
def collidingNames : Bindings :=
  ⟨[(.scalar (.text rootName), .scalar (.text ['r'])),
    (.scalar (.text globalsName), .mapping
      [(.scalar (.bool true), .scalar (.text ['a'])), (.scalar (.text ['x']), .scalar .null),
        (.scalar (.text (Text.of "True")), .scalar (.text ['b']))])]⟩

/-- The variable of the two keys is where the first of them is, with the value of the last. -/
theorem ofBindings_typed_colliding :
    AcceptsTyped collidingNames ∧
      ∃ settings, ofBindings collidingNames = .ok settings ∧ Gives collidingNames settings ∧
        settings.rootFolder = ['r'] ∧ settings.templatesFolder = Text.of "templates" ∧
        settings.globals.keys = [Text.of "True", ['x']] := by
  have hkeys : ∀ key ∈ collidingNames.keys, ∃ name, key = .scalar (.text name) := by
    intro key hkey
    rcases List.mem_cons.1 hkey with rfl | hkey
    · exact ⟨rootName, rfl⟩
    · exact ⟨globalsName, List.mem_singleton.1 hkey⟩
  obtain ⟨-, hgives, haccepts, hwritten⟩ := ofBindings_typed collidingNames hkeys
  have hmistaken : ¬ MistakenForNothing collidingNames := by
    rintro ⟨value, hvalue, _, _, hmapping⟩
    exact hmapping _ (Option.some.inj hvalue).symm
  have hwritable : NamesWritable collidingNames := by
    unfold NamesWritable
    decide
  refine ⟨haccepts.2 ⟨fun h => hmistaken h.2, hwritten hwritable⟩, _, rfl, hgives _ rfl, rfl, rfl, ?_⟩
  decide

/-- Settings with an empty list for the variables. -/
def variablesOfEmptyList : Bindings :=
  ⟨[(.scalar (.text globalsName), .list [])]⟩

/-- An empty list is no mapping, and yet it is accepted for the variables: it counts as nothing. -/
theorem not_acceptsTyped_empty_list : ¬ AcceptsTyped variablesOfEmptyList := by
  intro h
  have hnot : ¬ Typed IsNull variablesOfEmptyList := by
    intro htyped
    rcases htyped.globals (.list []) rfl with hnull | ⟨entries, hmapping, _⟩
    · cases hnull
    · cases hmapping
  obtain ⟨fault, herror, _⟩ := h.1 hnot
  have hok : ofBindings variablesOfEmptyList = .ok default := rfl
  rw [hok] at herror
  cases herror

end Settings

end Stencil
