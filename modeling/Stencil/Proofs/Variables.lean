import Stencil.Proofs.Environment
import Stencil.Settings.Basic

/-!
# `Stencil.Proofs.Variables` — what a template sees of variables

Variables are named by texts, so that no two of their names are the same key by accident.  They can be
put over each other before or after they are made bindings; it comes to the same (`toBindings_update`).
What is found in the end is the last value that was put in under a name (`find?_insertAll_eq`), the
global variables coming after the local ones (`Environment.find?_names_merge`).

## Contents
- **The last value.** `Mapping.lastOf?`, and `Mapping.find?_insertAll_eq`.
- **Variables as bindings.** `Variables.toBindings_insert` and `Variables.toBindings_update`.
- **Variables in an environment.** **`Environment.find?_names_merge`**.
-/

namespace Stencil

/-! ## The last value -/

namespace Mapping

variable {κ ν μ : Type} [BEq κ] {key : κ}

/-- The value of the last entry with a key. -/
def lastOf? (entries : List (κ × ν)) (key : κ) : Option ν :=
  (entries.reverse.find? fun entry => entry.1 == key).map Prod.snd

/-- An entry counts only if no later one has the key. -/
theorem lastOf?_cons (entry : κ × ν) (rest : List (κ × ν)) (key : κ) :
    lastOf? (entry :: rest) key =
      (lastOf? rest key).or (if entry.1 == key then some entry.2 else none) := by
  unfold lastOf?
  rw [List.reverse_cons, List.find?_append, Option.map_or]
  congr 1
  cases h : entry.1 == key <;> simp [h]

/-- Changing the values changes the last one. -/
theorem lastOf?_map (f : ν → μ) (entries : List (κ × ν)) (key : κ) :
    lastOf? (entries.map fun entry => (entry.1, f entry.2)) key = (lastOf? entries key).map f := by
  induction entries with
  | nil => rfl
  | cons entry rest ih =>
    rw [List.map_cons, lastOf?_cons, lastOf?_cons, ih, Option.map_or]
    congr 1
    split <;> rfl

theorem find?_insert_eq (hkey : Sharp key) (m : Mapping κ ν) (other : κ) (value : ν) :
    (m.insert other value).find? key = if other == key then some value else m.find? key := by
  by_cases hother : other = key
  · rw [hother, find?_insert_sharp hkey, hkey.beq_self, if_pos rfl]
  · rw [find?_insert_other hkey m value hother, hkey.beq_of_ne hother]
    rfl

/-- **What is found after some entries are put in** is the last of them with the key, or what was there
before. -/
theorem find?_insertAll_eq (hkey : Sharp key) (m : Mapping κ ν) (entries : List (κ × ν)) :
    (m.insertAll entries).find? key = (lastOf? entries key).or (m.find? key) := by
  induction entries generalizing m with
  | nil => rfl
  | cons entry rest ih =>
    have hrest := ih (m.insert entry.1 entry.2)
    rw [find?_insert_eq hkey] at hrest
    rw [lastOf?_cons, Option.or_assoc]
    refine hrest.trans (congrArg _ ?_)
    split <;> rfl

theorem exists_of_mem_insertEntry {other : κ} {value : ν} {entries : List (κ × ν)} {entry : κ × ν}
    (h : entry ∈ insertEntry other value entries) :
    entry.2 = value ∨ ∃ old ∈ entries, old.2 = entry.2 := by
  induction entries with
  | nil =>
    rw [insertEntry, List.mem_singleton] at h
    exact .inl (congrArg Prod.snd h)
  | cons old rest ih =>
    obtain ⟨k, v⟩ := old
    rw [insertEntry] at h
    split at h
    · rcases List.mem_cons.1 h with rfl | hrest
      · exact .inl rfl
      · exact .inr ⟨entry, List.mem_cons_of_mem _ hrest, rfl⟩
    · rcases List.mem_cons.1 h with rfl | hrest
      · exact .inr ⟨_, List.mem_cons_self, rfl⟩
      · refine (ih hrest).imp_right ?_
        rintro ⟨old, hold, hvalue⟩
        exact ⟨old, List.mem_cons_of_mem _ hold, hvalue⟩

/-- A value that is there after some entries are put in was put in, or was there before. -/
theorem exists_of_mem_insertAll {m : Mapping κ ν} {entries : List (κ × ν)} {entry : κ × ν}
    (h : entry ∈ (m.insertAll entries).entries) :
    (∃ given ∈ entries, given.2 = entry.2) ∨ ∃ old ∈ m.entries, old.2 = entry.2 := by
  induction entries generalizing m with
  | nil => exact .inr ⟨entry, h, rfl⟩
  | cons given rest ih =>
    rcases @ih (m.insert given.1 given.2) h with ⟨later, hlater, hvalue⟩ | ⟨old, hold, hvalue⟩
    · exact .inl ⟨later, List.mem_cons_of_mem _ hlater, hvalue⟩
    · rcases exists_of_mem_insertEntry hold with hgiven | ⟨older, holder, hsame⟩
      · exact .inl ⟨given, List.mem_cons_self, hgiven.symm.trans hvalue⟩
      · exact .inr ⟨older, holder, hsame.trans hvalue⟩

theorem find?_ofList (hkey : Sharp key) (entries : List (κ × ν)) :
    (ofList entries).find? key = lastOf? entries key := by
  have hempty : (empty : Mapping κ ν).find? key = none := rfl
  rw [ofList, find?_insertAll_eq hkey, hempty, Option.or_none]

/-- Of distinct keys the last one is the only one. -/
theorem Distinct.lastOf?_entries {m : Mapping κ ν} (hm : m.Distinct) (hkey : Sharp key) :
    lastOf? m.entries key = m.find? key := by
  obtain ⟨entries⟩ := m
  induction entries with
  | nil => rfl
  | cons entry rest ih =>
    have hm : (∀ k ∈ rest.map Prod.fst, (entry.1 == k) = false) ∧ Distinct ⟨rest⟩ :=
      List.pairwise_cons.1 hm
    have hrest : lastOf? rest key = find? ⟨rest⟩ key := ih hm.2
    rw [lastOf?_cons, hrest]
    cases hentry : entry.1 == key with
    | false => simp [find?, hentry]
    | true =>
      -- the key is not there a second time
      have habsent : find? ⟨rest⟩ key = none := by
        unfold find?
        rw [Option.map_eq_none_iff, List.find?_eq_none]
        intro other hother hsame
        have hapart := hm.1 other.1 (List.mem_map_of_mem hother)
        rw [(hkey.left _).1 hentry, (hkey.left _).1 hsame, hkey.beq_self] at hapart
        cases hapart
      rw [habsent]
      simp [find?, hentry]

/-- An update by distinct keys finds what the second mapping finds, or else the first. -/
theorem Distinct.find?_update {other : Mapping κ ν} (hother : other.Distinct) (hkey : Sharp key)
    (m : Mapping κ ν) : (m.update other).find? key = (other.find? key).or (m.find? key) := by
  rw [update, find?_insertAll_eq hkey, hother.lastOf?_entries hkey]

end Mapping

/-! ## Variables as bindings -/

namespace Variables

/-- The names of variables are the same key if they are the same text. -/
theorem same_text_key (name other : Text) :
    (Key.scalar (.text name) == Key.scalar (.text other)) = (name == other) := by
  show (Key.scalar (.text name)).same (.scalar (.text other)) = _
  unfold Key.same Scalar.same
  rfl

/-- A variable put in before is one put in after. -/
theorem toBindings_insert (given : Variables) (name : Text) (value : Simple) :
    toBindings (given.insert name value) =
      (toBindings given).insert (.scalar (.text name)) value.toValue := by
  obtain ⟨entries⟩ := given
  unfold toBindings Mapping.insert
  congr 1
  induction entries with
  | nil => rfl
  | cons entry rest ih =>
    obtain ⟨other, old⟩ := entry
    simp only [Mapping.insertEntry, List.map_cons, same_text_key]
    split
    · rfl
    · rw [List.map_cons, ih]

theorem toBindings_insertAll (given : Variables) (entries : List (Text × Simple)) :
    toBindings (given.insertAll entries) =
      (toBindings given).insertAll (toBindings ⟨entries⟩).entries := by
  induction entries generalizing given with
  | nil => rfl
  | cons entry rest ih =>
    have hrest := ih (given.insert entry.1 entry.2)
    rw [toBindings_insert] at hrest
    exact hrest

/-- **Variables put over others** are the bindings put over the others. -/
theorem toBindings_update (given other : Variables) :
    toBindings (given.update other) = (toBindings given).update (toBindings other) :=
  toBindings_insertAll given other.entries

end Variables

/-! ## Variables in an environment -/

namespace Environment

/-- Variables by themselves are seen with their texts. -/
theorem find?_names_ofBindings {given : Variables} (hgiven : given.Distinct) (name : Text) :
    (ofBindings (Variables.toBindings given)).names.find? name =
      (given.find? name).map fun value => textOf value.toValue := by
  have hsharp : Sharp name := sharp_of_lawful name
  have hentries : (Variables.toBindings given).entries.map
      (fun entry : Key × Value => (entry.1.toText, textOf entry.2)) =
        given.entries.map fun entry => (entry.1, textOf entry.2.toValue) := by
    unfold Variables.toBindings
    rw [List.map_map]
    rfl
  have hlast := Mapping.lastOf?_map (fun value => textOf value.toValue) given.entries name
  show (Mapping.ofList ((Variables.toBindings given).entries.map _)).find? name = _
  rw [Mapping.find?_ofList hsharp, hentries, hlast, hgiven.lastOf?_entries hsharp]

/-- Local and global variables, the global ones put over the local ones. -/
def mergedVariables (locals globals : Variables) : Variables :=
  (Mapping.empty.update locals).update globals

theorem distinct_mergedVariables (locals globals : Variables) :
    (mergedVariables locals globals).Distinct :=
  (Mapping.distinct_empty.insertAll locals.entries).insertAll globals.entries

theorem mergedBindings_toBindings (locals globals : Variables) :
    mergedBindings (Variables.toBindings locals) (Variables.toBindings globals) =
      Variables.toBindings (mergedVariables locals globals) := by
  unfold mergedBindings mergedVariables
  rw [Variables.toBindings_update, Variables.toBindings_update]
  rfl

/-- **Global variables are seen before local ones.** -/
theorem find?_names_merge {locals globals : Variables} (hlocals : locals.Distinct)
    (hglobals : globals.Distinct) (name : Text) :
    (merge (Variables.toBindings locals) (Variables.toBindings globals)).names.find? name =
      ((globals.find? name).or (locals.find? name)).map fun value => textOf value.toValue := by
  have hsharp : Sharp name := sharp_of_lawful name
  have hfind : (mergedVariables locals globals).find? name =
      (globals.find? name).or (locals.find? name) := by
    unfold mergedVariables
    rw [hglobals.find?_update hsharp, hlocals.find?_update hsharp]
    simp
  rw [merge, mergedBindings_toBindings,
    find?_names_ofBindings (distinct_mergedVariables locals globals), hfind]

/-- The environment of some variables can be made if their values have a text. -/
theorem canMerge_of_writable {locals globals : Variables}
    (hlocals : ∀ entry ∈ locals.entries, entry.2.toValue.isWritable = true)
    (hglobals : ∀ entry ∈ globals.entries, entry.2.toValue.isWritable = true) :
    canMerge (Variables.toBindings locals) (Variables.toBindings globals) = true := by
  unfold canMerge
  rw [mergedBindings_toBindings, List.all_eq_true]
  intro binding hbinding
  obtain ⟨entry, hentry, rfl⟩ := List.mem_map.1 hbinding
  have hvalue : entry.2.toValue.isWritable = true := by
    rcases Mapping.exists_of_mem_insertAll hentry with ⟨given, hgiven, heq⟩ | ⟨old, hold, heq⟩
    · exact heq ▸ hglobals given hgiven
    · rcases Mapping.exists_of_mem_insertAll hold with ⟨given, hgiven, hsame⟩ | ⟨_, hnone, _⟩
      · exact heq ▸ hsame ▸ hlocals given hgiven
      · cases hnone
  show ((Key.scalar (.text entry.1)).isWritable && entry.2.toValue.isWritable) = true
  rw [hvalue, Bool.and_true]
  rfl

theorem has_eq (env : Environment) (name : Text) : env.has name = (env.names.find? name).isSome :=
  Mapping.contains_eq_isSome_find? _ _

end Environment

end Stencil
