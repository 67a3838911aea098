import Stencil.Value

/-!
# `Stencil.Proofs.Mapping` — look-ups in mappings of any keys

Keys are compared by `==`, which need not be equality: a truth value and a number may be the same key.
What is needed to look a key up reliably is less than a lawful comparison of all keys.  It is enough that
this one key is the same as no other (`Sharp`), as every text is.

## Contents
- **Distinct keys.** `Mapping.Distinct`: no two keys are the same, however a mapping was made.
- **Sharp keys.** `Sharp`, and **`sharp_text`**.
- **Looking up.** The laws of `insert` for sharp keys, and **`find?_insertAll`**.
- **Updates, entry by entry.** Where sameness is symmetric and transitive, an update by distinct keys
  overrides what is there and puts the rest behind it: **`Distinct.entries_update`**.
-/

namespace Stencil

namespace Mapping

variable {κ ν : Type} [BEq κ]

/-! ## Distinct keys -/

/-- No two keys are the same. -/
def Distinct (m : Mapping κ ν) : Prop :=
  m.keys.Pairwise fun k l => (k == l) = false

/-- A key that is there already stays in its place; a new one comes last. -/
theorem map_fst_insertEntry (key : κ) (value : ν) (entries : List (κ × ν)) :
    (insertEntry key value entries).map Prod.fst =
      if entries.any (fun entry => entry.1 == key) then entries.map Prod.fst
      else entries.map Prod.fst ++ [key] := by
  induction entries with
  | nil => rfl
  | cons entry rest ih =>
    obtain ⟨k, v⟩ := entry
    rw [insertEntry, List.any_cons]
    by_cases hk : (k == key) = true
    · rw [if_pos hk, hk, Bool.true_or, if_pos rfl, List.map_cons, List.map_cons]
    · rw [if_neg hk, Bool.eq_false_iff.2 hk, Bool.false_or, List.map_cons, List.map_cons, ih]
      split <;> rfl

/-- The keys after a value is put in. -/
theorem keys_insert (m : Mapping κ ν) (key : κ) (value : ν) :
    (m.insert key value).keys = if m.contains key then m.keys else m.keys ++ [key] :=
  map_fst_insertEntry key value m.entries

theorem distinct_empty : (empty : Mapping κ ν).Distinct :=
  List.Pairwise.nil

/-- Putting in a value makes no two keys the same. -/
theorem Distinct.insert {m : Mapping κ ν} (h : m.Distinct) (key : κ) (value : ν) :
    (m.insert key value).Distinct := by
  rw [Distinct, keys_insert]
  split
  next => exact h
  next habsent =>
    refine List.pairwise_append.2 ⟨h, List.pairwise_singleton _ _, fun k hk l hl => ?_⟩
    rw [List.mem_singleton.1 hl]
    obtain ⟨entry, hentry, rfl⟩ := List.mem_map.1 hk
    rw [Bool.not_eq_true, contains, List.any_eq_false] at habsent
    exact Bool.eq_false_iff.2 (habsent entry hentry)

theorem Distinct.insertAll {m : Mapping κ ν} (h : m.Distinct) (entries : List (κ × ν)) :
    (m.insertAll entries).Distinct := by
  induction entries generalizing m with
  | nil => exact h
  | cons entry rest ih => exact ih (h.insert entry.1 entry.2)

/-- A mapping that is made of entries has distinct keys, whatever the entries are. -/
theorem distinct_ofList (entries : List (κ × ν)) : (ofList entries).Distinct :=
  distinct_empty.insertAll entries

end Mapping

/-! ## Sharp keys -/

/-- A key is the same as itself, and as no other key. -/
structure Sharp {κ : Type} [BEq κ] (key : κ) : Prop where
  left : ∀ k, (k == key) = true ↔ k = key
  right : ∀ k, (key == k) = true ↔ key = k

theorem Sharp.beq_self {κ : Type} [BEq κ] {key : κ} (h : Sharp key) : (key == key) = true :=
  (h.left key).2 rfl

theorem Sharp.beq_of_ne {κ : Type} [BEq κ] {key other : κ} (h : Sharp key) (hne : other ≠ key) :
    (other == key) = false :=
  Bool.eq_false_iff.2 fun hsame => hne ((h.left other).1 hsame)

theorem sharp_of_lawful {κ : Type} [BEq κ] [LawfulBEq κ] (key : κ) : Sharp key :=
  ⟨fun _ => beq_iff_eq, fun _ => beq_iff_eq⟩

/-- A text is the same key as no other. -/
theorem sharp_text (s : Text) : Sharp (Key.scalar (.text s)) := by
  constructor <;> intro k
  · show k.same (.scalar (.text s)) = true ↔ _
    rcases k with (_ | _ | _ | (_ | _ | _) | _ | _ | _ | _) | _ <;>
      simp [Key.same, Scalar.same, Scalar.ratio?]
  · show (Key.scalar (.text s)).same k = true ↔ _
    rcases k with (_ | _ | _ | (_ | _ | _) | _ | _ | _ | _) | _ <;>
      simp [Key.same, Scalar.same, Scalar.ratio?]

/-! ## Looking up -/

namespace Mapping

variable {κ ν : Type} [BEq κ] {m : Mapping κ ν} {key : κ}

theorem find?_insert_sharp (hkey : Sharp key) (m : Mapping κ ν) (value : ν) :
    (m.insert key value).find? key = some value := by
  obtain ⟨entries⟩ := m
  induction entries with
  | nil => simp [insert, insertEntry, find?, hkey.beq_self]
  | cons entry rest ih =>
    obtain ⟨k, v⟩ := entry
    cases h : k == key with
    | true => simp [insert, insertEntry, find?, h]
    | false => simpa [insert, insertEntry, find?, h] using ih

theorem find?_insert_other (hkey : Sharp key) (m : Mapping κ ν) {other : κ} (value : ν)
    (h : other ≠ key) : (m.insert other value).find? key = m.find? key := by
  obtain ⟨entries⟩ := m
  induction entries with
  | nil => simp [insert, insertEntry, find?, hkey.beq_of_ne h]
  | cons entry rest ih =>
    obtain ⟨k, v⟩ := entry
    cases hk : k == other with
    | true =>
      -- the key that stays in its place is not the one that is looked up
      have hapart : (k == key) = false := by
        refine hkey.beq_of_ne fun hsame => h ?_
        rw [hsame] at hk
        exact ((hkey.right other).1 hk).symm
      simp [insert, insertEntry, find?, hk, hapart]
    | false =>
      cases hsame : k == key with
      | true => simp [insert, insertEntry, find?, hk, hsame]
      | false => simpa [insert, insertEntry, find?, hk, hsame] using ih

/-- What is found at a sharp key is an entry, and the only one with that key. -/
theorem Distinct.find?_eq_some_iff (hm : m.Distinct) (hkey : Sharp key) {value : ν} :
    m.find? key = some value ↔
      (key, value) ∈ m.entries ∧ ∀ entry ∈ m.entries, entry.1 = key → entry.2 = value := by
  obtain ⟨entries⟩ := m
  induction entries with
  | nil => simp [find?]
  | cons entry rest ih =>
    obtain ⟨k, v⟩ := entry
    have hm : (∀ l ∈ rest.map Prod.fst, (k == l) = false) ∧ Distinct ⟨rest⟩ :=
      List.pairwise_cons.1 hm
    by_cases hk : k = key
    · subst hk
      have hself : (k == k) = true := hkey.beq_self
      have hrest : ∀ e ∈ rest, e.1 ≠ k := by
        intro e he hsame
        have hapart := hm.1 e.1 (List.mem_map_of_mem he)
        rw [hsame, hself] at hapart
        exact Bool.noConfusion hapart
      simp only [find?, List.find?_cons, hself, Option.map_some, Option.some.injEq, List.mem_cons,
        Prod.mk.injEq, true_and, forall_eq_or_imp, forall_const]
      exact ⟨fun h => ⟨.inl h.symm, h, fun e he hsame => absurd hsame (hrest e he)⟩,
        fun h => h.2.1⟩
    · have htail : find? ⟨(k, v) :: rest⟩ key = find? ⟨rest⟩ key := by
        simp [find?, hkey.beq_of_ne hk]
      rw [htail, ih hm.2]
      simp [hk, Ne.symm hk]

/-- **A sharp key that is put in, always with the same value, is found with that value**, whatever else
is put in before or behind. -/
theorem find?_insertAll (hkey : Sharp key) {entries : List (κ × ν)} {value : ν}
    (hthere : (key, value) ∈ entries ∨ m.find? key = some value)
    (hsame : ∀ entry ∈ entries, entry.1 = key → entry.2 = value) :
    (m.insertAll entries).find? key = some value := by
  induction entries generalizing m with
  | nil => exact hthere.resolve_left List.not_mem_nil
  | cons entry rest ih =>
    obtain ⟨k, v⟩ := entry
    refine @ih (m.insert k v) ?_ fun e he => hsame e (List.mem_cons_of_mem _ he)
    by_cases hk : k = key
    · obtain rfl : v = value := hsame (k, v) List.mem_cons_self hk
      rw [hk]
      exact .inr (find?_insert_sharp hkey m v)
    · rw [find?_insert_other hkey m v hk]
      refine hthere.imp_left fun hmem => ?_
      rcases List.mem_cons.1 hmem with heq | hmem
      · exact absurd (Prod.mk.inj heq).1.symm hk
      · exact hmem

/-- A sharp key of the second mapping is found in the update of the first one by it. -/
theorem find?_update {m other : Mapping κ ν} (hother : other.Distinct) (hkey : Sharp key) {value : ν}
    (hfind : other.find? key = some value) : (m.update other).find? key = some value := by
  obtain ⟨hmem, hsame⟩ := (hother.find?_eq_some_iff hkey).1 hfind
  exact find?_insertAll hkey (.inl hmem) hsame

end Mapping

/-! ## Updates, entry by entry -/

namespace Mapping

variable {κ ν : Type} [BEq κ] {m : Mapping κ ν} {key : κ}

theorem contains_eq_true_iff : m.contains key = true ↔ ∃ entry ∈ m.entries, (entry.1 == key) = true :=
  List.any_eq_true

/-- Where no key is the same, none is found. -/
theorem find?_eq_none (h : ∀ entry ∈ m.entries, (entry.1 == key) = false) : m.find? key = none := by
  rw [find?, Option.map_eq_none_iff, List.find?_eq_none]
  intro entry hentry
  exact Bool.eq_false_iff.1 (h entry hentry)

theorem find?_cons (first : κ × ν) (rest : List (κ × ν)) (key : κ) :
    find? ⟨first :: rest⟩ key = if first.1 == key then some first.2 else find? ⟨rest⟩ key := by
  by_cases hfirst : (first.1 == key) = true
  · simp [find?, hfirst]
  · simp [find?, Bool.eq_false_iff.2 hfirst]

/-- The keys that are there after one is put in. -/
theorem contains_insert (m : Mapping κ ν) (other : κ) (value : ν) (key : κ) :
    (m.insert other value).contains key =
      if m.contains other then m.contains key else m.contains key || other == key := by
  have hkeys (m : Mapping κ ν) : m.contains key = m.keys.any fun k => k == key := by
    rw [contains, keys, List.any_map]
    rfl
  rw [hkeys, keys_insert, hkeys m]
  split
  · rfl
  · rw [List.any_append, List.any_cons, List.any_nil, Bool.or_false]

/-- A new key comes last. -/
theorem entries_insert_of_absent (hkey : m.contains key = false) (value : ν) :
    (m.insert key value).entries = m.entries ++ [(key, value)] := by
  obtain ⟨entries⟩ := m
  show insertEntry key value entries = _
  induction entries with
  | nil => rfl
  | cons first rest ih =>
    obtain ⟨hfirst, hrest⟩ := Bool.or_eq_false_iff.1 hkey
    rw [insertEntry, if_neg (Bool.eq_false_iff.1 hfirst), ih hrest, List.cons_append]

/-- The entries of a mapping, each with the value that the other mapping has at its key, if any. -/
def overridden (m other : Mapping κ ν) : List (κ × ν) :=
  m.entries.map fun entry => (entry.1, (other.find? entry.1).getD entry.2)

/-- The entries of the other mapping whose keys are new. -/
def added (m other : Mapping κ ν) : List (κ × ν) :=
  other.entries.filter fun entry => !m.contains entry.1

theorem mem_added {other : Mapping κ ν} {entry : κ × ν} :
    entry ∈ m.added other ↔ entry ∈ other.entries ∧ m.contains entry.1 = false := by
  rw [added, List.mem_filter, Bool.not_eq_true']

variable [PartialEquivBEq κ]

/-- Of distinct keys no second one is the same as a key that the first one is the same as. -/
theorem Distinct.apart {first : κ × ν} {rest : List (κ × ν)} (h : Distinct ⟨first :: rest⟩)
    (hfirst : (first.1 == key) = true) : ∀ entry ∈ rest, (entry.1 == key) = false := by
  intro entry hentry
  refine Bool.eq_false_iff.2 fun hsame => ?_
  have hkeys := (List.pairwise_cons.1 h).1 entry.1 (List.mem_map_of_mem hentry)
  rw [BEq.trans hfirst (BEq.symm hsame)] at hkeys
  cases hkeys

/-- A key that is the same as one that is there is found with the value of that one. -/
theorem Distinct.find?_of_mem (hm : m.Distinct) {entry : κ × ν} (hentry : entry ∈ m.entries)
    (hkey : (entry.1 == key) = true) : m.find? key = some entry.2 := by
  obtain ⟨entries⟩ := m
  induction entries with
  | nil => exact absurd hentry List.not_mem_nil
  | cons first rest ih =>
    rw [find?_cons]
    rcases List.mem_cons.1 hentry with rfl | hmem
    · exact if_pos hkey
    · have hfirst : ¬ (first.1 == key) = true := fun hsame =>
        absurd hkey (Bool.eq_false_iff.1 (hm.apart hsame entry hmem))
      rw [if_neg hfirst]
      exact ih (List.pairwise_cons.1 hm).2 hmem

/-- A value that is put in at a key that is there takes the place of the old one. -/
theorem Distinct.entries_insert_of_contains (hm : m.Distinct) (hkey : m.contains key = true)
    (value : ν) :
    (m.insert key value).entries =
      m.entries.map fun entry => (entry.1, if entry.1 == key then value else entry.2) := by
  obtain ⟨entries⟩ := m
  show insertEntry key value entries = _
  induction entries with
  | nil => cases hkey
  | cons first rest ih =>
    rw [insertEntry, List.map_cons]
    by_cases hfirst : (first.1 == key) = true
    · have hrest : (rest.map fun entry => (entry.1, if entry.1 == key then value else entry.2)) =
          rest := by
        refine (List.map_congr_left fun entry hentry => ?_).trans (List.map_id rest)
        rw [hm.apart hfirst entry hentry]
        rfl
      rw [if_pos hfirst, if_pos hfirst, hrest]
    · have hthere : contains ⟨rest⟩ key = true := by
        obtain ⟨entry, hentry, hsame⟩ := contains_eq_true_iff.1 hkey
        rcases List.mem_cons.1 hentry with rfl | hmem
        · exact absurd hsame hfirst
        · exact contains_eq_true_iff.2 ⟨entry, hmem, hsame⟩
      rw [if_neg hfirst, if_neg hfirst, ih (List.pairwise_cons.1 hm).2 hthere]

variable {given : κ × ν} {rest : List (κ × ν)}

/-- Where the key of an entry is there, the entry may be put in first, or with the rest. -/
theorem Distinct.overridden_insert_of_contains (hm : m.Distinct) (hrest : Distinct ⟨given :: rest⟩)
    (hthere : m.contains given.1 = true) :
    (m.insert given.1 given.2).overridden ⟨rest⟩ = m.overridden ⟨given :: rest⟩ := by
  rw [overridden, hm.entries_insert_of_contains hthere, List.map_map]
  refine List.map_congr_left fun entry _ => ?_
  rw [Function.comp_apply, find?_cons, BEq.comm (a := given.1)]
  by_cases hsame : (entry.1 == given.1) = true
  · rw [if_pos hsame, if_pos hsame, find?_eq_none (hrest.apart (BEq.symm hsame))]
    rfl
  · rw [if_neg hsame, if_neg hsame]

/-- Where the key of an entry is new, the entry comes last. -/
theorem Distinct.overridden_insert_of_absent (hrest : Distinct ⟨given :: rest⟩)
    (habsent : m.contains given.1 = false) :
    (m.insert given.1 given.2).overridden ⟨rest⟩ = m.overridden ⟨given :: rest⟩ ++ [given] := by
  have hlast : find? ⟨rest⟩ given.1 = none := by
    refine find?_eq_none fun entry hentry => ?_
    rw [BEq.comm]
    exact (List.pairwise_cons.1 hrest).1 entry.1 (List.mem_map_of_mem hentry)
  rw [overridden, entries_insert_of_absent habsent, List.map_append, List.map_singleton, hlast]
  refine congrArg (· ++ [given]) (List.map_congr_left fun entry hentry => ?_)
  have hother : ¬ (given.1 == entry.1) = true := fun hsame =>
    Bool.eq_false_iff.1 habsent (contains_eq_true_iff.2 ⟨entry, hentry, BEq.symm hsame⟩)
  rw [find?_cons, if_neg hother]

theorem Distinct.entries_insertAll (hm : m.Distinct) {entries : List (κ × ν)}
    (hentries : Distinct ⟨entries⟩) :
    (m.insertAll entries).entries = m.overridden ⟨entries⟩ ++ m.added ⟨entries⟩ := by
  induction entries generalizing m with
  | nil =>
    have hall : m.overridden ⟨[]⟩ = m.entries := List.map_id m.entries
    rw [hall, added, List.filter_nil, List.append_nil]
    rfl
  | cons given rest ih =>
    have hrest : Distinct ⟨rest⟩ := (List.pairwise_cons.1 hentries).2
    have htail := ih (hm.insert given.1 given.2) hrest
    show ((m.insert given.1 given.2).insertAll rest).entries = _
    by_cases hthere : m.contains given.1 = true
    · have hkept : (m.insert given.1 given.2).added ⟨rest⟩ = m.added ⟨given :: rest⟩ := by
        simp only [added, contains_insert, List.filter_cons, hthere, Bool.not_true,
          Bool.false_eq_true, if_true, if_false]
      rw [htail, hm.overridden_insert_of_contains hentries hthere, hkept]
    · have habsent := Bool.eq_false_iff.2 hthere
      have hkept : m.added ⟨given :: rest⟩ = given :: (m.insert given.1 given.2).added ⟨rest⟩ := by
        rw [added, List.filter_cons, habsent]
        refine congrArg (given :: ·) (List.filter_congr fun entry hentry => ?_)
        have hapart := (List.pairwise_cons.1 hentries).1 entry.1 (List.mem_map_of_mem hentry)
        rw [contains_insert, if_neg hthere, hapart, Bool.or_false]
      rw [htail, hentries.overridden_insert_of_absent habsent, hkept, List.append_assoc]
      rfl

/-- **What an update makes of two mappings.**  Every entry of the first one stays in its place, with the
value that the second one has at its key, if any; the entries of the second one whose keys are new come
behind, in their order. -/
theorem Distinct.entries_update {other : Mapping κ ν} (hm : m.Distinct) (hother : other.Distinct) :
    (m.update other).entries = m.overridden other ++ m.added other :=
  hm.entries_insertAll hother

end Mapping

end Stencil
