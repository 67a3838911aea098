import Stencil.Proofs.Key
import Stencil.Proofs.Variables

/-!
# `Stencil.Proofs.Names` — which variable a name means

Bindings are put over each other by their keys, and names are made of the keys afterwards.  Several keys
may have one text, such as the number `1` and the text `1`; and keys that are the same may have several
texts, such as `1` and `True`.  So two variables may meet too late, when their names are made, or too
early, when a global value goes to a local key of another name.

Bindings put over others have two parts (`Environment.entries_mergedBindings`): the local entries,
overridden where the keys are the same, and behind them the global entries that are new.  A name means
the last entry that has it (`Environment.meant?`).  Where the keys of a name are the same exactly if their
texts are (`Environment.Unmixed`), the global bindings decide (`Environment.GlobalsDecide`), and so they
do for every name where all keys are texts.

## Contents
- **What a name means.** `Environment.meant?`, and when entries can be left out or changed.
- **Merged bindings.** `Environment.entries_mergedBindings`, and what a name means to its parts.
- **Who decides.** `Environment.GlobalsDecide`, `Environment.Unmixed` and **`Environment.names_merge`**.
-/

namespace Stencil

namespace Environment

variable {locals globals : Bindings} {entries : List (Key × Value)} {name : Text}

/-! ## What a name means -/

/-- What a name means among some entries: the value of the last one that has the name. -/
def meant? (entries : List (Key × Value)) (name : Text) : Option (Option Text) :=
  Mapping.lastOf? (entries.map fun (key, value) => (key.toText, textOf value)) name

theorem find?_names (bindings : Bindings) (name : Text) :
    (ofBindings bindings).names.find? name = meant? bindings.entries name :=
  Mapping.find?_ofList (sharp_of_lawful name) _

theorem meant?_cons (entry : Key × Value) (rest : List (Key × Value)) (name : Text) :
    meant? (entry :: rest) name =
      (meant? rest name).or (if entry.1.toText = name then some (textOf entry.2) else none) := by
  unfold meant?
  rw [List.map_cons, Mapping.lastOf?_cons]
  simp only [beq_iff_eq]

theorem meant?_append (first rest : List (Key × Value)) (name : Text) :
    meant? (first ++ rest) name = (meant? rest name).or (meant? first name) := by
  induction first with
  | nil => exact (Option.or_none).symm
  | cons entry first ih => rw [List.cons_append, meant?_cons, meant?_cons, ih, Option.or_assoc]

/-- Entries that do not have the name can be left out. -/
theorem meant?_filter {p : Key × Value → Bool}
    (h : ∀ entry ∈ entries, entry.1.toText = name → p entry = true) :
    meant? (entries.filter p) name = meant? entries name := by
  induction entries with
  | nil => rfl
  | cons entry rest ih =>
    have hrest := ih fun e he => h e (List.mem_cons_of_mem _ he)
    rw [List.filter_cons, meant?_cons]
    by_cases hname : entry.1.toText = name
    · rw [if_pos (h entry List.mem_cons_self hname), meant?_cons, hrest]
    · rw [if_neg hname, Option.or_none, ← hrest]
      split
      · rw [meant?_cons, if_neg hname, Option.or_none]
      · rfl

/-- Entries that do not have the name can be given other values. -/
theorem meant?_map {f : Key × Value → Value}
    (h : ∀ entry ∈ entries, entry.1.toText = name → f entry = entry.2) :
    meant? (entries.map fun entry => (entry.1, f entry)) name = meant? entries name := by
  induction entries with
  | nil => rfl
  | cons entry rest ih =>
    have hrest := ih fun e he => h e (List.mem_cons_of_mem _ he)
    rw [List.map_cons, meant?_cons, meant?_cons, hrest]
    by_cases hname : entry.1.toText = name
    · rw [h entry List.mem_cons_self hname]
    · rw [if_neg hname, if_neg hname]

/-- A name means nothing exactly if no entry has it. -/
theorem meant?_eq_none_iff :
    meant? entries name = none ↔ ∀ entry ∈ entries, entry.1.toText ≠ name := by
  induction entries with
  | nil => exact ⟨fun _ entry hentry => absurd hentry List.not_mem_nil, fun _ => rfl⟩
  | cons entry rest ih =>
    rw [meant?_cons, Option.or_eq_none_iff, ih, List.forall_mem_cons, and_comm]
    by_cases hname : entry.1.toText = name <;> simp [hname]

/-- A name that some entry has means its value if no entry gives the name another one. -/
theorem meant?_eq_some {value : Value} (hthere : ∃ entry ∈ entries, entry.1.toText = name)
    (hsame : ∀ entry ∈ entries, entry.1.toText = name → entry.2 = value) :
    meant? entries name = some (textOf value) := by
  induction entries with
  | nil =>
    obtain ⟨entry, hentry, -⟩ := hthere
    cases hentry
  | cons entry rest ih =>
    rw [meant?_cons]
    by_cases hrest : ∃ later ∈ rest, later.1.toText = name
    · rw [ih hrest fun e he => hsame e (List.mem_cons_of_mem _ he)]
      rfl
    · have hnone : meant? rest name = none :=
        meant?_eq_none_iff.2 fun later hlater hname => hrest ⟨later, hlater, hname⟩
      obtain ⟨given, hgiven, hname⟩ := hthere
      rcases List.mem_cons.1 hgiven with rfl | hlater
      · rw [hnone, if_pos hname, hsame given List.mem_cons_self hname]
        rfl
      · exact absurd ⟨given, hlater, hname⟩ hrest

/-! ## Merged bindings -/

/-- **Bindings put over others** are the local entries, overridden, and then the new global ones. -/
theorem entries_mergedBindings (hlocals : locals.Distinct) (hglobals : globals.Distinct) :
    (mergedBindings locals globals).entries = locals.overridden globals ++ locals.added globals := by
  have hcopy : Mapping.empty.update locals = locals := by
    have hentries := Mapping.distinct_empty.entries_update hlocals
    obtain ⟨entries⟩ := locals
    refine congrArg Mapping.mk (hentries.trans ?_)
    exact List.filter_eq_self.2 fun entry _ => rfl
  rw [mergedBindings, hcopy, hlocals.entries_update hglobals]

/-- A name that no local entry of a global key has means to the overridden entries what it means to the
local ones. -/
theorem meant?_overridden
    (h : ∀ l ∈ locals.entries, l.1.toText = name → ∀ g ∈ globals.entries, (g.1 == l.1) = false) :
    meant? (locals.overridden globals) name = meant? locals.entries name := by
  refine meant?_map fun entry hentry hname => ?_
  rw [Mapping.find?_eq_none (h entry hentry hname)]
  rfl

/-- A name that no global entry of a local key has means to the new entries what it means to the global
ones. -/
theorem meant?_added
    (h : ∀ g ∈ globals.entries, g.1.toText = name → ∀ l ∈ locals.entries, (l.1 == g.1) = false) :
    meant? (locals.added globals) name = meant? globals.entries name := by
  refine meant?_filter fun entry hentry hname => ?_
  rw [Bool.not_eq_true', Mapping.contains, List.any_eq_false]
  intro own hown
  exact Bool.eq_false_iff.1 (h entry hentry hname own hown)

/-! ## Who decides -/

/-- The global bindings decide what a name means: if one of them has the name, it means what it means to
them alone, and otherwise what it means to the local ones alone. -/
def GlobalsDecide (locals globals : Bindings) (name : Text) : Prop :=
  ((∃ key ∈ globals.keys, key.toText = name) →
    (merge locals globals).has name = true ∧
      (merge locals globals).lookup name = (ofBindings globals).lookup name) ∧
  ((∀ key ∈ globals.keys, key.toText ≠ name) →
    (merge locals globals).has name = (ofBindings locals).has name ∧
      (merge locals globals).lookup name = (ofBindings locals).lookup name)

/-- Where a local key and a global one are concerned with a name, they are the same exactly if they have
one text. -/
def Unmixed (locals globals : Bindings) (name : Text) : Prop :=
  ∀ l ∈ locals.keys, ∀ g ∈ globals.keys, l.toText = name ∨ g.toText = name →
    ((l == g) = true ↔ l.toText = g.toText)

instance (locals globals : Bindings) (name : Text) : Decidable (Unmixed locals globals name) :=
  inferInstanceAs (Decidable (∀ l ∈ locals.keys, ∀ g ∈ globals.keys, _ → _))

/-- The global bindings decide if a name means the same to them, or in their absence to the local ones, as
to both together. -/
theorem globalsDecide_of_meant?
    (hthere : (∃ entry ∈ globals.entries, entry.1.toText = name) →
      meant? (mergedBindings locals globals).entries name = meant? globals.entries name)
    (habsent : (∀ entry ∈ globals.entries, entry.1.toText ≠ name) →
      meant? (mergedBindings locals globals).entries name = meant? locals.entries name) :
    GlobalsDecide locals globals name := by
  have hhas (bindings : Bindings) :
      (ofBindings bindings).has name = (meant? bindings.entries name).isSome := by
    rw [has_eq, find?_names]
  have hlookup (bindings : Bindings) :
      (ofBindings bindings).lookup name = (meant? bindings.entries name).join := by
    rw [lookup, find?_names]
  constructor
  · rintro ⟨key, hkey, hname⟩
    obtain ⟨entry, hentry, rfl⟩ := List.mem_map.1 hkey
    have hmeant := hthere ⟨entry, hentry, hname⟩
    have hsome : meant? globals.entries name ≠ none := fun hnone =>
      meant?_eq_none_iff.1 hnone entry hentry hname
    rw [merge, hhas, hlookup, hlookup, hmeant]
    exact ⟨Option.isSome_iff_ne_none.2 hsome, rfl⟩
  · intro hkeys
    have hmeant := habsent fun entry hentry => hkeys entry.1 (List.mem_map_of_mem hentry)
    rw [merge, hhas, hhas, hlookup, hlookup, hmeant]
    exact ⟨rfl, rfl⟩

/-- A name that a local key and global ones have means the global value, where all of them are one key. -/
theorem meant?_met (hglobals : globals.Distinct) {own given : Key × Value}
    (hown : own ∈ locals.entries) (hname : own.1.toText = name)
    (hgiven : given ∈ globals.entries) (hgivenname : given.1.toText = name)
    (hlocal : ∀ l ∈ locals.entries, l.1.toText = name → (given.1 == l.1) = true)
    (hglobal : ∀ g ∈ globals.entries, g.1.toText = name → (own.1 == g.1) = true) :
    meant? (locals.added globals) name = none ∧
      meant? (locals.overridden globals) name = some (textOf given.2) ∧
      meant? globals.entries name = some (textOf given.2) := by
  refine ⟨meant?_eq_none_iff.2 fun g hg hgname => ?_, meant?_eq_some ?_ ?_, meant?_eq_some ?_ ?_⟩
  · obtain ⟨hmem, habsent⟩ := Mapping.mem_added.1 hg
    rw [Mapping.contains_eq_true_iff.2 ⟨own, hown, hglobal g hmem hgname⟩] at habsent
    cases habsent
  · exact ⟨_, List.mem_map_of_mem hown, hname⟩
  · intro entry hentry hentryname
    obtain ⟨l, hl, rfl⟩ := List.mem_map.1 hentry
    show (globals.find? l.1).getD l.2 = given.2
    rw [hglobals.find?_of_mem hgiven (hlocal l hl hentryname)]
    rfl
  · exact ⟨given, hgiven, hgivenname⟩
  · intro g hg hgname
    -- both are found at the local key
    have hfound := hglobals.find?_of_mem hgiven (hlocal own hown hname)
    have hsame := hglobals.find?_of_mem hg (BEq.symm (hglobal g hg hgname))
    exact Option.some.inj (hsame.symm.trans hfound)

/-- Where the keys of a name are not mixed up, the global bindings decide. -/
theorem Unmixed.globalsDecide (hlocals : locals.Distinct) (hglobals : globals.Distinct)
    (h : Unmixed locals globals name) : GlobalsDecide locals globals name := by
  have hkeys (l : Key × Value) (hl : l ∈ locals.entries) (g : Key × Value) (hg : g ∈ globals.entries)
      (hname : l.1.toText = name ∨ g.1.toText = name) :
      (l.1 == g.1) = true ↔ l.1.toText = g.1.toText :=
    h l.1 (List.mem_map_of_mem hl) g.1 (List.mem_map_of_mem hg) hname
  refine globalsDecide_of_meant? ?_ ?_ <;>
    rw [entries_mergedBindings hlocals hglobals, meant?_append]
  · rintro ⟨given, hgiven, hgivenname⟩
    by_cases hlocal : ∃ l ∈ locals.entries, l.1.toText = name
    · obtain ⟨own, hown, hname⟩ := hlocal
      obtain ⟨hadded, hoverridden, hglobal⟩ := meant?_met hglobals hown hname hgiven hgivenname
        (fun l hl hlname => BEq.symm
          ((hkeys l hl given hgiven (.inl hlname)).2 (hlname.trans hgivenname.symm)))
        fun g hg hgname => (hkeys own hown g hg (.inr hgname)).2 (hname.trans hgname.symm)
      rw [hadded, hoverridden, hglobal]
      rfl
    · have hoverridden : meant? (locals.overridden globals) name = none := by
        refine meant?_eq_none_iff.2 fun entry hentry hname => ?_
        obtain ⟨l, hl, rfl⟩ := List.mem_map.1 hentry
        exact hlocal ⟨l, hl, hname⟩
      have hadded : meant? (locals.added globals) name = meant? globals.entries name := by
        refine meant?_added fun g hg hgname l hl => Bool.eq_false_iff.2 fun hsame => ?_
        exact hlocal ⟨l, hl, ((hkeys l hl g hg (.inr hgname)).1 hsame).trans hgname⟩
      rw [hoverridden, hadded, Option.or_none]
  · intro habsent
    have hadded : meant? (locals.added globals) name = none :=
      meant?_eq_none_iff.2 fun entry hentry => habsent entry (Mapping.mem_added.1 hentry).1
    have hoverridden : meant? (locals.overridden globals) name = meant? locals.entries name := by
      refine meant?_overridden fun l hl hlname g hg => Bool.eq_false_iff.2 fun hsame => ?_
      have htexts := (hkeys l hl g hg (.inl hlname)).1 (BEq.symm hsame)
      exact habsent g hg (htexts.symm.trans hlname)
    rw [hadded, hoverridden, Option.none_or]

/-- Texts are not mixed up. -/
theorem unmixed_of_texts (hlocals : ∀ key ∈ locals.keys, ∃ s, key = .scalar (.text s))
    (hglobals : ∀ key ∈ globals.keys, ∃ s, key = .scalar (.text s)) (name : Text) :
    Unmixed locals globals name := by
  intro l hl g hg _
  obtain ⟨s, rfl⟩ := hlocals l hl
  obtain ⟨t, rfl⟩ := hglobals g hg
  rw [(sharp_text t).left]
  simp [Key.toText, Scalar.toText]

/-- **What a name means after global bindings are put over local ones.**  There is such an environment if
the overridden local entries and the new global ones have texts.  A name means the last of the new
global entries that have it, and otherwise the last of the overridden local ones.  So the global
bindings decide where the keys of the name are not mixed up, and for every name where all keys are
texts. -/
theorem names_merge (hlocals : locals.Distinct) (hglobals : globals.Distinct) :
    (canMerge locals globals = true ↔
      ∀ entry ∈ locals.overridden globals ++ locals.added globals,
        entry.1.isWritable = true ∧ entry.2.isWritable = true) ∧
    (∀ name, (merge locals globals).names.find? name =
      (meant? (locals.added globals) name).or (meant? (locals.overridden globals) name)) ∧
    (∀ name, Unmixed locals globals name → GlobalsDecide locals globals name) ∧
    ((∀ key ∈ locals.keys, ∃ s, key = .scalar (.text s)) →
      (∀ key ∈ globals.keys, ∃ s, key = .scalar (.text s)) →
        ∀ name, GlobalsDecide locals globals name) := by
  have hentries := entries_mergedBindings hlocals hglobals
  refine ⟨?_, fun name => ?_, fun name h => h.globalsDecide hlocals hglobals, fun hl hg name => ?_⟩
  · rw [canMerge, hentries, List.all_eq_true]
    simp only [Bool.and_eq_true]
  · rw [merge, find?_names, hentries, meant?_append]
  · exact (unmixed_of_texts hl hg name).globalsDecide hlocals hglobals

/-- Local bindings of a number, of its text and of another text. -/
def numberAndText : Bindings :=
  .ofList [(.scalar (.int 1), .scalar (.text ['a'])), (.scalar (.text ['1']), .scalar (.text ['b'])),
    (.scalar (.text ['x']), .scalar (.text ['c']))]

/-- Global bindings of the number and of the other text. -/
def numberAlone : Bindings :=
  .ofList [(.scalar (.int 1), .scalar (.text ['G'])), (.scalar (.text ['x']), .scalar (.int 2))]

/-- The name of the number means the local text; of the other text, and wherever there are only texts, the
global bindings decide. -/
theorem names_merge_number_and_text :
    (merge numberAndText numberAlone).names.find? ['1'] = some (some ['b']) ∧
      GlobalsDecide numberAndText numberAlone ['x'] ∧
      GlobalsDecide (.ofList [(.scalar (.text ['1']), .scalar (.text ['b']))])
        (.ofList [(.scalar (.text ['1']), .scalar (.text ['G']))]) ['1'] := by
  obtain ⟨-, hmeant, hunmixed, -⟩ :=
    @names_merge numberAndText numberAlone (Mapping.distinct_ofList _) (Mapping.distinct_ofList _)
  refine ⟨(hmeant ['1']).trans (by decide), hunmixed ['x'] (by decide), ?_⟩
  refine (names_merge (Mapping.distinct_ofList _) (Mapping.distinct_ofList _)).2.2.2 ?_ ?_ ['1']
  · exact fun key hkey => ⟨['1'], List.mem_singleton.1 hkey⟩
  · exact fun key hkey => ⟨['1'], List.mem_singleton.1 hkey⟩

/-- Of the name of the number the global bindings do not decide: the local text hides the global value. -/
theorem not_globalsDecide_number_and_text : ¬ GlobalsDecide numberAndText numberAlone ['1'] := by
  intro h
  have hlookup := (h.1 ⟨.scalar (.int 1), List.mem_cons_self, by decide⟩).2
  exact absurd hlookup (by decide)

end Environment

end Stencil
