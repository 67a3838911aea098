import Stencil.Proofs.CommandLine.Output
import Stencil.Proofs.CommandLine.Sources

/-!
# `Stencil.Proofs.CommandLine.Precedence` — which of several values a template sees

A name may be given a value in five places: as one of the folders, by an item for a global variable, in
the settings, by an item for a local variable, and in the file of variables.  They are layers, one over
the other, and a template sees the topmost one in which the name is (`Invocation.seen?`).  That the value
there is null does not matter for this: the name is there, and it has no value.

The layers are put together in two places, as variables before there is a batch and as bindings when a
template is rendered.  Since all names are texts by then, both are the same (`Variables.toBindings_insert`,
`Environment.find?_names_merge`), and each layer can be looked at by itself.

## Contents
- **The layers.** `Invocation.layers` and `Invocation.seen?`.
- **All layers.** `reads_locals` and `reads_batch`; `Invocation.Shows`, and **`exists_sources`**.
- **What templates see.** `Invocation.Sees` and `Invocation.RendersIn`.
- **`seen_of_answer`**.
-/

namespace Stencil.CommandLine

/-! ## The layers -/

/-- The folders as variables. -/
def folderNamed? (root templates name : Text) : Option Text :=
  if name = Settings.rootName then some root
  else if name = Settings.templatesName then some templates
  else none

namespace Invocation

/-- The root folder: the one that is given, or else that of the settings, or else the default. -/
def rootFolder (invocation : Invocation) (sources : Sources) : Text :=
  if invocation.options.rootFolder ≠ [] then invocation.options.rootFolder
  else (textAt? sources.settings Settings.rootName).getD Settings.defaultRoot

/-- The templates folder: the one that is given, or else that of the settings, or else the default. -/
def templatesFolder (invocation : Invocation) (sources : Sources) : Text :=
  if invocation.options.templatesFolder ≠ [] then invocation.options.templatesFolder
  else (textAt? sources.settings Settings.templatesName).getD Settings.defaultTemplates

/-- **The layers**, the topmost first.  In each a name may be missing, or be there without a value. -/
def layers (invocation : Invocation) (sources : Sources) : List (Text → Option (Option Text)) :=
  [ fun name =>
      (folderNamed? (invocation.rootFolder sources) (invocation.templatesFolder sources) name).map some,
    fun name => (lastGiven? invocation.options.globals name).map some,
    fun name => (lastNamed? (globalsIn sources.settings) name).map Environment.textOf,
    fun name => (lastGiven? invocation.options.locals name).map some,
    fun name => (lastNamed? sources.fromFile name).map Environment.textOf ]

/-- What is seen of a name: that of the topmost layer in which the name is. -/
def seen? (invocation : Invocation) (sources : Sources) (name : Text) : Option (Option Text) :=
  (invocation.layers sources).findSome? fun layer => layer name

end Invocation

/-! ## All layers -/

/-- Variables that are given by items go before those of a file. -/
theorem find?_update_given {option : Text} {items : List Text} {bindings : Bindings}
    {base given : Variables}
    (hbase : ∀ name, (base.find? name).map Simple.toValue = lastNamed? bindings name)
    (hgiven : assignments option items = .ok given) (name : Text) :
    ((base.update given).find? name).map (fun value => Environment.textOf value.toValue) =
      ((lastGiven? items name).map some).or ((lastNamed? bindings name).map Environment.textOf) := by
  obtain ⟨hdistinct, hfind⟩ := find?_assignments hgiven
  rw [hdistinct.find?_update (sharp_of_lawful name), hfind, Option.map_or, ← hbase, Option.map_map,
    Option.map_map]
  rfl

/-- The folders are put in over the variables of a new batch. -/
theorem startingGlobals_toBindings (given : Variables) {root templates : Text} (hroot : root ≠ [])
    (htemplates : templates ≠ []) :
    Batch.startingGlobals given.toBindings (.scalar (.text root)) (.scalar (.text templates)) =
      Variables.toBindings ((given.insert Settings.rootName (.scalar (.text root))).insert
        Settings.templatesName (.scalar (.text templates))) := by
  unfold Batch.startingGlobals
  rw [folderOr_text, folderOr_text, if_neg hroot, if_neg htemplates, Variables.toBindings_insert,
    Variables.toBindings_insert]
  rfl

/-- The folders are found before the other variables. -/
theorem find?_insert_folders (given : Variables) (root templates name : Text) :
    ((given.insert Settings.rootName (.scalar (.text root))).insert Settings.templatesName
        (.scalar (.text templates))).find? name =
      ((folderNamed? root templates name).map fun folder => .scalar (.text folder)).or
        (given.find? name) := by
  have hsharp : Sharp name := sharp_of_lawful name
  have hnames : Settings.templatesName ≠ Settings.rootName := by decide
  rw [Mapping.find?_insert_eq hsharp, Mapping.find?_insert_eq hsharp]
  unfold folderNamed?
  by_cases hroot : name = Settings.rootName
  · simp [hroot, hnames]
  · by_cases htemplates : name = Settings.templatesName
    · simp [htemplates, hnames]
    · simp [hroot, htemplates, Ne.symm hroot, Ne.symm htemplates]

/-- A text that is given goes before another one. -/
theorem orElse_eq (text other : Text) : orElse text other = if text ≠ [] then text else other :=
  (ite_not _ _ _).symm

theorem orElse_ne_nil {text other : Text} (h : other ≠ []) : orElse text other ≠ [] := by
  unfold orElse
  split
  next => exact h
  next htext => exact htext

section Layers

variable {invocation : Invocation} {found : Surroundings}

/-- The local layers. -/
theorem reads_locals {locals : Variables} (h : invocation.locals found = .ok locals) :
    ∃ bindings, invocation.ReadsVariables found bindings ∧ locals.Distinct ∧ ∀ name,
      (locals.find? name).map (fun value => Environment.textOf value.toValue) =
        ((lastGiven? invocation.options.locals name).map some).or
          ((lastNamed? bindings name).map Environment.textOf) := by
  obtain ⟨fromFile, hfile, h⟩ := bind_eq_ok_iff.1 h
  obtain ⟨given, hgiven, h⟩ := bind_eq_ok_iff.1 h
  obtain rfl := Except.ok.inj h
  obtain ⟨bindings, hreads, hdistinct, hnames⟩ := reads_fileVariables hfile
  exact ⟨bindings, hreads, hdistinct.insertAll given.entries,
    find?_update_given hnames (mapError_eq_ok_iff.1 hgiven)⟩

/-- **What a batch shows to templates**: they are read from the folders, and see the global layers. -/
structure Invocation.ShowsGlobals (invocation : Invocation) (settings : Bindings) (root templates : Text)
    (batch : Batch) : Prop where
  strict : batch.strict = invocation.options.strict
  ready : batch.Ready root templates
  globals : ∃ globals : Variables, batch.globals = globals.toBindings ∧ globals.Distinct ∧ ∀ name,
    (globals.find? name).map (fun value => Environment.textOf value.toValue) =
      ((folderNamed? root templates name).map some).or
        (((lastGiven? invocation.options.globals name).map some).or
          ((lastNamed? (globalsIn settings) name).map Environment.textOf))

/-- The global layers. -/
theorem reads_batch {batch : Batch} (h : invocation.batch found = .ok batch) :
    ∃ bindings, invocation.ReadsSettings found bindings ∧
      invocation.ShowsGlobals bindings
        (orElse invocation.options.rootFolder
          ((textAt? bindings Settings.rootName).getD Settings.defaultRoot))
        (orElse invocation.options.templatesFolder
          ((textAt? bindings Settings.templatesName).getD Settings.defaultTemplates)) batch := by
  obtain ⟨settings, hsettings, h⟩ := bind_eq_ok_iff.1 h
  obtain ⟨given, hgiven, h⟩ := bind_eq_ok_iff.1 h
  obtain rfl := Except.ok.inj h
  obtain ⟨bindings, hset, hreads⟩ := reads_settings hsettings
  refine ⟨bindings, hreads, ?_⟩
  have hnames := find?_update_given hset.globals (mapError_eq_ok_iff.1 hgiven)
  have hroot := @orElse_ne_nil invocation.options.rootFolder _ hset.rootFolder.2
  have htemplates := @orElse_ne_nil invocation.options.templatesFolder _ hset.templatesFolder.2
  rw [← hset.rootFolder.1, ← hset.templatesFolder.1]
  generalize orElse invocation.options.rootFolder settings.rootFolder = root at hroot ⊢
  generalize orElse invocation.options.templatesFolder settings.templatesFolder = templates
    at htemplates ⊢
  obtain ⟨hrootText, htemplatesText⟩ := textAt?_startingGlobals
    (Variables.toBindings (settings.globals.update given)) root templates
  rw [if_neg hroot] at hrootText
  rw [if_neg htemplates] at htemplatesText
  refine ⟨rfl, ⟨rfl, rfl, hrootText, htemplatesText⟩, _,
    startingGlobals_toBindings _ hroot htemplates, ?_, fun name => ?_⟩
  · exact ((hset.distinct.insertAll given.entries).insert _ _).insert _ _
  · rw [find?_insert_folders, Option.map_or, hnames, Option.map_map]
    rfl

/-- **What a setup shows to templates**: they are read from the folders, and see the topmost layer. -/
structure Invocation.Shows (invocation : Invocation) (sources : Sources) (setup : Setup) : Prop where
  strict : setup.batch.strict = invocation.options.strict
  ready : setup.batch.Ready (invocation.rootFolder sources) (invocation.templatesFolder sources)
  names : ∀ name,
    (Environment.merge setup.locals.toBindings setup.batch.globals).names.find? name =
      invocation.seen? sources name

theorem findSome?_cons_eq_or {α β : Type} (f : α → Option β) (a : α) (rest : List α) :
    (a :: rest).findSome? f = (f a).or (rest.findSome? f) := by
  rw [List.findSome?_cons]
  cases f a <;> rfl

/-- **A setup comes from the two files and the items**, and shows them layer by layer. -/
theorem exists_sources {setup : Setup} (h : invocation.setup found = .ok setup) :
    ∃ sources, invocation.Reads found sources ∧ invocation.Shows sources setup := by
  obtain ⟨locals, hlocals, h⟩ := bind_eq_ok_iff.1 h
  obtain ⟨batch, hbatch, h⟩ := bind_eq_ok_iff.1 h
  obtain rfl := Except.ok.inj h
  obtain ⟨fromFile, hreadsFile, hdistinct, hlocalNames⟩ := reads_locals hlocals
  obtain ⟨settings, hreadsSettings, hshows⟩ := reads_batch hbatch
  rw [orElse_eq, orElse_eq] at hshows
  obtain ⟨globals, hglobals, hglobalsDistinct, hglobalNames⟩ := hshows.globals
  refine ⟨⟨fromFile, settings⟩, ⟨hreadsFile, hreadsSettings⟩, hshows.strict, hshows.ready,
    fun name => ?_⟩
  dsimp only
  rw [hglobals, Environment.find?_names_merge hdistinct hglobalsDistinct, Option.map_or, hglobalNames,
    hlocalNames]
  unfold Invocation.seen? Invocation.layers
  simp only [findSome?_cons_eq_or, List.findSome?_nil, Option.or_none, Option.or_assoc]
  rfl

end Layers

/-! ## What templates see -/

/-- **An environment is that of the layers**: a name is there if it is in one of them, and has the value
that it has in the topmost of these. -/
structure Invocation.Sees (invocation : Invocation) (sources : Sources) (env : Environment) : Prop where
  has : ∀ name, env.has name = (invocation.seen? sources name).isSome
  lookup : ∀ name, env.lookup name = (invocation.seen? sources name).join

/-- A file is rendered in an environment: its template is read from the folders and parsed, and the tree
is evaluated. -/
def Invocation.RendersIn (invocation : Invocation) (disk : Disk) (sources : Sources) (env : Environment)
    (file : Text) (rendering : Rendering) : Prop :=
  ∃ template tree reported,
    templateAt disk (templatePath (invocation.rootFolder sources) (invocation.templatesFolder sources)
      file) = .ok template ∧
    parseTemplate invocation.options.strict template = (.ok tree, reported) ∧
    rendering = ⟨(tree.evaluate env).text, reported ++ (tree.evaluate env).reported⟩

section Seen

variable {invocation : Invocation} {sources : Sources} {setup : Setup}

/-- The environment of a setup is that of the layers. -/
theorem Invocation.Shows.sees (h : invocation.Shows sources setup) :
    invocation.Sees sources (Environment.merge setup.locals.toBindings setup.batch.globals) where
  has := fun name => by rw [Environment.has_eq, h.names]
  lookup := fun name => by rw [Environment.lookup, h.names]

/-- What a setup renders is rendered in its environment. -/
theorem Invocation.Shows.rendersIn (h : invocation.Shows sources setup) {disk : Disk} {file : Text}
    {rendering : Rendering} (hrenders : setup.Renders disk file rendering) :
    invocation.RendersIn disk sources
      (Environment.merge setup.locals.toBindings setup.batch.globals) file rendering := by
  obtain ⟨path, template, hpath, htemplate, hrendering⟩ := hrenders
  rw [templatePath_of_ready h.ready] at hpath
  obtain rfl := Except.ok.inj hpath
  rw [h.strict] at hrendering
  unfold renderTemplate at hrendering
  cases hparsed : parseTemplate invocation.options.strict template with
  | mk outcome reported =>
    rw [hparsed] at hrendering
    cases outcome with
    | error report => cases hrendering
    | ok tree =>
      unfold renderParsed at hrendering
      dsimp only at hrendering
      split at hrendering
      next =>
        obtain rfl := Except.ok.inj hrendering
        exact ⟨template, tree, reported, htemplate, hparsed, rfl⟩
      next => cases hrendering

/-- A name that is null among the settings is there, and has no value. -/
theorem Invocation.seen?_of_null {name : Text}
    (hfolder : name ≠ Settings.rootName ∧ name ≠ Settings.templatesName)
    (hgiven : lastGiven? invocation.options.globals name = none)
    (hnull : lastNamed? (globalsIn sources.settings) name = some (.scalar .null)) :
    invocation.seen? sources name = some none := by
  have hnone : folderNamed? (invocation.rootFolder sources) (invocation.templatesFolder sources) name =
      none := by
    unfold folderNamed?
    rw [if_neg hfolder.1, if_neg hfolder.2]
  unfold seen? layers
  simp only [findSome?_cons_eq_or, hnone, hgiven, hnull, Option.map_none, Option.none_or]
  rfl

end Seen

/-- **Which of several values a template sees.**  When templates are shown, all of them are read from the
same folders and rendered in the same environment.  In it a name is there, and has its value, as in
the first of these in which it is: the folders, the items for global variables, the settings, the
items for local variables, and the file of variables; of several items, or of several keys in a file
that give the same name, the last one counts.  A name that is null in the settings is there and has
no value, whatever the local variables are. -/
theorem seen_of_answer {arguments : List Text} {invocation : Invocation}
    (h : Invocation.ofArguments arguments = .ok invocation)
    (hshows : invocation.task.showsVariables = true) {found : Surroundings}
    (hending : (answer found arguments).ending = .exit 0) :
    ∃ sources env,
      invocation.Reads found sources ∧ invocation.Sees sources env ∧
      invocation.task.PutsOut invocation.options.layered (invocation.RendersIn found.disk sources env)
        (fun _ _ => False) (answer found arguments).output ∧
      ∀ name, name ≠ Settings.rootName ∧ name ≠ Settings.templatesName →
        lastGiven? invocation.options.globals name = none →
        lastNamed? (globalsIn sources.settings) name = some (.scalar .null) →
        env.has name = true ∧ env.lookup name = none := by
  unfold answer at hending ⊢
  rw [h] at hending ⊢
  obtain ⟨setup, hsetup, hputs⟩ := putsOut_of_ending hending
  obtain ⟨sources, hreads, hshown⟩ := exists_sources hsetup
  have hsees := hshown.sees
  refine ⟨sources, _, hreads, hsees, ?_, fun name hfolder hgiven hnull => ?_⟩
  · refine hputs.imp (fun _ _ => hshown.rendersIn) fun _ _ hhides => ?_
    rw [hshows] at hhides
    cases hhides
  · have hseen := Invocation.seen?_of_null hfolder hgiven hnull
    rw [hsees.has, hsees.lookup, hseen]
    exact ⟨rfl, rfl⟩

/-- A variable without a value in the settings hides the one that is given as a local variable, and is
hidden in turn by the one that is given as a global variable. -/
theorem seen_of_answer_null :
    let octets (s : String) : List UInt8 := s.toList.map fun c => UInt8.ofNat c.toNat
    let disk : Disk := fun path =>
      .file (if path = settingsFile then octets "globals:\n  m: null\n  n: null\n"
        else octets "\x7b\x7bif m\x7d\x7d1\x7b\x7bm\x7d\x7d\x7b\x7bendif\x7d\x7d\x7b\x7bn\x7d\x7d")
    let found : Surroundings := ⟨disk, Text.of "/work", Yaml.loader⟩
    let arguments := [Text.of "render", Text.of "a.txt", Text.of "--var", Text.of "m=2",
      Text.of "--global", Text.of " n =3=4"]
    let invocation : Invocation := ⟨.render [Text.of "a.txt"],
      { locals := [Text.of "m=2"], globals := [Text.of " n =3=4"] }⟩
    (answer found arguments).output = Text.of "13=4" ∧
      ∃ sources env, invocation.Reads found sources ∧ invocation.Sees sources env ∧
        env.lookup ['n'] = some (Text.of "3=4") := by
  intro octets disk found arguments invocation
  have hending : (answer found arguments).ending = .exit 0 := by decide +kernel
  have hinvocation : Invocation.ofArguments arguments = .ok invocation := by decide +kernel
  obtain ⟨sources, env, hreads, hsees, _, _⟩ := seen_of_answer hinvocation rfl hending
  refine ⟨by decide +kernel, sources, env, hreads, hsees, ?_⟩
  rw [hsees.lookup]
  rfl

end Stencil.CommandLine
