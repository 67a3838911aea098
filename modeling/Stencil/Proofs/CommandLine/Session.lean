import Mathlib.Logic.Relation
import Stencil.Proofs.Batch.Queue
import Stencil.Proofs.Batch.Schedule
import Stencil.Proofs.CommandLine.FaultOrder
import Stencil.Proofs.CommandLine.Output

/-!
# `Stencil.Proofs.CommandLine.Session` — the output of a run is all or nothing

A run is a session of several steps: the input is read, the templates are added to the batch, workers do
their jobs in any order, and at the end all is collected and written.  At each of these it may end with a
fault.  There would be time for a part of the output to be written before that, and for the fault of a
later template to come first.  Neither happens.

The invariant says it stage by stage (`Session.Sound`).  Until the session ends nothing is put out and
nothing is complained of; the batch agrees with the history in which the templates were added one after
the other, whatever the workers have done; and at the end there stands what the run gives without any
workers.  The log goes its own way: its lines go to the same stream as complaints, at any time before the
end, and nothing is said of them.

## Contents
- **Sessions.** `Streams`, `Stage` and `Session`; `Session.Step` and `Session.Reaches`.
- **What is collected.** `addedHistory`, `results_of_agrees` and `output_run_of_agrees`.
- **The invariant.** `Session.Sound`, kept by each step and so by every run.
- **Progress.** `Session.exists_ended`: a session can always come to its end.
- **All or nothing.** `Invocation.Ends`, and **`output_whole_or_empty`**.
-/

namespace Stencil.CommandLine

/-! ## Sessions -/

/-- What the program has written: what it has put out, and to the error stream what it complains of.  The
lines of the log, which go to the error stream as well, are kept apart from the complaints. -/
structure Streams where
  output : Text
  complaint : Text
  log : List LogRecord

/-- The log aside, the same has been written. -/
def Streams.Same (streams before : Streams) : Prop :=
  streams.output = before.output ∧ streams.complaint = before.complaint

/-- How far the program has come. -/
inductive Stage where
  /-- Nothing has been read. -/
  | starting
  /-- The batch is at work; these files are still to be added to it. -/
  | working (setup : Setup) (workshop : Workshop) (files : List Text)
  | ended (ending : Ending)

/-- The program at work. -/
structure Session where
  stage : Stage
  streams : Streams

/-- The program has not come to its end. -/
def Stage.Open (stage : Stage) : Prop :=
  ∀ ending, stage ≠ .ended ending

/-- The files that are added to the batch. -/
def Task.queued : Task → List Text
  | .render files | .report files => files
  | .ast _ => []

namespace Session

/-- The program has just been called; something may stand in the streams already. -/
def start (before : Streams) : Session :=
  ⟨.starting, before⟩

/-- The program ends with a fault: it complains of it, if the exception is caught. -/
def failed (fault : RunFault) (streams : Streams) : Session :=
  ⟨.ended fault.ending, { streams with complaint := streams.complaint ++ fault.complaint }⟩

/-- The program writes something, and ends well. -/
def written (text : Text) (streams : Streams) : Session :=
  ⟨.ended (.exit 0), { streams with output := streams.output ++ text }⟩

/-- The end of a program from which something comes. -/
def finished (outcome : Except RunFault Text) (streams : Streams) : Session :=
  match outcome with
  | .ok text => written text streams
  | .error fault => failed fault streams

/-- **One step of the program.**  Workers go on while templates are added, in any order.  What the log is
told is left open. -/
inductive Step (invocation : Invocation) (found : Surroundings) : Session → Session → Prop
  | note {stage : Stage} {streams : Streams} (record : LogRecord) (hopen : stage.Open) :
      Step invocation found ⟨stage, streams⟩
        ⟨stage, { streams with log := streams.log ++ [record] }⟩
  | refuseInput {streams : Streams} {fault : RunFault}
      (hsetup : invocation.setup found = .error fault) :
      Step invocation found ⟨.starting, streams⟩ (failed fault streams)
  | takeInput {streams : Streams} {setup : Setup} (hsetup : invocation.setup found = .ok setup) :
      Step invocation found ⟨.starting, streams⟩
        ⟨.working setup ⟨setup.batch, found.disk, fun _ => none⟩ invocation.task.queued, streams⟩
  | add {streams : Streams} {setup : Setup} {w : Workshop} {file : Text} {files : List Text}
      {slot : Nat} {batch : Batch}
      (hadd : w.batch.add file setup.locals.toBindings = .ok (slot, batch)) :
      Step invocation found ⟨.working setup w (file :: files), streams⟩
        ⟨.working setup { w with batch } files, streams⟩
  | refuse {streams : Streams} {setup : Setup} {w : Workshop} {file : Text} {files : List Text}
      {fault : BatchFault} (hadd : w.batch.add file setup.locals.toBindings = .error fault) :
      Step invocation found ⟨.working setup w (file :: files), streams⟩
        (failed (.batch fault) streams)
  /-- A worker reads a template, or has rendered what it has read. -/
  | work {streams : Streams} {setup : Setup} {w w' : Workshop} {files : List Text} {event : Event}
      (hevent : event.command? = none) (hstep : w.Step event w') :
      Step invocation found ⟨.working setup w files, streams⟩ ⟨.working setup w' files, streams⟩
  /-- The document is made, and written behind what stands in the stream. -/
  | render {streams : Streams} {setup : Setup} {w : Workshop} {files : List Text}
      {document output : Text} {batch : Batch} (htask : invocation.task = .render files)
      (hupdate : w.batch.update w.disk streams.output = (.ok document, output, batch)) :
      Step invocation found ⟨.working setup w [], streams⟩ ⟨.ended (.exit 0), { streams with output }⟩
  | renderFault {streams : Streams} {setup : Setup} {w : Workshop} {files : List Text}
      {fault : TemplateFault} {output : Text} {batch : Batch} (htask : invocation.task = .render files)
      (hupdate : w.batch.update w.disk streams.output = (.error fault, output, batch)) :
      Step invocation found ⟨.working setup w [], streams⟩
        (failed (.template fault) { streams with output })
  /-- The results are collected, and the report on them is written if there is no fault among them. -/
  | report {streams : Streams} {setup : Setup} {w : Workshop} {files : List Text}
      (htask : invocation.task = .report files) :
      Step invocation found ⟨.working setup w [], streams⟩
        (finished (((w.batch.results w.disk).1.map fun renderings =>
          (Report.ofRenderings (files.zip renderings)).write invocation.options.layered).mapError
            .template) streams)
  | outline {streams : Streams} {setup : Setup} {w : Workshop} {file : Text}
      (htask : invocation.task = .ast file) :
      Step invocation found ⟨.working setup w [], streams⟩
        (finished (outlineOf w.disk w.batch file).output streams)

/-- Some steps lead from one session to another. -/
abbrev Reaches (invocation : Invocation) (found : Surroundings) : Session → Session → Prop :=
  Relation.ReflTransGen (Step invocation found)

end Session

/-! ## What is collected -/

section Collecting

variable {setup : Setup} {root templates : Text} {disk : Disk} {w : Workshop}

/-- The history of a batch to which some files are added. -/
def addedHistory (setup : Setup) (disk : Disk) (files : List Text) : History :=
  History.after ⟨setup.batch.globals, disk, []⟩
    (files.map fun file => .add file setup.locals.toBindings)

/-- What is ordered for a file. -/
def orderOf (setup : Setup) (root templates : Text) (disk : Disk) (file : Text) : Order :=
  ⟨file, root, templates, setup.locals.toBindings, setup.batch.globals, disk⟩

/-- Every file is ordered, with the same folders and variables. -/
theorem addedHistory_eq (h : setup.batch.Ready root templates) (files : List Text) :
    addedHistory setup disk files =
      ⟨setup.batch.globals, disk, files.map (orderOf setup root templates disk)⟩ := by
  have hfrom : ∀ orders : List Order,
      History.after ⟨setup.batch.globals, disk, orders⟩
          (files.map fun file => .add file setup.locals.toBindings) =
        ⟨setup.batch.globals, disk, orders ++ files.map (orderOf setup root templates disk)⟩ := by
    induction files with
    | nil =>
      intro orders
      simp [History.after]
    | cons file rest ih =>
      intro orders
      have hstep : History.step ⟨setup.batch.globals, disk, orders⟩
          (.add file setup.locals.toBindings) =
            ⟨setup.batch.globals, disk, orders ++ [orderOf setup root templates disk file]⟩ := by
        simp only [History.step, h.rootFolder, h.templatesFolder]
        rfl
      show History.after (History.step _ _) _ = _
      rw [hstep, ih, List.map_cons, List.append_assoc]
      rfl
  exact hfrom []

/-- One more file. -/
theorem addedHistory_concat (files : List Text) (file : Text) :
    addedHistory setup disk (files ++ [file]) =
      (addedHistory setup disk files).step (.add file setup.locals.toBindings) := by
  unfold addedHistory History.after
  rw [List.map_append, List.foldl_append]
  rfl

/-- A batch that has not been given a template yet agrees with an empty history. -/
theorem agrees_of_ready (h : setup.batch.Ready root templates) :
    Workshop.Agrees setup.batch.strict (addedHistory setup disk [])
      ⟨setup.batch, disk, fun _ => none⟩ where
  mode := rfl
  accepting := h.accepting
  globals := rfl
  disk := rfl
  slots := by
    show List.Forall₂ _ [] setup.batch.pending
    rw [h.pending]
    exact .nil
  underway := fun _ _ hseen => nomatch hseen

/-- **What is collected from a batch at work** is what comes of the jobs one by one. -/
theorem results_of_agrees (h : setup.batch.Ready root templates) {files : List Text}
    (hagrees : Workshop.Agrees setup.batch.strict (addedHistory setup disk files) w) :
    (w.batch.results w.disk).1 =
      ((withJobs setup.batch root templates setup.locals files).results disk).1 := by
  have hresults := hagrees.results
  rw [addedHistory_eq h] at hresults
  rw [hresults]
  unfold Batch.results withJobs
  apply mapM_congr_map
  rw [List.map_map, List.map_map]
  apply List.map_congr_left
  intro file _
  exact (Order.result_run setup.batch.strict (orderOf setup root templates disk file)).symm

/-- An outline depends on the folders and on how strict the batch is. -/
theorem outlineOf_congr {batch other : Batch} (hglobals : batch.globals = other.globals)
    (hstrict : batch.strict = other.strict) (disk : Disk) (file : Text) :
    outlineOf disk batch file = outlineOf disk other file := by
  have hpath : batch.templatePath file = other.templatePath file := by
    unfold Batch.templatePath Batch.rootFolder Batch.templatesFolder Batch.global
    rw [hglobals]
  unfold outlineOf
  rw [hpath, hstrict]

end Collecting

/-! ## The invariant -/

section Collected

variable {invocation : Invocation} {found : Surroundings} {setup : Setup} {w : Workshop}
  {files : List Text}

/-- The output of a run, where the batch at work has been given all templates. -/
theorem output_run_of_agrees (hsetup : invocation.setup found = .ok setup)
    (hagrees : Workshop.Agrees setup.batch.strict
      (addedHistory setup found.disk invocation.task.queued) w) :
    (invocation.run found).output =
      match invocation.task with
      | .render _ => ((w.batch.results w.disk).1.map fun renderings =>
          renderings.flatMap Rendering.text).mapError .template
      | .report files => ((w.batch.results w.disk).1.map fun renderings =>
          (Report.ofRenderings (files.zip renderings)).write invocation.options.layered).mapError
            .template
      | .ast file => (outlineOf w.disk w.batch file).output := by
  obtain ⟨root, templates, hready⟩ := Invocation.exists_ready_of_setup hsetup
  have hresults := results_of_agrees hready hagrees
  unfold Invocation.run
  rw [hsetup]
  dsimp only
  cases htask : invocation.task with
  | render files =>
    rw [htask] at hresults
    simp only [perform, queue_of_ready hready]
    rw [Batch.fst_update, hresults]
    rfl
  | report files =>
    rw [htask] at hresults
    simp only [perform, queue_of_ready hready]
    rw [hresults]
    rfl
  | ast file =>
    have hglobals : setup.batch.globals = w.batch.globals := by
      rw [hagrees.globals, addedHistory_eq hready]
    have hdisk : w.disk = found.disk := by
      rw [hagrees.disk, addedHistory_eq hready]
    show (outlineOf found.disk setup.batch file).output = _
    rw [hdisk, outlineOf_congr hglobals hagrees.mode.symm]

/-- A document that is made of a batch at work is the output of the run, and it is put behind what is
written already; nothing is, if there is a fault. -/
theorem output_of_update (hsetup : invocation.setup found = .ok setup)
    (hagrees : Workshop.Agrees setup.batch.strict
      (addedHistory setup found.disk invocation.task.queued) w)
    (htask : invocation.task = .render files) {written output : Text} {batch : Batch}
    {document : Except TemplateFault Text}
    (hupdate : w.batch.update w.disk written = (document, output, batch)) :
    (invocation.run found).output = document.mapError .template ∧
      output = written ++ document.toOption.getD [] := by
  have hrun := output_run_of_agrees hsetup hagrees
  rw [Batch.update_eq] at hupdate
  obtain ⟨rfl, hwritten⟩ := Prod.mk.inj hupdate
  obtain ⟨rfl, -⟩ := Prod.mk.inj hwritten
  rw [htask] at hrun
  exact ⟨hrun, rfl⟩

end Collected

namespace Session

/-- The program has ended as an answer says, with what the answer holds behind what was written before. -/
structure Leaves (left : Answer) (before : Streams) (ending : Ending) (after : Streams) : Prop where
  ending : ending = left.ending
  output : after.output = before.output ++ left.output
  complaint : after.complaint = before.complaint ++ left.complaint

/-- **What a session has come to, stage by stage.**  Nothing is written while the batch is at work, and at
the end there stands what the run leaves behind. -/
def Sound (invocation : Invocation) (found : Surroundings) (before : Streams) (session : Session) :
    Prop :=
  match session.stage with
  | .starting => session.streams.Same before
  | .working setup w files =>
    session.streams.Same before ∧ invocation.setup found = .ok setup ∧
      ∃ added, added ++ files = invocation.task.queued ∧
        Workshop.Agrees setup.batch.strict (addedHistory setup found.disk added) w
  | .ended ending => Leaves (Answer.ofRun (invocation.run found)) before ending session.streams

section Invariant

variable {invocation : Invocation} {found : Surroundings} {before streams : Streams}
  {session next : Session}

/-- A session that ends as the run does is sound. -/
theorem sound_finished (hsame : streams.Same before) {outcome : Except RunFault Text}
    (h : (invocation.run found).output = outcome) :
    Sound invocation found before (finished outcome streams) := by
  obtain ⟨houtput, hcomplaint⟩ := hsame
  cases outcome with
  | ok text =>
    show Leaves (Answer.ofRun (invocation.run found)) before _ _
    rw [Answer.ofRun_of_ok h]
    exact ⟨rfl, congrArg (· ++ text) houtput, hcomplaint.trans (List.append_nil _).symm⟩
  | error fault =>
    show Leaves (Answer.ofRun (invocation.run found)) before _ _
    rw [Answer.ofRun_of_error h]
    exact ⟨rfl, houtput.trans (List.append_nil _).symm, congrArg (· ++ fault.complaint) hcomplaint⟩

/-- What is sound at work, with all templates added. -/
theorem Sound.agrees {setup : Setup} {w : Workshop} {streams : Streams}
    (h : Sound invocation found before ⟨.working setup w [], streams⟩) :
    streams.Same before ∧ invocation.setup found = .ok setup ∧
      Workshop.Agrees setup.batch.strict (addedHistory setup found.disk invocation.task.queued) w := by
  obtain ⟨hstreams, hsetup, added, hadded, hagrees⟩ := h
  rw [List.append_nil] at hadded
  rw [← hadded]
  exact ⟨hstreams, hsetup, hagrees⟩

/-- **Every step keeps a session sound.** -/
theorem Sound.step (hsound : Sound invocation found before session)
    (hstep : Step invocation found session next) : Sound invocation found before next := by
  cases hstep with
  | @note stage streams record hopen =>
    -- the log is not looked at
    cases stage with
    | starting => exact hsound
    | working setup w files => exact hsound
    | ended ending => exact absurd rfl (hopen ending)
  | @refuseInput streams fault hsetup =>
    have hrun : (invocation.run found).output = .error fault := Invocation.output_of_setup hsetup
    have hsame : streams.Same before := hsound
    exact sound_finished hsame hrun
  | @takeInput streams setup hsetup =>
    obtain ⟨root, templates, hready⟩ := Invocation.exists_ready_of_setup hsetup
    exact ⟨hsound, hsetup, [], rfl, agrees_of_ready hready⟩
  | @add streams setup w file files slot batch hadd =>
    obtain ⟨hstreams, hsetup, added, hadded, hagrees⟩ := hsound
    refine ⟨hstreams, hsetup, added ++ [file], ?_, ?_⟩
    · rw [← hadded, List.append_assoc]
      rfl
    · rw [addedHistory_concat]
      exact hagrees.add hadd
  | @refuse streams setup w file files fault hadd =>
    -- the folders are there, so that no template is refused
    obtain ⟨hstreams, hsetup, added, hadded, hagrees⟩ := hsound
    obtain ⟨root, templates, hready⟩ := Invocation.exists_ready_of_setup hsetup
    have hglobals : w.batch.globals = setup.batch.globals := by
      rw [hagrees.globals, addedHistory_eq hready]
    have hroot := hready.rootFolder
    have htemplates := hready.templatesFolder
    rw [← hglobals] at hroot htemplates
    rw [Batch.add_of_folders hagrees.accepting hroot htemplates] at hadd
    cases hadd
  | @work streams setup w w' files event hevent hstep =>
    obtain ⟨hstreams, hsetup, added, hadded, hagrees⟩ := hsound
    have hafter := hagrees.step hstep
    have hnone : commandsOf [event] = [] := by
      unfold commandsOf
      rw [List.filterMap_cons, hevent]
      rfl
    rw [hnone] at hafter
    exact ⟨hstreams, hsetup, added, hadded, hafter⟩
  | @render streams setup w files document output batch htask hupdate =>
    obtain ⟨hsame, hsetup, hagrees⟩ := hsound.agrees
    obtain ⟨hrun, rfl⟩ := output_of_update hsetup hagrees htask hupdate
    exact sound_finished hsame hrun
  | @renderFault streams setup w files fault output batch htask hupdate =>
    obtain ⟨hsame, hsetup, hagrees⟩ := hsound.agrees
    obtain ⟨hrun, houtput⟩ := output_of_update hsetup hagrees htask hupdate
    -- nothing is added to what stands in the stream
    obtain rfl : output = streams.output := houtput.trans (List.append_nil _)
    exact sound_finished hsame hrun
  | @report streams setup w files htask =>
    obtain ⟨hsame, hsetup, hagrees⟩ := hsound.agrees
    have hrun := output_run_of_agrees hsetup hagrees
    rw [htask] at hrun
    exact sound_finished hsame hrun
  | @outline streams setup w file htask =>
    obtain ⟨hsame, hsetup, hagrees⟩ := hsound.agrees
    have hrun := output_run_of_agrees hsetup hagrees
    rw [htask] at hrun
    exact sound_finished hsame hrun

/-- **Every run keeps a session sound.** -/
theorem Sound.reaches (hsound : Sound invocation found before session)
    (hreaches : Reaches invocation found session next) : Sound invocation found before next := by
  induction hreaches with
  | refl => exact hsound
  | tail _ hstep ih => exact ih.step hstep

end Invariant

/-! ## Progress -/

section Progress

variable {invocation : Invocation} {found : Surroundings} {before : Streams}

theorem exists_finished (outcome : Except RunFault Text) (streams : Streams) :
    ∃ ending after, finished outcome streams = ⟨.ended ending, after⟩ := by
  cases outcome with
  | ok text => exact ⟨_, _, rfl⟩
  | error fault => exact ⟨_, _, rfl⟩

/-- With all templates added the program can end, whatever the workers have done. -/
theorem exists_step_ending (setup : Setup) (w : Workshop) (streams : Streams) :
    ∃ ending after, Step invocation found ⟨.working setup w [], streams⟩ ⟨.ended ending, after⟩ := by
  cases htask : invocation.task with
  | render files =>
    cases hupdate : w.batch.update w.disk streams.output with
    | mk outcome rest =>
      obtain ⟨output, batch⟩ := rest
      cases outcome with
      | ok document => exact ⟨_, _, .render htask hupdate⟩
      | error fault => exact ⟨_, _, .renderFault htask hupdate⟩
  | report files =>
    have hstep : Step invocation found ⟨.working setup w [], streams⟩ _ := .report htask
    obtain ⟨ending, after, hfinished⟩ := exists_finished _ streams
    rw [hfinished] at hstep
    exact ⟨ending, after, hstep⟩
  | ast file =>
    have hstep : Step invocation found ⟨.working setup w [], streams⟩ _ := .outline htask
    obtain ⟨ending, after, hfinished⟩ := exists_finished _ streams
    rw [hfinished] at hstep
    exact ⟨ending, after, hstep⟩

/-- A program at work can add the templates that are left, and end. -/
theorem exists_ended_working (setup : Setup) (files : List Text) (w : Workshop) (streams : Streams) :
    ∃ ending after,
      Reaches invocation found ⟨.working setup w files, streams⟩ ⟨.ended ending, after⟩ := by
  induction files generalizing w with
  | nil =>
    obtain ⟨ending, after, hstep⟩ := @exists_step_ending invocation found setup w streams
    exact ⟨ending, after, .single hstep⟩
  | cons file rest ih =>
    cases hadd : w.batch.add file setup.locals.toBindings with
    | error fault => exact ⟨_, _, .single (.refuse hadd)⟩
    | ok added =>
      obtain ⟨slot, batch⟩ := added
      obtain ⟨ending, after, hrest⟩ := ih { w with batch }
      exact ⟨ending, after, .head (.add hadd) hrest⟩

/-- **A program can always come to its end.** -/
theorem exists_ended (session : Session) :
    ∃ ending after, Reaches invocation found session ⟨.ended ending, after⟩ := by
  obtain ⟨stage, streams⟩ := session
  cases stage with
  | starting =>
    cases hsetup : invocation.setup found with
    | error fault => exact ⟨_, _, .single (.refuseInput hsetup)⟩
    | ok setup =>
      obtain ⟨ending, after, hrest⟩ := @exists_ended_working invocation found setup
        invocation.task.queued ⟨setup.batch, found.disk, fun _ => none⟩ streams
      exact ⟨ending, after, .head (.takeInput hsetup) hrest⟩
  | working setup w files => exact exists_ended_working setup files w streams
  | ended ending => exact ⟨ending, streams, .refl⟩

end Progress

end Session

/-! ## All or nothing -/

/-- **How a program may end**, with what it has written by then. -/
structure Invocation.Ends (invocation : Invocation) (found : Surroundings) (before : Streams)
    (ending : Ending) (after : Streams) : Prop where
  /-- With a fault nothing is put out, whether it is caught or not. -/
  empty : ending ≠ .exit 0 → after.output = before.output
  /-- Without one nothing is complained of, and the output is that of all files, in order. -/
  whole : ending = .exit 0 → after.complaint = before.complaint ∧ ∃ setup output,
    invocation.setup found = .ok setup ∧ after.output = before.output ++ output ∧
      invocation.task.PutsOut invocation.options.layered (setup.Renders found.disk)
        (setup.Parses found.disk) output
  sound : ending = .exit 0 ↔ invocation.faults found = []
  /-- Of several faults the first one ends the program. -/
  first : ∀ fault, (invocation.faults found).head? = some fault →
    ending = fault.ending ∧ after.complaint = before.complaint ++ fault.complaint

section Ending

variable {invocation : Invocation} {found : Surroundings} {before : Streams}

/-- The end of a session that is sound is all or nothing. -/
theorem Session.Leaves.ends {ending : Ending} {after : Streams}
    (h : Session.Leaves (Answer.ofRun (invocation.run found)) before ending after) :
    invocation.Ends found before ending after := by
  obtain ⟨hending, hwritten, hcomplaint⟩ := h
  have hfirst : faultOf? (invocation.run found).output = _ := Invocation.faultOf?_run
  cases houtput : (invocation.run found).output with
  | ok output =>
    -- what is told is the first fault of all, so that there is none
    have hleft := Answer.ofRun_of_ok houtput
    rw [houtput] at hfirst
    have hnone : invocation.faults found = [] := List.head?_eq_none_iff.1 hfirst.symm
    have hzero : (Answer.ofRun (invocation.run found)).ending = .exit 0 := by rw [hleft]
    refine ⟨fun hne => absurd (hending.trans hzero) hne, fun _ => ⟨?_, ?_⟩,
      iff_of_true (hending.trans hzero) hnone, ?_⟩
    · rw [hcomplaint, hleft, List.append_nil]
    · obtain ⟨setup, hsetup, hputs⟩ := putsOut_of_ending hzero
      exact ⟨setup, _, hsetup, hwritten, hputs⟩
    · intro fault hfault
      rw [hnone] at hfault
      cases hfault
  | error fault =>
    rw [houtput] at hfirst
    have hhead : (invocation.faults found).head? = some fault := hfirst.symm
    rw [Answer.ofRun_of_error houtput] at hending hwritten hcomplaint
    dsimp only at hending hwritten hcomplaint
    rw [List.append_nil] at hwritten
    subst hending
    refine ⟨fun _ => hwritten, fun hzero => absurd hzero fault.ending_ne_exit_zero, ?_, ?_⟩
    · refine iff_of_false fault.ending_ne_exit_zero fun hnone => ?_
      rw [hnone] at hhead
      cases hhead
    · intro other hother
      rw [hhead] at hother
      obtain rfl := Option.some.inj hother
      exact ⟨rfl, hcomplaint⟩

end Ending

/-- **The output of a run is all or nothing**, in whatever order workers do their jobs.  Of what is written
only the lines of the log are left out: nothing is said of them, and they may come at any time.  Until the
program ends nothing is put out or complained of, and it can always come to its end.  If it ends with a
fault, caught or not, nothing has been put out, though other templates may have been rendered; the fault is
the first one in a fixed order: the file of variables, the items for local variables, the settings, the
items for global variables, and the templates.  If it ends well nothing is complained of, and what is put
out is what comes of all files, in order.  The end is that of the answer to the arguments. -/
theorem output_whole_or_empty {arguments : List Text} {invocation : Invocation}
    (h : Invocation.ofArguments arguments = .ok invocation) (found : Surroundings)
    (before : Streams) :
    (∀ session, Session.Reaches invocation found (.start before) session →
      (session.stage.Open → session.streams.Same before) ∧
      (∀ ending, session.stage = .ended ending →
        invocation.Ends found before ending session.streams) ∧
      ∃ ending after, Session.Reaches invocation found session ⟨.ended ending, after⟩) ∧
    ∀ ending output complaint,
      (∃ log, Session.Reaches invocation found (.start before)
          ⟨.ended ending, ⟨output, complaint, log⟩⟩) ↔
        ending = (answer found arguments).ending ∧
          output = before.output ++ (answer found arguments).output ∧
          complaint = before.complaint ++ (answer found arguments).complaint := by
  have hanswer : answer found arguments = Answer.ofRun (invocation.run found) := by
    rw [answer, h]
  have hsound {session : Session}
      (hreaches : Session.Reaches invocation found (.start before) session) :
      Session.Sound invocation found before session :=
    Session.Sound.reaches (show Session.Sound _ _ _ (.start before) from ⟨rfl, rfl⟩) hreaches
  refine ⟨fun session hreaches => ⟨fun hopen => ?_, fun ending hended => ?_, session.exists_ended⟩,
    fun ending output complaint => ⟨?_, ?_⟩⟩
  · have hkept := hsound hreaches
    obtain ⟨stage, streams⟩ := session
    cases stage with
    | starting => exact hkept
    | working setup w files => exact hkept.1
    | ended ending => exact absurd rfl (hopen ending)
  · have hkept := hsound hreaches
    obtain ⟨stage, streams⟩ := session
    obtain rfl : stage = .ended ending := hended
    exact Session.Leaves.ends hkept
  · rintro ⟨log, hreaches⟩
    have hleaves : Session.Leaves (Answer.ofRun (invocation.run found)) before ending
        ⟨output, complaint, log⟩ := hsound hreaches
    rw [hanswer]
    exact ⟨hleaves.ending, hleaves.output, hleaves.complaint⟩
  · rintro ⟨rfl, rfl, rfl⟩
    -- there is an end, and it is no other
    obtain ⟨ending, after, hreaches⟩ := @Session.exists_ended invocation found (.start before)
    obtain ⟨output, complaint, log⟩ := after
    have hleaves : Session.Leaves (Answer.ofRun (invocation.run found)) before ending
        ⟨output, complaint, log⟩ := hsound hreaches
    obtain ⟨rfl, houtput, hcomplaint⟩ := hleaves
    dsimp only at houtput hcomplaint
    subst houtput
    subst hcomplaint
    rw [hanswer]
    exact ⟨log, hreaches⟩

/-- The first of three templates is there and the others are missing: nothing is put out of the first, and
it is the second that is told. -/
theorem output_whole_or_empty_missing :
    let disk : Disk := fun path =>
      if path = templatePath Settings.defaultRoot Settings.defaultTemplates ['a'] then .file [0x78]
      else .missing
    let found : Surroundings := ⟨disk, Text.of "/work", Yaml.loader⟩
    let invocation : Invocation := ⟨.render [['a'], ['b'], ['c']], {}⟩
    Invocation.ofArguments [Text.of "render", ['a'], ['b'], ['c']] = .ok invocation ∧
      ∀ ending output complaint,
        (∃ log, Session.Reaches invocation found (.start ⟨[], [], []⟩)
            ⟨.ended ending, ⟨output, complaint, log⟩⟩) ↔
          ending = .exit 2 ∧ output = [] ∧
            complaint = Text.of "Template not found: templates/b\n" := by
  intro disk found invocation
  have hinvocation : Invocation.ofArguments [Text.of "render", ['a'], ['b'], ['c']] =
      .ok invocation := by decide +kernel
  have hending : (answer found [Text.of "render", ['a'], ['b'], ['c']]).ending =
      .exit 2 := by decide +kernel
  have houtput : (answer found [Text.of "render", ['a'], ['b'], ['c']]).output = [] := by
    decide +kernel
  have hcomplaint : (answer found [Text.of "render", ['a'], ['b'], ['c']]).complaint =
      Text.of "Template not found: templates/b\n" := by
    decide +kernel
  refine ⟨hinvocation, fun ending output complaint => ?_⟩
  have hends := (output_whole_or_empty hinvocation found ⟨[], [], []⟩).2 ending output complaint
  rw [hending, houtput, hcomplaint] at hends
  exact hends

end Stencil.CommandLine
