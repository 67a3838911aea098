import Mathlib.Data.List.Forall2
import Stencil.Proofs.Batch.History
import Stencil.Proofs.FirstFault
import Stencil.Proofs.Marker.Shape

/-!
# `Stencil.Proofs.Batch.Schedule` — the order in which jobs are done does not matter

Workers take the jobs of a batch at any time and in any order: one reads its template, and some time
later it is done.  Meanwhile more templates are added, global variables are changed, and files are
written, though not one whose template is still to be rendered (`Workshop.Step`).

Whatever happens, the slots of the batch serve the orders of its history, slot by slot
(`Workshop.Agrees`).  A step of a worker does not show in the history at all.  So what is collected is
what was promised.

## Contents
- **A batch at work.** `Workshop`, `Event`, `Workshop.Step` and `Workshop.Run`.
- **Slots and orders.** `Serves`.
- **The invariant.** `Workshop.Agrees`, kept by each step and so by every run.
- **Progress.** `Workshop.exists_finished`: the workers alone come to an end.
- **`results_of_run`**.
-/

namespace Stencil

/-! ## A batch at work -/

/-- A batch, the disk, and for each slot whose job is under way the disk as its worker has read it. -/
structure Workshop where
  batch : Batch
  disk : Disk
  underway : Nat → Option Disk

/-- What happens in a workshop: a command, or a worker at a slot. -/
inductive Event where
  | tell (command : Command)
  | read (index : Nat)
  | finish (index : Nat)

/-- The command that an event is, if it is one. -/
def Event.command? : Event → Option Command
  | .tell command => some command
  | .read _ | .finish _ => none

/-- The commands among some events. -/
def commandsOf (events : List Event) : List Command :=
  events.filterMap Event.command?

namespace Workshop

/-- Nothing has happened to a new batch yet. -/
def start (given : List (Key × Value)) (root templates : Value) (strict : Bool) (disk : Disk) :
    Workshop :=
  ⟨Batch.create (Mapping.ofList given) root templates strict, disk, fun _ => none⟩

/-- A worker has read the template of a slot. -/
def readAt (w : Workshop) (index : Nat) : Workshop :=
  { w with underway := fun i => if i = index then some w.disk else w.underway i }

/-- The job of a slot is done, with the template as it was read. -/
def finishAt (w : Workshop) (index : Nat) (seen : Disk) : Workshop :=
  { w with
    batch := w.batch.finishSlot seen index
    underway := fun i => if i = index then none else w.underway i }

/-- What may happen next, and what becomes of it. -/
inductive Step : Workshop → Event → Workshop → Prop
  /-- A template is added. -/
  | add {w : Workshop} {file : Text} {locals : Bindings} {index : Nat} {batch : Batch}
      (hadd : w.batch.add file locals = .ok (index, batch)) :
      Step w (.tell (.add file locals)) { w with batch }
  /-- A template is refused. -/
  | refuse {w : Workshop} {file : Text} {locals : Bindings} {fault : BatchFault}
      (hadd : w.batch.add file locals = .error fault) :
      Step w (.tell (.add file locals)) w
  | setGlobal {w : Workshop} (key : Key) (value : Value) :
      Step w (.tell (.setGlobal key value)) { w with batch := w.batch.setGlobal key value }
  /-- Files are written; those of templates that are still to be rendered stay as they are. -/
  | write {w : Workshop} {disk : Disk}
      (hkeep : ∀ slot ∈ w.batch.pending, slot.outcome? = none →
        disk slot.job.path = w.disk slot.job.path) :
      Step w (.tell (.write disk)) { w with disk }
  /-- A worker takes a job that nobody has taken, and reads the template. -/
  | read {w : Workshop} {index : Nat} {slot : Batch.Slot}
      (hslot : w.batch.pending[index]? = some slot) (hwaiting : slot.outcome? = none)
      (hfree : w.underway index = none) :
      Step w (.read index) (w.readAt index)
  /-- A worker has rendered what it has read. -/
  | finish {w : Workshop} {index : Nat} {seen : Disk} (hseen : w.underway index = some seen) :
      Step w (.finish index) (w.finishAt index seen)

/-- What may come of a workshop by some events, one after the other. -/
inductive Run : Workshop → List Event → Workshop → Prop
  | done {w : Workshop} : Run w [] w
  | step {w w₁ w₂ : Workshop} {event : Event} {events : List Event} (hstep : Step w event w₁)
      (hrun : Run w₁ events w₂) : Run w (event :: events) w₂

end Workshop

/-! ## Slots and orders -/

/-- A slot serves an order: it has its job, and either the file is still as it was or the job was done as
if it were. -/
structure Serves (strict : Bool) (disk : Disk) (order : Order) (slot : Batch.Slot) : Prop where
  job : slot.job = order.job
  waiting : slot.outcome? = none → disk order.path = order.disk order.path
  done : ∀ outcome, slot.outcome? = some outcome → outcome = order.job.run order.disk strict

section Slots

variable {strict : Bool} {disk : Disk} {order : Order} {slot : Batch.Slot}

/-- What comes of a slot is what was promised, whether its job is done already or only now. -/
theorem Serves.outcome (h : Serves strict disk order slot) {seen : Disk}
    (hseen : slot.outcome? = none → seen order.path = disk order.path) :
    slot.outcome seen strict = order.job.run order.disk strict := by
  rw [Batch.Slot.outcome]
  cases hdone : slot.outcome? with
  | some outcome => exact h.done outcome hdone
  | none =>
    rw [h.job]
    exact Job.run_congr ((hseen hdone).trans (h.waiting hdone)) strict

/-- A slot whose job has been done serves its order still. -/
theorem Serves.finish (h : Serves strict disk order slot) {seen : Disk}
    (hseen : seen order.path = disk order.path) :
    Serves strict disk order (slot.finish seen strict) where
  job := h.job
  waiting := fun hnone => nomatch hnone
  done := fun _ houtcome => (Option.some.inj houtcome).symm.trans (h.outcome fun _ => hseen)

/-- Files may be written, if not the one that is still to be read. -/
theorem Serves.write (h : Serves strict disk order slot) {other : Disk}
    (hkeep : slot.outcome? = none → other slot.job.path = disk slot.job.path) :
    Serves strict other order slot where
  job := h.job
  waiting := fun hnone => by
    have hpath := hkeep hnone
    rw [h.job] at hpath
    exact hpath.trans (h.waiting hnone)
  done := h.done

end Slots

section Lists

variable {α β : Type} {R S : α → β → Prop} {items : List α} {others : List β}

/-- A relation of two lists is changed into another one that all items of the second list are ready
for. -/
theorem forall₂_imp_of_mem (h : List.Forall₂ R items others)
    (himp : ∀ other ∈ others, ∀ item, R item other → S item other) :
    List.Forall₂ S items others := by
  induction h with
  | nil => exact .nil
  | cons hhead _ ih =>
    refine .cons (himp _ List.mem_cons_self _ hhead) (ih fun other hother => ?_)
    exact himp other (List.mem_cons_of_mem _ hother)

/-- Changing one item of a list keeps the relation to another list, if it keeps it there. -/
theorem forall₂_modify {f : β → β} {index : Nat} (h : List.Forall₂ R items others)
    (hchange : ∀ other, others[index]? = some other → ∀ item, R item other → R item (f other)) :
    List.Forall₂ R items (others.modify index f) := by
  induction h generalizing index with
  | nil => rw [List.modify_nil]; exact .nil
  | cons hhead htail ih =>
    cases index with
    | zero =>
      rw [List.modify_zero_cons]
      exact .cons (hchange _ rfl _ hhead) htail
    | succ index =>
      rw [List.modify_succ_cons]
      refine .cons hhead (ih fun other hother => hchange other ?_)
      rw [List.getElem?_cons_succ]
      exact hother

end Lists

/-- Changing one item so that it is not counted any more makes the count less. -/
theorem countP_modify_lt {α : Type} {p : α → Bool} {f : α → α} {items : List α} {index : Nat} {item : α}
    (hitem : items[index]? = some item) (hbefore : p item = true) (hafter : p (f item) = false) :
    (items.modify index f).countP p < items.countP p := by
  induction items generalizing index with
  | nil => cases hitem
  | cons first rest ih =>
    cases index with
    | zero =>
      obtain rfl : first = item := Option.some.inj hitem
      rw [List.modify_zero_cons, List.countP_cons, List.countP_cons, hbefore, hafter]
      simp
    | succ index =>
      rw [List.getElem?_cons_succ] at hitem
      rw [List.modify_succ_cons, List.countP_cons, List.countP_cons]
      exact Nat.add_lt_add_right (ih hitem) _

/-! ## The invariant -/

namespace Workshop

/-- **A workshop agrees with a history**: the same global variables and the same disk; the slots serve
the orders; and what a worker has read is still so on the disk. -/
structure Agrees (strict : Bool) (h : History) (w : Workshop) : Prop where
  mode : w.batch.strict = strict
  accepting : w.batch.accepting = true
  globals : w.batch.globals = h.globals
  disk : w.disk = h.disk
  slots : List.Forall₂ (Serves strict w.disk) h.orders w.batch.pending
  underway : ∀ index seen, w.underway index = some seen →
    ∃ slot, w.batch.pending[index]? = some slot ∧ slot.outcome? = none ∧
      seen slot.job.path = w.disk slot.job.path

theorem agrees_start (given : List (Key × Value)) (root templates : Value) (strict : Bool)
    (disk : Disk) :
    Agrees strict (History.start given root templates disk)
      (start given root templates strict disk) where
  mode := rfl
  accepting := rfl
  globals := rfl
  disk := rfl
  slots := .nil
  underway := fun _ _ hseen => nomatch hseen

section Steps

variable {strict : Bool} {h : History} {w w' : Workshop} {index : Nat}

/-- A template that is added is ordered. -/
theorem Agrees.add (hagrees : Agrees strict h w) {file : Text} {locals : Bindings} {batch : Batch}
    (hadd : w.batch.add file locals = .ok (index, batch)) :
    Agrees strict (h.step (.add file locals)) { w with batch } := by
  obtain ⟨root, templates, hroot, htemplates⟩ := Batch.exists_folders_of_add hadd
  rw [Batch.add_of_folders hagrees.accepting hroot htemplates] at hadd
  obtain ⟨_, rfl⟩ := Prod.mk.inj (Except.ok.inj hadd)
  rw [hagrees.globals] at hroot htemplates
  simp only [History.step, hroot, htemplates]
  refine ⟨hagrees.mode, hagrees.accepting, hagrees.globals, hagrees.disk, ?_, ?_⟩
  · refine List.rel_append hagrees.slots (.cons ⟨?_, fun _ => ?_, fun _ hdone => ?_⟩ .nil)
    · rw [hagrees.globals]
      rfl
    · exact congrFun hagrees.disk _
    · cases hdone
  · intro i seen hseen
    obtain ⟨slot, hslot, hwaiting, hpath⟩ := hagrees.underway i seen hseen
    have hi : i < w.batch.pending.length := (List.getElem?_eq_some_iff.1 hslot).1
    exact ⟨slot, (List.getElem?_append_left hi).trans hslot, hwaiting, hpath⟩

/-- A template that is refused is not ordered. -/
theorem Agrees.refuse (hagrees : Agrees strict h w) {file : Text} {locals : Bindings}
    {fault : BatchFault} (hadd : w.batch.add file locals = .error fault) :
    Agrees strict (h.step (.add file locals)) w := by
  have hkeep : h.step (.add file locals) = h := by
    rw [History.step]
    split
    next root templates hroot htemplates =>
      rw [← hagrees.globals] at hroot htemplates
      rw [Batch.add_of_folders hagrees.accepting hroot htemplates] at hadd
      cases hadd
    next => rfl
  rw [hkeep]
  exact hagrees

/-- Files are written, but none of those that are still to be rendered. -/
theorem Agrees.write (hagrees : Agrees strict h w) {disk : Disk}
    (hkeep : ∀ slot ∈ w.batch.pending, slot.outcome? = none →
      disk slot.job.path = w.disk slot.job.path) :
    Agrees strict (h.step (.write disk)) { w with disk } where
  mode := hagrees.mode
  accepting := hagrees.accepting
  globals := hagrees.globals
  disk := rfl
  slots := forall₂_imp_of_mem hagrees.slots fun slot hslot _ hserves =>
    hserves.write (hkeep slot hslot)
  underway := fun i seen hseen => by
    obtain ⟨slot, hslot, hwaiting, hpath⟩ := hagrees.underway i seen hseen
    refine ⟨slot, hslot, hwaiting, hpath.trans (hkeep slot ?_ hwaiting).symm⟩
    exact List.mem_of_getElem? hslot

theorem underway_readAt {i : Nat} {seen : Disk} (hseen : (w.readAt index).underway i = some seen) :
    (i = index ∧ seen = w.disk) ∨ w.underway i = some seen := by
  simp only [readAt] at hseen
  split at hseen
  next hi => exact .inl ⟨hi, (Option.some.inj hseen).symm⟩
  next => exact .inr hseen

/-- A worker that has read a template knows it as it is. -/
theorem Agrees.read (hagrees : Agrees strict h w) {slot : Batch.Slot}
    (hslot : w.batch.pending[index]? = some slot) (hwaiting : slot.outcome? = none) :
    Agrees strict h (w.readAt index) where
  mode := hagrees.mode
  accepting := hagrees.accepting
  globals := hagrees.globals
  disk := hagrees.disk
  slots := hagrees.slots
  underway := fun i seen hseen => by
    rcases underway_readAt hseen with ⟨rfl, rfl⟩ | hseen
    · exact ⟨slot, hslot, hwaiting, rfl⟩
    · exact hagrees.underway i seen hseen

theorem underway_finishAt {i : Nat} {seen other : Disk}
    (hother : (w.finishAt index seen).underway i = some other) :
    i ≠ index ∧ w.underway i = some other := by
  simp only [finishAt] at hother
  split at hother
  next => cases hother
  next hi => exact ⟨hi, hother⟩

/-- A job is done with what was read, and that is what was there when the template was added. -/
theorem Agrees.finish (hagrees : Agrees strict h w) {seen : Disk}
    (hseen : w.underway index = some seen) : Agrees strict h (w.finishAt index seen) where
  mode := hagrees.mode
  accepting := hagrees.accepting
  globals := hagrees.globals
  disk := hagrees.disk
  slots := by
    obtain ⟨slot, hslot, _, hpath⟩ := hagrees.underway index seen hseen
    refine forall₂_modify hagrees.slots fun other hother order hserves => ?_
    obtain rfl : slot = other := Option.some.inj (hslot.symm.trans hother)
    rw [hserves.job] at hpath
    rw [hagrees.mode]
    exact hserves.finish hpath
  underway := fun i other hother => by
    obtain ⟨hi, hother⟩ := underway_finishAt hother
    obtain ⟨slot, hslot, hwaiting, hpath⟩ := hagrees.underway i other hother
    refine ⟨slot, ?_, hwaiting, hpath⟩
    simp [finishAt, Batch.finishSlot, Ne.symm hi, hslot]

/-- **Every step keeps the agreement**: with the history one command longer if it was a command, and with
the same history if it was the step of a worker. -/
theorem Agrees.step (hagrees : Agrees strict h w) {event : Event} (hstep : Step w event w') :
    Agrees strict (h.after (commandsOf [event])) w' := by
  cases hstep with
  | add hadd => exact hagrees.add hadd
  | refuse hadd => exact hagrees.refuse hadd
  | setGlobal key value =>
    refine ⟨hagrees.mode, hagrees.accepting, ?_, hagrees.disk, hagrees.slots, hagrees.underway⟩
    exact congrArg (fun globals : Bindings => globals.insert key value) hagrees.globals
  | write hkeep => exact hagrees.write hkeep
  | read hslot hwaiting => exact hagrees.read hslot hwaiting
  | finish hseen => exact hagrees.finish hseen

/-- **Every run keeps the agreement.** -/
theorem Agrees.run (hagrees : Agrees strict h w) {events : List Event} (hrun : Run w events w') :
    Agrees strict (h.after (commandsOf events)) w' := by
  induction hrun generalizing h with
  | done => exact hagrees
  | step hstep _ ih =>
    have hafter := ih (hagrees.step hstep)
    rw [History.after, History.after, ← List.foldl_append, commandsOf, commandsOf,
      ← List.filterMap_append] at hafter
    exact hafter

end Steps

/-! ## Progress -/

/-- One run after the other. -/
theorem Run.trans {w w₁ w₂ : Workshop} {events more : List Event} (hrun : Run w events w₁)
    (hmore : Run w₁ more w₂) : Run w (events ++ more) w₂ := by
  induction hrun with
  | done => exact hmore
  | step hstep _ ih => exact .step hstep (ih hmore)

/-- The number of jobs that are not done. -/
def unfinished (w : Workshop) : Nat :=
  w.batch.pending.countP fun slot => slot.outcome?.isNone

/-- A job that is not done can be done by a worker, whether it is under way or not. -/
theorem exists_run_finishing {w : Workshop} {index : Nat} {slot : Batch.Slot}
    (hslot : w.batch.pending[index]? = some slot) (hwaiting : slot.outcome? = none) :
    ∃ events w', Run w events w' ∧ commandsOf events = [] ∧ w'.unfinished < w.unfinished := by
  have hfewer (seen : Disk) : (w.finishAt index seen).unfinished < w.unfinished :=
    countP_modify_lt hslot (by rw [hwaiting]; rfl) rfl
  cases hseen : w.underway index with
  | some seen => exact ⟨_, _, .step (.finish hseen) .done, rfl, hfewer seen⟩
  | none =>
    have hread : (w.readAt index).underway index = some w.disk := if_pos rfl
    exact ⟨_, _, .step (.read hslot hwaiting hseen) (.step (.finish hread) .done), rfl,
      hfewer w.disk⟩

/-- **The workers alone come to an end**: from any state all jobs can be done without a command. -/
theorem exists_finished (w : Workshop) :
    ∃ events w', Run w events w' ∧ commandsOf events = [] ∧
      ∀ slot ∈ w'.batch.pending, slot.outcome?.isSome = true := by
  -- each round leaves fewer jobs to be done
  induction hcount : w.unfinished using Nat.strongRecOn generalizing w with
  | _ count ih =>
    by_cases hall : ∀ slot ∈ w.batch.pending, slot.outcome?.isSome = true
    · exact ⟨[], w, .done, rfl, hall⟩
    · simp only [not_forall, Option.not_isSome_iff_eq_none] at hall
      obtain ⟨slot, hmem, hwaiting⟩ := hall
      obtain ⟨index, hslot⟩ := List.getElem?_of_mem hmem
      obtain ⟨events, w₁, hrun, hcommands, hfewer⟩ := exists_run_finishing hslot hwaiting
      obtain ⟨more, w₂, hmore, hnone, hdone⟩ := ih _ (hcount ▸ hfewer) w₁ rfl
      refine ⟨events ++ more, w₂, hrun.trans hmore, ?_, hdone⟩
      rw [commandsOf, List.filterMap_append]
      exact List.append_eq_nil_iff.2 ⟨hcommands, hnone⟩

/-! ## Collecting -/

/-- What is collected is what was promised. -/
theorem Agrees.results {strict : Bool} {h : History} {w : Workshop} (hagrees : Agrees strict h w) :
    (w.batch.results w.disk).1 = h.orders.mapM (Order.result strict) := by
  refine mapM_congr_map ?_
  rw [hagrees.mode, ← List.forall₂_eq_eq_eq, List.forall₂_map_left_iff, List.forall₂_map_right_iff]
  refine hagrees.slots.flip.imp fun slot order hserves => ?_
  rw [hserves.outcome fun _ => rfl]
  exact order.result_run strict

end Workshop

/-- **What a batch gives does not depend on the workers**, for every sequence of commands and every order
in which templates are read and jobs are done.  It is what was promised when the templates were
added, slot by slot; if there are faults, it is the one of the first slot that has one.  Each template
was read from the folders that are set among its own global variables, and shows these wherever it
shows folders.  And the workers can always come to an end, which changes nothing. -/
theorem results_of_run {given : List (Key × Value)} {root templates : Value} {strict : Bool}
    {disk : Disk} {events : List Event} {w : Workshop}
    (hrun : Workshop.Run (Workshop.start given root templates strict disk) events w) :
    let orders := ((History.start given root templates disk).after (commandsOf events)).orders
    (∀ renderings, (w.batch.results w.disk).1 = .ok renderings ↔
        orders.map (Order.result strict) = renderings.map .ok) ∧
      (∀ fault, (w.batch.results w.disk).1 = .error fault ↔
        ∃ before order after, orders = before ++ order :: after ∧
          (∀ earlier ∈ before, ∃ rendering, earlier.result strict = .ok rendering) ∧
          order.result strict = .error fault) ∧
      (∀ order ∈ orders, order.Faithful ∧ order.ShowsFolders) ∧
      ∃ more w', Workshop.Run w more w' ∧ commandsOf more = [] ∧
        (∀ slot ∈ w'.batch.pending, slot.outcome?.isSome = true) ∧
        (w'.batch.results w'.disk).1 = (w.batch.results w.disk).1 := by
  intro orders
  have hagrees := (Workshop.agrees_start given root templates strict disk).run hrun
  have hresults : (w.batch.results w.disk).1 = orders.mapM (Order.result strict) := hagrees.results
  have hsound := (History.sound_start given root templates disk).after (commandsOf events)
  refine ⟨fun renderings => ?_, fun fault => ?_, fun order horder => ?_, ?_⟩
  · rw [hresults, mapM_eq_ok_iff]
  · rw [hresults, mapM_eq_error_iff]
  · have hfaithful := hsound.faithful order horder
    exact ⟨hfaithful, hfaithful.showsFolders⟩
  · obtain ⟨more, w', hmore, hnone, hdone⟩ := w.exists_finished
    have hlater := hagrees.run hmore
    rw [hnone] at hlater
    exact ⟨more, w', hmore, hnone, hdone, hlater.results.trans hagrees.results.symm⟩

/-- The second of two templates is read and rendered first, from another root folder than the first one;
its file is gone when the first one is read. -/
theorem results_of_run_overtaken :
    let octets := (braced Settings.rootName).map fun c => UInt8.ofNat c.toNat
    let before : Disk := fun _ => .file octets
    let after : Disk := fun path =>
      if path = templatePath ['a'] Settings.defaultTemplates ['x'] then .file octets else .missing
    let locals : Bindings := Mapping.ofList [(Batch.keyOf Settings.rootName, .scalar (.text ['z']))]
    let events : List Event :=
      [.tell (.add ['x'] locals),
        .tell (.setGlobal (Batch.keyOf Settings.rootName) (.scalar (.text ['b']))),
        .tell (.add ['y'] {}), .read 1, .finish 1, .tell (.write after), .read 0, .finish 0]
    ∃ w, Workshop.Run (Workshop.start [] (.scalar (.text ['a'])) (.scalar .null) true before) events w ∧
      (w.batch.results w.disk).1 = .ok [⟨['a'], []⟩, ⟨['b'], []⟩] := by
  intro octets before after locals events
  obtain ⟨w, hrun⟩ : ∃ w, Workshop.Run
      (Workshop.start [] (.scalar (.text ['a'])) (.scalar .null) true before) events w := by
    refine ⟨_, .step (.add rfl) <| .step (.setGlobal _ _) <| .step (.add rfl) <|
      .step (.read rfl rfl rfl) <| .step (.finish rfl) <| .step (.write ?_) <|
      .step (.read rfl rfl rfl) <| .step (.finish rfl) .done⟩
    -- only the first template is still to be rendered
    refine List.forall_mem_cons.2 ⟨fun _ => rfl, List.forall_mem_singleton.2 fun hnone => ?_⟩
    cases hnone
  exact ⟨w, hrun, ((results_of_run hrun).1 _).2 (by decide +kernel)⟩

end Stencil
