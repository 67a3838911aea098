import Mathlib.Data.List.Forall2
import Stencil.Proofs.Batch.Adding
import Stencil.Proofs.FirstFault

/-!
# `Stencil.Proofs.Batch.Queue` — what is pending in a batch

A batch is called again and again, in any order: templates are added, global variables are set, results
and documents are asked for, and at some time the batch is closed.  Between the calls workers do jobs,
and files come and go.  Calls may fail; what they leave in the queue then is the matter of this module.

Three invariants carry it.  The queue holds one slot for each template added since the last document was
asked for, and templates are taken until the batch is closed (`Desk.Sound`).  What is recorded of a job is
what came of it in some turn (`Desk.Recorded`).  And once all jobs are done nothing but a new template or a
new document changes the queue, whatever is on the disk (`Batch.Settled`).

What is answered is told by what comes of the slots, each by itself (`Batch.Collected`): all renderings in
the order of the slots, or the fault of the first slot that has one.

## Contents
- **Calls.** `Call`, `Reply` and `Batch.ask`; `Desk`, which keeps a record of the calls, with `Desk.after`.
- **The record.** `addedSinceUpdate` and `Desk.Closed`; `Desk.Sound` and `Desk.Recorded`, kept by each turn
  and so by every run.
- **Settled desks.** `Batch.Settled`, and what leaves a settled batch as it is.
- **What is collected.** `Batch.Slot.Gives` and `Batch.Collected`, with **`Batch.collected_results`**.
- **The laws of one call.** `Desk.AddLaw`, `Desk.CollectLaw`, `Desk.UpdateLaw` and `Desk.CloseLaw`.
- **`queue_of_calls`**.
-/

namespace Stencil

/-! ## Calls -/

/-- What a batch is asked for. -/
inductive Call where
  | add (file : Text) (locals : Bindings)
  | setGlobal (key : Key) (value : Value)
  | results
  /-- A document, which is written if there is a target. -/
  | update (target : Bool)
  | close

/-- What is answered. -/
inductive Reply where
  | added (outcome : Except BatchFault Nat)
  | collected (outcome : Except TemplateFault (List Rendering))
  | updated (outcome : Except TemplateFault Text)
  | done

/-- One call: the reply, what is written to the target by then, and the batch. -/
def Batch.ask (disk : Disk) (written : Text) (batch : Batch) : Call → Reply × Text × Batch
  | .add file locals =>
    match batch.add file locals with
    | .ok (slot, batch) => (.added (.ok slot), written, batch)
    | .error fault => (.added (.error fault), written, batch)
  | .setGlobal key value => (.done, written, batch.setGlobal key value)
  | .results =>
    let (outcome, batch) := batch.results disk
    (.collected outcome, written, batch)
  | .update target =>
    let (outcome, longer, batch) := batch.update disk written
    (.updated outcome, if target then longer else written, batch)
  -- closing waits for the workers
  | .close => (.done, written, (batch.finish disk).close)

/-- A batch in use: what is written to its target, and the calls with their replies, the last first. -/
structure Desk where
  batch : Batch
  written : Text
  past : List (Call × Reply)

/-- What happens at a desk, with the disk as it is then: a call, or a worker does the job of a slot. -/
inductive Turn where
  | call (disk : Disk) (call : Call)
  | work (disk : Disk) (index : Nat)

namespace Desk

/-- A new batch, and a target with nothing written to it. -/
def start (globals : Bindings) (root templates : Value) (strict : Bool) : Desk :=
  ⟨Batch.create globals root templates strict, [], []⟩

/-- A call is made, and recorded with its reply. -/
def call (disk : Disk) (desk : Desk) (call : Call) : Desk :=
  let (reply, written, batch) := desk.batch.ask disk desk.written call
  ⟨batch, written, (call, reply) :: desk.past⟩

/-- One turn. -/
def turn (desk : Desk) : Turn → Desk
  | .call disk call => desk.call disk call
  | .work disk index => { desk with batch := desk.batch.finishSlot disk index }

/-- All turns, in order. -/
def after (desk : Desk) (turns : List Turn) : Desk :=
  turns.foldl turn desk

/-- The reply to one more call. -/
def reply (disk : Disk) (desk : Desk) (call : Call) : Reply :=
  (desk.batch.ask disk desk.written call).1

end Desk

/-! ## The record -/

/-- The disk as it is in a turn. -/
def Turn.disk : Turn → Disk
  | .call disk _ | .work disk _ => disk

/-- Whether a call asks for a document. -/
def Call.isUpdate : Call → Bool
  | .update _ => true
  | _ => false

/-- Whether a call closes the batch. -/
def Call.isClose : Call → Bool
  | .close => true
  | _ => false

/-- Whether a call brings a template. -/
def Call.isAdd : Call → Bool
  | .add _ _ => true
  | _ => false

/-- Whether a template was added. -/
def Reply.isAdded : Reply → Bool
  | .added (.ok _) => true
  | _ => false

/-- The number of templates that were added since a document was last asked for. -/
def addedSinceUpdate (past : List (Call × Reply)) : Nat :=
  (past.takeWhile fun entry => !entry.1.isUpdate).countP fun entry => entry.2.isAdded

/-- The batch has been closed. -/
def Desk.Closed (desk : Desk) : Prop :=
  ∃ entry ∈ desk.past, entry.1.isClose = true

/-- **What the record tells of the batch**: how many templates are pending, and whether more are taken. -/
structure Desk.Sound (desk : Desk) : Prop where
  length : desk.batch.pending.length = addedSinceUpdate desk.past
  accepting : desk.batch.accepting = false ↔ desk.Closed

/-- What is recorded of a job is what came of it in one of some turns. -/
def Batch.Slot.Recorded (strict : Bool) (turns : List Turn) (slot : Slot) : Prop :=
  ∀ outcome, slot.outcome? = some outcome →
    ∃ turn ∈ turns, outcome = slot.job.run turn.disk strict

/-- **No outcome comes from nowhere**: all that is recorded at a desk came of a job in one of some turns. -/
def Desk.Recorded (turns : List Turn) (desk : Desk) : Prop :=
  ∀ slot ∈ desk.batch.pending, slot.Recorded desk.batch.strict turns

section Record

variable {past : List (Call × Reply)} {call : Call} {reply : Reply}

theorem addedSinceUpdate_update (target : Bool) (reply : Reply) (past : List (Call × Reply)) :
    addedSinceUpdate ((.update target, reply) :: past) = 0 := by
  simp [addedSinceUpdate, Call.isUpdate]

theorem addedSinceUpdate_added (file : Text) (locals : Bindings) (slot : Nat)
    (past : List (Call × Reply)) :
    addedSinceUpdate ((.add file locals, .added (.ok slot)) :: past) = addedSinceUpdate past + 1 := by
  simp [addedSinceUpdate, Call.isUpdate, Reply.isAdded]

/-- A call that adds nothing and asks for no document does not count. -/
theorem addedSinceUpdate_other (hcall : call.isUpdate = false) (hreply : reply.isAdded = false) :
    addedSinceUpdate ((call, reply) :: past) = addedSinceUpdate past := by
  simp [addedSinceUpdate, hcall, hreply]

end Record

/-! ## One call -/

namespace Batch

/-- An update, by way of the results: the document is all texts in a row, it is written if there is one,
and the queue is emptied. -/
theorem update_eq (disk : Disk) (written : Text) (batch : Batch) :
    let outcome := (batch.results disk).1.map fun renderings => renderings.flatMap Rendering.text
    batch.update disk written =
      (outcome, written ++ outcome.toOption.getD [], { batch with pending := [] }) := by
  intro outcome
  unfold update
  cases hresults : (batch.results disk).1 with
  | ok renderings =>
    have houtcome : outcome = .ok (renderings.flatMap Rendering.text) := by
      simp only [outcome, hresults, Except.map]
    rw [houtcome]
    rfl
  | error fault =>
    have houtcome : outcome = .error fault := by simp only [outcome, hresults, Except.map]
    rw [houtcome]
    simp [Except.toOption]

section Asking

variable {batch next : Batch} {file : Text} {locals : Bindings}

theorem ask_of_add_ok {slot : Nat} (hadd : batch.add file locals = .ok (slot, next)) (disk : Disk)
    (written : Text) :
    batch.ask disk written (.add file locals) = (.added (.ok slot), written, next) := by
  rw [ask, hadd]

theorem ask_of_add_error {fault : BatchFault} (hadd : batch.add file locals = .error fault)
    (disk : Disk) (written : Text) :
    batch.ask disk written (.add file locals) = (.added (.error fault), written, batch) := by
  rw [ask, hadd]

end Asking

/-- Both folders are given by texts. -/
def HasFolders (batch : Batch) : Prop :=
  ∃ root templates, batch.rootFolder = .scalar (.text root) ∧
    batch.templatesFolder = .scalar (.text templates)

/-- A template is refused by a closed batch, and where a folder is no text; in no other case. -/
theorem exists_add_error_iff {batch : Batch} {file : Text} {locals : Bindings} :
    (∃ fault, batch.add file locals = .error fault) ↔
      batch.accepting = false ∨ ¬ batch.HasFolders := by
  constructor
  · rintro ⟨fault, hadd⟩
    by_contra hnone
    simp only [not_or, Bool.not_eq_false, not_not] at hnone
    obtain ⟨haccepting, root, templates, hroot, htemplates⟩ := hnone
    unfold rootFolder at hroot
    unfold templatesFolder at htemplates
    rw [global_eq_text_iff] at hroot htemplates
    rw [add_of_folders haccepting hroot htemplates] at hadd
    cases hadd
  · intro hrefused
    cases hadd : batch.add file locals with
    | error fault => exact ⟨fault, rfl⟩
    | ok added =>
      obtain ⟨root, templates, hroot, htemplates⟩ := exists_folders_of_add hadd
      rw [← global_eq_text_iff] at hroot htemplates
      have hfolders : batch.HasFolders := ⟨root, templates, hroot, htemplates⟩
      have hclosed : batch.accepting = false := hrefused.resolve_right (not_not_intro hfolders)
      -- the folders are there, so that the batch has been asked whether it is closed
      rw [add, templatePath, rootFolder, templatesFolder, hroot, htemplates, hclosed] at hadd
      cases hadd

/-- What a batch that takes a template comes to. -/
theorem eq_of_add_ok {batch next : Batch} {file : Text} {locals : Bindings} {slot : Nat}
    (hadd : batch.add file locals = .ok (slot, next)) :
    slot = batch.pending.length ∧
      ∃ path, batch.templatePath file = .ok path ∧
        next = { batch with
          pending := batch.pending ++ [⟨⟨path, locals, batch.globals⟩, none⟩] } := by
  obtain ⟨path, hpath, hadd⟩ := bind_eq_ok_iff.1 hadd
  split at hadd
  · obtain ⟨rfl, rfl⟩ := Prod.mk.inj (Except.ok.inj hadd)
    exact ⟨rfl, path, hpath, rfl⟩
  · cases hadd

end Batch

/-! ## What a turn keeps -/

section Turns

variable {desk : Desk}

/-- A closed batch stays closed, and only closing closes it. -/
theorem Desk.closed_call_iff (disk : Disk) (call : Call) :
    (desk.call disk call).Closed ↔ call.isClose = true ∨ desk.Closed := by
  simp only [Desk.Closed, Desk.call, List.mem_cons, exists_eq_or_imp]

/-- A call that leaves the number of jobs and the doors as they are, and does not count. -/
theorem Desk.Sound.other (hsound : desk.Sound) {disk : Disk} {call : Call} {reply : Reply} {written : Text}
    {batch : Batch} (hask : desk.batch.ask disk desk.written call = (reply, written, batch))
    (hupdate : call.isUpdate = false) (hclose : call.isClose = false) (hadded : reply.isAdded = false)
    (hlength : batch.pending.length = desk.batch.pending.length)
    (haccepting : batch.accepting = desk.batch.accepting) : (desk.call disk call).Sound := by
  have hcall : desk.call disk call = ⟨batch, written, (call, reply) :: desk.past⟩ := by
    rw [Desk.call, hask]
  constructor
  · rw [hcall, addedSinceUpdate_other hupdate hadded, ← hsound.length]
    exact hlength
  · rw [Desk.closed_call_iff, hclose, hcall, ← hsound.accepting]
    simp [haccepting]

/-- **Every call keeps the record true.** -/
theorem Desk.Sound.call (hsound : desk.Sound) (disk : Disk) (call : Call) :
    (desk.call disk call).Sound := by
  cases call with
  | add file locals =>
    cases hadd : desk.batch.add file locals with
    | error fault => exact hsound.other (Batch.ask_of_add_error hadd _ _) rfl rfl rfl rfl rfl
    | ok added =>
      obtain ⟨slot, next⟩ := added
      obtain ⟨_, path, _, rfl⟩ := Batch.eq_of_add_ok hadd
      have hask := Batch.ask_of_add_ok hadd disk desk.written
      constructor
      · simp only [Desk.call, hask, List.length_append, List.length_singleton]
        rw [addedSinceUpdate_added, hsound.length]
      · rw [Desk.closed_call_iff, Desk.call, hask, ← hsound.accepting]
        simp [Call.isClose]
  | setGlobal key value => exact hsound.other rfl rfl rfl rfl rfl rfl
  | results => exact hsound.other rfl rfl rfl rfl (List.length_map _) rfl
  | update target =>
    constructor
    · rw [Desk.call, Batch.ask, Batch.update_eq, addedSinceUpdate_update]
      rfl
    · rw [Desk.closed_call_iff, Desk.call, Batch.ask, Batch.update_eq, ← hsound.accepting]
      simp [Call.isClose]
  | close =>
    constructor
    · show (desk.batch.pending.map _).length = addedSinceUpdate ((.close, .done) :: desk.past)
      rw [List.length_map, addedSinceUpdate_other rfl rfl, hsound.length]
    · rw [Desk.closed_call_iff]
      exact iff_of_true rfl (.inl rfl)

/-- Every turn keeps the record true; a worker adds nothing to it. -/
theorem Desk.Sound.turn (hsound : desk.Sound) (turn : Turn) : (desk.turn turn).Sound := by
  cases turn with
  | call disk call => exact hsound.call disk call
  | work disk index =>
    refine ⟨?_, hsound.accepting⟩
    show (desk.batch.pending.modify index _).length = _
    rw [List.length_modify]
    exact hsound.length

/-- **Whatever happens, the record tells what is pending.** -/
theorem Desk.Sound.after (hsound : desk.Sound) (turns : List Turn) : (desk.after turns).Sound := by
  induction turns generalizing desk with
  | nil => exact hsound
  | cons turn rest ih => exact ih (hsound.turn turn)

theorem Desk.sound_start (globals : Bindings) (root templates : Value) (strict : Bool) :
    (Desk.start globals root templates strict).Sound where
  length := rfl
  accepting := by
    refine iff_of_false Bool.noConfusion ?_
    rintro ⟨entry, hentry, _⟩
    exact absurd hentry List.not_mem_nil

end Turns

/-! ## What is recorded -/

section Recorded

variable {strict : Bool} {turns : List Turn} {slot : Batch.Slot} {desk : Desk}

theorem Batch.Slot.Recorded.mono (h : slot.Recorded strict turns) {more : List Turn}
    (hsubset : turns ⊆ more) : slot.Recorded strict more := by
  intro outcome houtcome
  obtain ⟨turn, hturn, hrun⟩ := h outcome houtcome
  exact ⟨turn, hsubset hturn, hrun⟩

/-- A job that is done in a turn is recorded with what comes of it then; if it was done before, with what
came of it then. -/
theorem Batch.Slot.Recorded.finish (h : slot.Recorded strict turns) {turn : Turn} (hturn : turn ∈ turns) :
    (slot.finish turn.disk strict).Recorded strict turns := by
  intro outcome houtcome
  obtain rfl : slot.outcome turn.disk strict = outcome := Option.some.inj houtcome
  unfold Slot.outcome
  cases hdone : slot.outcome? with
  | none => exact ⟨turn, hturn, rfl⟩
  | some earlier => exact h earlier hdone

section Slots

variable {slots : List Batch.Slot} {turn : Turn}

/-- All jobs are done in a turn. -/
theorem Batch.recorded_map (h : ∀ slot ∈ slots, slot.Recorded strict turns) (hturn : turn ∈ turns) :
    ∀ slot ∈ slots.map (Slot.finish turn.disk strict), slot.Recorded strict turns := by
  intro slot hslot
  obtain ⟨before, hbefore, rfl⟩ := List.mem_map.1 hslot
  exact (h before hbefore).finish hturn

/-- One job is done in a turn. -/
theorem Batch.recorded_modify (h : ∀ slot ∈ slots, slot.Recorded strict turns) (hturn : turn ∈ turns)
    (index : Nat) :
    ∀ slot ∈ slots.modify index (Slot.finish turn.disk strict), slot.Recorded strict turns := by
  intro slot hslot
  obtain ⟨i, hi⟩ := List.mem_iff_getElem?.1 hslot
  rw [List.getElem?_modify] at hi
  obtain ⟨before, hbefore, hslot⟩ := Option.map_eq_some_iff.1 hi
  have hpast := h before (List.mem_of_getElem? hbefore)
  by_cases hindex : index = i
  · rw [if_pos hindex] at hslot
    subst hslot
    exact hpast.finish hturn
  · rw [if_neg hindex] at hslot
    subst hslot
    exact hpast

/-- A slot is added whose job has not been done. -/
theorem Batch.recorded_append (h : ∀ slot ∈ slots, slot.Recorded strict turns) (job : Job) :
    ∀ slot ∈ slots ++ [⟨job, none⟩], slot.Recorded strict turns := by
  intro slot hslot
  rcases List.mem_append.1 hslot with hslot | hslot
  · exact h slot hslot
  · obtain rfl := List.mem_singleton.1 hslot
    intro outcome houtcome
    cases houtcome

end Slots

/-- **Every turn keeps the records**, and may add to them what comes of jobs in it. -/
theorem Desk.Recorded.turn (hrecorded : desk.Recorded turns) (turn : Turn) :
    (desk.turn turn).Recorded (turns ++ [turn]) := by
  have hlast : turn ∈ turns ++ [turn] := List.mem_append_right _ (List.mem_singleton_self turn)
  have hold : ∀ slot ∈ desk.batch.pending, slot.Recorded desk.batch.strict (turns ++ [turn]) :=
    fun slot hslot => (hrecorded slot hslot).mono (List.subset_append_left _ _)
  cases turn with
  | work disk index => exact Batch.recorded_modify hold hlast index
  | call disk call =>
    cases call with
    | add file locals =>
      cases hadd : desk.batch.add file locals with
      | error fault =>
        have hask := Batch.ask_of_add_error hadd disk desk.written
        simp only [Desk.turn, Desk.call, hask]
        exact hold
      | ok added =>
        obtain ⟨slot, next⟩ := added
        obtain ⟨_, path, _, rfl⟩ := Batch.eq_of_add_ok hadd
        have hask := Batch.ask_of_add_ok hadd disk desk.written
        simp only [Desk.turn, Desk.call, hask]
        exact Batch.recorded_append hold _
    | setGlobal key value => exact hold
    | results => exact Batch.recorded_map hold hlast
    | update target =>
      have hempty : (desk.call disk (.update target)).batch.pending = [] := by
        rw [Desk.call, Batch.ask, Batch.update_eq]
      intro slot hslot
      have hmem : slot ∈ (desk.call disk (.update target)).batch.pending := hslot
      rw [hempty] at hmem
      cases hmem
    | close =>
      -- the jobs that are left are done before the batch is closed
      exact Batch.recorded_map hold hlast

/-- **Whatever happens, what is recorded came of a job in some turn.** -/
theorem Desk.Recorded.after (hrecorded : desk.Recorded turns) (more : List Turn) :
    (desk.after more).Recorded (turns ++ more) := by
  induction more generalizing desk turns with
  | nil =>
    rw [List.append_nil]
    exact hrecorded
  | cons turn rest ih =>
    have hrest := ih (hrecorded.turn turn)
    rw [List.append_assoc] at hrest
    exact hrest

end Recorded

/-! ## Settled batches -/

/-- All jobs of a batch are done. -/
def Batch.Settled (batch : Batch) : Prop :=
  ∀ slot ∈ batch.pending, slot.outcome?.isSome = true

section Settled

variable {batch : Batch}

/-- A job is done once. -/
theorem Batch.Slot.finish_of_done {slot : Slot} (hdone : slot.outcome?.isSome = true) (disk : Disk)
    (strict : Bool) : slot.finish disk strict = slot := by
  obtain ⟨job, outcome?⟩ := slot
  obtain ⟨outcome, rfl⟩ := Option.isSome_iff_exists.1 hdone
  rfl

theorem Batch.settled_finish (disk : Disk) (batch : Batch) : (batch.finish disk).Settled := by
  intro slot hslot
  obtain ⟨before, _, rfl⟩ := List.mem_map.1 hslot
  rfl

/-- Doing the jobs leaves them as they are. -/
theorem Batch.jobs_finish (batch : Batch) (disk : Disk) :
    (batch.finish disk).pending.map Slot.job = batch.pending.map Slot.job := by
  show (batch.pending.map _).map _ = _
  rw [List.map_map]
  rfl

/-- There is nothing left to do. -/
theorem Batch.Settled.finish (hsettled : batch.Settled) (disk : Disk) : batch.finish disk = batch := by
  have hpending : batch.pending.map (Slot.finish disk batch.strict) = batch.pending := by
    conv_rhs => rw [← List.map_id batch.pending]
    exact List.map_congr_left fun slot hslot =>
      Slot.finish_of_done (hsettled slot hslot) disk batch.strict
  unfold Batch.finish
  rw [hpending]

theorem Batch.Settled.finishSlot (hsettled : batch.Settled) (disk : Disk) (index : Nat) :
    batch.finishSlot disk index = batch := by
  have hpending : batch.pending.modify index (Slot.finish disk batch.strict) = batch.pending := by
    apply List.ext_getElem?
    intro i
    rw [List.getElem?_modify]
    cases hslot : batch.pending[i]? with
    | none => rfl
    | some slot =>
      have hkeep := Slot.finish_of_done (hsettled slot (List.mem_of_getElem? hslot)) disk batch.strict
      split <;> simp [hkeep]
  unfold Batch.finishSlot
  rw [hpending]

/-- **What is collected does not change any more** once all jobs are done, whatever is on the disk. -/
theorem Batch.Settled.results (hsettled : batch.Settled) (disk other : Disk) :
    (batch.results disk).1 = (batch.results other).1 := by
  refine mapM_congr_map (List.map_congr_left fun slot hslot => ?_)
  obtain ⟨outcome, houtcome⟩ := Option.isSome_iff_exists.1 (hsettled slot hslot)
  unfold Slot.outcome
  rw [houtcome]
  rfl

/-- What is collected later is what was collected when the jobs were done. -/
theorem Batch.results_finish (disk later : Disk) (batch : Batch) :
    ((batch.finish disk).results later).1 = (batch.results disk).1 := by
  refine mapM_congr_map ?_
  show (batch.pending.map _).map _ = _
  rw [List.map_map]
  rfl

end Settled

/-- The call that is made in a turn, if one is. -/
def Turn.call? : Turn → Option Call
  | .call _ made => some made
  | .work _ _ => none

/-- At a later desk the same is collected, and it is closed if this one is. -/
structure Desk.Keeps (desk later : Desk) : Prop where
  pending : later.batch.pending = desk.batch.pending
  strict : later.batch.strict = desk.batch.strict
  closed : desk.batch.accepting = false → later.batch.accepting = false

section Keeping

variable {desk later : Desk}

theorem Desk.Keeps.trans {last : Desk} (h : desk.Keeps later) (hnext : later.Keeps last) :
    desk.Keeps last where
  pending := hnext.pending.trans h.pending
  strict := hnext.strict.trans h.strict
  closed := fun hclosed => hnext.closed (h.closed hclosed)

theorem Desk.Keeps.settled (h : desk.Keeps later) (hsettled : desk.batch.Settled) :
    later.batch.Settled := by
  unfold Batch.Settled
  rw [h.pending]
  exact hsettled

theorem Desk.Keeps.results (h : desk.Keeps later) (disk : Disk) :
    (later.batch.results disk).1 = (desk.batch.results disk).1 := by
  unfold Batch.results
  rw [h.pending, h.strict]

/-- A call to a settled batch keeps it, unless a template is added or a document asked for. -/
theorem Desk.keeps_call (hsettled : desk.batch.Settled) {disk : Disk} {call : Call}
    (hupdate : call.isUpdate = false) (hadd : call.isAdd = false ∨ desk.batch.accepting = false) :
    desk.Keeps (desk.call disk call) := by
  have hfinish : desk.batch.finish disk = desk.batch := hsettled.finish disk
  cases call with
  | add file locals =>
    -- the batch is closed, and refuses the template
    have hclosed : desk.batch.accepting = false := hadd.resolve_left Bool.noConfusion
    have hrefused := @Batch.exists_add_error_iff desk.batch file locals
    obtain ⟨fault, hfault⟩ := hrefused.2 (.inl hclosed)
    simp only [Desk.call, Batch.ask_of_add_error hfault]
    exact ⟨rfl, rfl, id⟩
  | setGlobal key value => exact ⟨rfl, rfl, id⟩
  | results => exact ⟨congrArg Batch.pending hfinish, rfl, id⟩
  | update target => cases hupdate
  | close =>
    have hpending : (desk.batch.finish disk).pending = desk.batch.pending := congrArg _ hfinish
    exact ⟨hpending, rfl, fun _ => rfl⟩

/-- A worker finds nothing to do at a settled batch. -/
theorem Desk.keeps_work (hsettled : desk.batch.Settled) (disk : Disk) (index : Nat) :
    desk.Keeps (desk.turn (.work disk index)) := by
  have hwork : desk.batch.finishSlot disk index = desk.batch := hsettled.finishSlot disk index
  exact ⟨congrArg Batch.pending hwork, rfl, id⟩

/-- **A settled batch stays as it is** until a document is asked for, if it is closed or no template is
brought. -/
theorem Desk.keeps_after (hsettled : desk.batch.Settled) {turns : List Turn}
    (hcalls : ∀ turn ∈ turns, ∀ call, turn.call? = some call →
      call.isUpdate = false ∧ (call.isAdd = false ∨ desk.batch.accepting = false)) :
    desk.Keeps (desk.after turns) := by
  induction turns generalizing desk with
  | nil => exact ⟨rfl, rfl, id⟩
  | cons turn rest ih =>
    obtain ⟨hturn, hrest⟩ := List.forall_mem_cons.1 hcalls
    have hkeeps : desk.Keeps (desk.turn turn) := by
      cases turn with
      | work disk index => exact Desk.keeps_work hsettled disk index
      | call disk call =>
        obtain ⟨hupdate, hadd⟩ := hturn call rfl
        exact Desk.keeps_call hsettled hupdate hadd
    refine hkeeps.trans (ih (hkeeps.settled hsettled) fun later hlater call hcall => ?_)
    obtain ⟨hupdate, hadd⟩ := hrest later hlater call hcall
    exact ⟨hupdate, hadd.imp_right hkeeps.closed⟩

end Keeping

/-! ## What is collected -/

/-- **What comes of a slot**: what came of its job when it was done, or what comes of it now. -/
inductive Batch.Slot.Gives (disk : Disk) (strict : Bool) (slot : Slot) :
    Except TemplateFault Rendering → Prop
  | done {outcome : Job.Outcome} (hdone : slot.outcome? = some outcome) :
      Gives disk strict slot outcome.result
  | now (hwaiting : slot.outcome? = none) :
      Gives disk strict slot (slot.job.run disk strict).result

/-- **What is collected from a batch**: one rendering for each slot, in their order; or the fault of a slot
before which no slot has one. -/
inductive Batch.Collected (disk : Disk) (batch : Batch) : Except TemplateFault (List Rendering) → Prop
  | all {renderings : List Rendering}
      (hslots : List.Forall₂ (fun (slot : Slot) rendering => slot.Gives disk batch.strict (.ok rendering))
        batch.pending renderings) :
      Collected disk batch (.ok renderings)
  | first {before after : List Slot} {slot : Slot} {fault : TemplateFault}
      (hpending : batch.pending = before ++ slot :: after)
      (hbefore : ∀ earlier ∈ before, ∃ rendering, earlier.Gives disk batch.strict (.ok rendering))
      (hslot : slot.Gives disk batch.strict (.error fault)) :
      Collected disk batch (.error fault)

section Collected

variable {disk : Disk} {strict : Bool} {slot : Batch.Slot}

/-- A slot gives the result of its outcome, and nothing else. -/
theorem Batch.Slot.gives_iff {result : Except TemplateFault Rendering} :
    slot.Gives disk strict result ↔ (slot.outcome disk strict).result = result := by
  unfold Slot.outcome
  constructor
  · intro h
    cases h with
    | done hdone =>
      rw [hdone]
      rfl
    | now hwaiting =>
      rw [hwaiting]
      rfl
  · rintro rfl
    cases hdone : slot.outcome? with
    | some outcome => exact .done hdone
    | none => exact .now hdone

/-- **The results of a batch are collected from its slots.** -/
theorem Batch.collected_results (disk : Disk) (batch : Batch) :
    batch.Collected disk (batch.results disk).1 := by
  cases hresults : (batch.results disk).1 with
  | ok renderings =>
    have hslots := mapM_eq_ok_iff.1 hresults
    rw [← List.forall₂_eq_eq_eq, List.forall₂_map_left_iff, List.forall₂_map_right_iff] at hslots
    exact .all (hslots.imp fun slot rendering hslot => Slot.gives_iff.2 hslot)
  | error fault =>
    obtain ⟨before, slot, after, hpending, hbefore, hslot⟩ := mapM_eq_error_iff.1 hresults
    refine .first hpending (fun earlier hearlier => ?_) (Slot.gives_iff.2 hslot)
    obtain ⟨rendering, hrendering⟩ := hbefore earlier hearlier
    exact ⟨rendering, Slot.gives_iff.2 hrendering⟩

end Collected

/-! ## The laws of one call -/

namespace Desk

/-- **Adding.**  A template gets the next number after those added since the last update, and one slot
at the end of the queue.  It is refused exactly if the batch is closed or a folder is no text, and
then the batch is left as it was. -/
def AddLaw (desk : Desk) : Prop :=
  ∀ (disk : Disk) (file : Text) (locals : Bindings),
    let reply := desk.reply disk (.add file locals)
    let after := desk.call disk (.add file locals)
    (¬ desk.Closed ∧ desk.batch.HasFolders ∧ reply = .added (.ok (addedSinceUpdate desk.past)) ∧
        ∃ path, desk.batch.templatePath file = .ok path ∧
          after.batch = { desk.batch with
            pending := desk.batch.pending ++ [⟨⟨path, locals, desk.batch.globals⟩, none⟩] }) ∨
      (desk.Closed ∨ ¬ desk.batch.HasFolders) ∧ ∃ fault, reply = .added (.error fault) ∧
        after.batch = desk.batch

/-- **Collecting.**  What comes of the slots is collected.  The queue has the same jobs as before, nothing
else changes, and as long as no template is brought and no document asked for the same is collected again,
whatever becomes of the disk. -/
def CollectLaw (desk : Desk) : Prop :=
  ∀ disk : Disk,
    let after := desk.call disk .results
    ∃ collected, desk.batch.Collected disk collected ∧
      desk.reply disk .results = .collected collected ∧
      (∃ pending, after.batch = { desk.batch with pending } ∧
        pending.map Batch.Slot.job = desk.batch.pending.map Batch.Slot.job) ∧
      after.written = desk.written ∧
      ∀ (turns : List Turn) (later : Disk),
        (∀ turn ∈ turns, ∀ call, turn.call? = some call → call.isUpdate = false ∧ call.isAdd = false) →
        (after.after turns).reply later .results = .collected collected

/-- **Asking for a document.**  The queue is empty afterwards, and nothing else changes.  What is answered is
made of what is collected: all texts in a row, and these are written if there is a target; or the same
fault, and nothing is written. -/
def UpdateLaw (desk : Desk) : Prop :=
  ∀ (disk : Disk) (target : Bool),
    let after := desk.call disk (.update target)
    after.batch = { desk.batch with pending := [] } ∧
      ((∃ renderings, desk.batch.Collected disk (.ok renderings) ∧
          desk.reply disk (.update target) = .updated (.ok (renderings.flatMap Rendering.text)) ∧
          after.written =
            desk.written ++ if target then renderings.flatMap Rendering.text else []) ∨
        ∃ fault, desk.batch.Collected disk (.error fault) ∧
          desk.reply disk (.update target) = .updated (.error fault) ∧
          after.written = desk.written)

/-- **Closing.**  The queue has the same jobs as before, and what comes of them can be collected until a
document is asked for, which is made of it. -/
def CloseLaw (desk : Desk) : Prop :=
  ∀ disk : Disk,
    let after := desk.call disk .close
    (∃ pending, after.batch = { desk.batch with pending, accepting := false } ∧
      pending.map Batch.Slot.job = desk.batch.pending.map Batch.Slot.job) ∧
    ∃ collected, desk.batch.Collected disk collected ∧
      ∀ (turns : List Turn) (later : Disk) (target : Bool),
        (∀ turn ∈ turns, ∀ call, turn.call? = some call → call.isUpdate = false) →
        (after.after turns).reply later .results = .collected collected ∧
          (after.after turns).reply later (.update target) =
            .updated (collected.map fun renderings => renderings.flatMap Rendering.text)

variable {desk : Desk}

theorem Sound.addLaw (hsound : desk.Sound) : desk.AddLaw := by
  intro disk file locals
  have hrefused := @Batch.exists_add_error_iff desk.batch file locals
  rw [hsound.accepting] at hrefused
  cases hadd : desk.batch.add file locals with
  | error fault =>
    simp only [reply, Desk.call, Batch.ask_of_add_error hadd]
    exact .inr ⟨hrefused.1 ⟨fault, hadd⟩, fault, rfl, trivial⟩
  | ok added =>
    obtain ⟨slot, next⟩ := added
    obtain ⟨hslot, path, hpath, hnext⟩ := Batch.eq_of_add_ok hadd
    have htaken : ¬ (desk.Closed ∨ ¬ desk.batch.HasFolders) := by
      intro h
      obtain ⟨fault, hfault⟩ := hrefused.2 h
      rw [hadd] at hfault
      cases hfault
    obtain ⟨hopen, hfolders⟩ := not_or.1 htaken
    have hnumber : slot = addedSinceUpdate desk.past := hslot.trans hsound.length
    simp only [reply, Desk.call, Batch.ask_of_add_ok hadd]
    exact .inl ⟨hopen, not_not.1 hfolders, congrArg _ (congrArg _ hnumber), path, hpath, hnext⟩

theorem collectLaw (desk : Desk) : desk.CollectLaw := by
  intro disk
  refine ⟨(desk.batch.results disk).1, desk.batch.collected_results disk, rfl,
    ⟨_, rfl, desk.batch.jobs_finish disk⟩, rfl, fun turns later hturns => ?_⟩
  have hsettled : (desk.call disk .results).batch.Settled := Batch.settled_finish disk desk.batch
  have hkeeps := Desk.keeps_after hsettled fun turn hturn call hcall =>
    (hturns turn hturn call hcall).imp_right .inl
  have hsame := (hkeeps.results later).trans (Batch.results_finish disk later desk.batch)
  exact congrArg Reply.collected hsame

theorem updateLaw (desk : Desk) : desk.UpdateLaw := by
  intro disk target
  have hcollected := desk.batch.collected_results disk
  have hupdate := Batch.update_eq disk desk.written desk.batch
  unfold reply call Batch.ask
  simp only [hupdate]
  refine ⟨trivial, ?_⟩
  cases hresults : (desk.batch.results disk).1 with
  | ok renderings =>
    rw [hresults] at hcollected
    refine .inl ⟨renderings, hcollected, rfl, ?_⟩
    cases target <;> simp [Except.map, Except.toOption]
  | error fault =>
    rw [hresults] at hcollected
    refine .inr ⟨fault, hcollected, rfl, ?_⟩
    cases target <;> simp [Except.map, Except.toOption]

theorem closeLaw (desk : Desk) : desk.CloseLaw := by
  intro disk
  refine ⟨⟨_, rfl, desk.batch.jobs_finish disk⟩, (desk.batch.results disk).1,
    desk.batch.collected_results disk, fun turns later target hturns => ?_⟩
  have hsettled : (desk.call disk .close).batch.Settled := Batch.settled_finish disk desk.batch
  have hkeeps := Desk.keeps_after hsettled fun turn hturn call hcall =>
    ⟨hturns turn hturn call hcall, .inr rfl⟩
  have hsame : (((desk.call disk .close).after turns).batch.results later).1 =
      (desk.batch.results disk).1 :=
    (hkeeps.results later).trans (Batch.results_finish disk later desk.batch)
  refine ⟨congrArg Reply.collected hsame, ?_⟩
  unfold reply Batch.ask
  simp only [Batch.update_eq, hsame]

end Desk

/-! ## Runs -/

/-- **What is pending in a batch**, whatever it has been called for and whatever the workers have done.
It is what was added since the last update, one slot for each template, and what is recorded of a template
came of its job.  What another call does to it is said by the laws: a template that is refused changes
nothing, what comes of the slots is collected and can be collected again, an update empties the queue and
writes all or nothing, and a closed batch can still be collected. -/
theorem queue_of_calls (globals : Bindings) (root templates : Value) (strict : Bool)
    (turns : List Turn) :
    let desk := (Desk.start globals root templates strict).after turns
    desk.batch.pending.length = addedSinceUpdate desk.past ∧
      desk.Recorded turns ∧ desk.AddLaw ∧ desk.CollectLaw ∧ desk.UpdateLaw ∧ desk.CloseLaw := by
  intro desk
  have hsound : desk.Sound := (Desk.sound_start globals root templates strict).after turns
  have hempty : (Desk.start globals root templates strict).Recorded [] :=
    fun _ hslot => absurd hslot List.not_mem_nil
  have hrecorded : desk.Recorded turns := hempty.after turns
  exact ⟨hsound.length, hrecorded, hsound.addLaw, desk.collectLaw, desk.updateLaw, desk.closeLaw⟩

end Stencil
