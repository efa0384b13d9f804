import Offload.Proofs.Host.Pass
import Offload.Proofs.Host.Settled
import Offload.Proofs.Host.Verdicts

/-!
# Passes that complete

Where nothing but a pass is pending on a queue, the commands wait for each other only, and driving
the queue to the download runs all of them. By the verdicts they complete, unless the kernel
overruns (`State.History.pass_completes`), and then the download fails with it
(`State.History.pass_overruns`).
-/

namespace Offload.Host

namespace Pass

theorem forall_mem_commands {pass : Pass} {property : Command → Prop} :
    (∀ c ∈ pass.commands, property c) ↔ property pass.uploadA ∧ property pass.uploadB ∧
      property pass.addition ∧ property pass.download := by
  simp [commands]

/-- The commands of a pass wait for commands of the pass only. -/
theorem exists_of_mem_wait (pass : Pass) : ∀ c ∈ pass.commands, ∀ event ∈ c.wait,
    ∃ other ∈ pass.commands, other.event = event := by
  rw [forall_mem_commands]
  simp [commands, uploadA, uploadB, addition, download]

end Pass

namespace State

variable {κ : Type} {state state' : State κ} {queue : QueueId} {deeds : List Deed}

/-- A queue is alone if what its commands wait for is pending on it as well. -/
theorem WellFormed.alone (h : state.WellFormed) (hqueue : queue < state.queues.size)
    (hwait : ∀ c ∈ state.pending queue, ∀ event ∈ c.wait,
      ∃ other ∈ state.pending queue, other.event = event) : Alone queue state := by
  refine ⟨h, hqueue, fun c hc queue' hne other hother hevent => ?_⟩
  obtain ⟨own, hown, heq⟩ := hwait c hc _ hevent
  exact hne (h.unique queue' other hother queue own hown heq.symm)

theorem Accounted.mem_submissions (h : Accounted deeds state) {c : Command}
    (hc : c ∈ state.pending queue) : (queue, c) ∈ submissions deeds :=
  (mem_unfinished.1 (h.pending queue ▸ hc)).1

variable [Clock Id κ]

/-- Driving a queue without pending commands does nothing. -/
theorem drive_of_idle (hqueue : queue < state.queues.size) (hpending : state.pending queue = [])
    (target : Option EventId) : state.drive (m := Id) queue target = (.ok (), state) := by
  rcases hdrive : state.drive (m := Id) queue target with ⟨answer, after⟩
  obtain ⟨log, hsteps, hending⟩ := drive_steps hqueue hdrive
  cases hsteps with
  | step hstep => exact absurd (hpending ▸ hstep.spec.mem) List.not_mem_nil
  | refl =>
    cases hending with
    | done => rfl
    | stuck _ hq hne => exact absurd ((pending_eq hq).symm.trans hpending) hne

theorem History.moves {new : List Deed} (h : History deeds state)
    (hmoves : Moves state new state') : History (deeds ++ new) state' := by
  obtain ⟨clock, platforms, fault, hpast⟩ := h
  exact ⟨clock, platforms, fault, hpast.trans hmoves⟩

/-- A command that has resolved has completed if what it waits for has and it does not overrun. -/
theorem History.completes (h : History deeds state) {c : Command}
    (hmem : (queue, c) ∈ submissions deeds) (hresolved : state.store.isResolved c.event)
    (hwait : ∀ event ∈ c.wait, ∃ stamps, state.store.status event = .complete stamps)
    (hoverruns : c.operation.overruns state.store.shape = false) :
    ∃ stamps, state.store.status c.event = .complete stamps := by
  refine (h.judged.status_iff hmem hresolved).2.2.2 ⟨?_, by simp [hoverruns]⟩
  rintro ⟨event, hevent, failure, hfailed⟩
  obtain ⟨stamps, hcomplete⟩ := hwait event hevent
  exact nomatch hcomplete.symm.trans hfailed

/-- Driving a queue on which only a pass is pending to the download runs all of the pass. -/
theorem History.pass_resolves {pass : Pass} {answer : Except Status Unit} (h : History deeds state)
    (hqueue : queue < state.queues.size) (hpending : state.pending queue = pass.commands)
    (hdrive : state.drive (m := Id) queue (some pass.readC) = (answer, state')) :
    state'.pending queue = [] ∧ state'.store.shape = state.store.shape ∧
      ∃ deeds', History deeds' state' ∧ ∀ c ∈ pass.commands, (queue, c) ∈ submissions deeds' ∧
        state'.store.isResolved c.event := by
  have haccounted := h.accounted
  have hwf := haccounted.wellFormed
  have halone : Alone queue state := hwf.alone hqueue (hpending ▸ pass.exists_of_mem_wait)
  obtain ⟨log, hsteps, hran, -⟩ := hwf.drive hqueue hdrive
  -- the commands of the pass are in the record of what was submitted
  have hafter := h.moves hsteps.moves
  have hmem : ∀ c ∈ pass.commands,
      (queue, c) ∈ submissions (deeds ++ log.map fun entry => .ran queue entry.1) := by
    intro c hc
    rw [submissions_append]
    exact List.mem_append_left _ (haccounted.mem_submissions (hpending ▸ hc))
  obtain ⟨-, -, hmemAdded, hmemRead⟩ := Pass.forall_mem_commands.1 hmem
  -- the download resolves, and so does all that is waited for
  have hread : state'.store.isResolved pass.download.event := by
    have hdownload : pass.download ∈ state.pending queue := by simp [hpending, Pass.commands]
    obtain ⟨outcome, houtcome, -⟩ := (hwf.await hqueue hdownload hdrive).2 (halone.not_blocked _)
    rw [Store.isResolved_eq, houtcome, Option.isSome_some]
  have haccounted' := hafter.accounted
  have hadded : state'.store.isResolved pass.added :=
    haccounted'.resolved_wait hmemRead hread (List.mem_singleton_self _)
  have hwriteA : state'.store.isResolved pass.writeA :=
    haccounted'.resolved_wait hmemAdded hadded List.mem_cons_self
  have hwriteB : state'.store.isResolved pass.writeB :=
    haccounted'.resolved_wait hmemAdded hadded (List.mem_cons_of_mem _ (List.mem_singleton_self _))
  have hresolved : ∀ c ∈ pass.commands, state'.store.isResolved c.event :=
    Pass.forall_mem_commands.2 ⟨hwriteA, hwriteB, hadded, hread⟩
  refine ⟨List.eq_nil_iff_forall_not_mem.2 fun c hc => ?_, hran.shape, _, hafter,
    fun c hc => ⟨hmem c hc, hresolved c hc⟩⟩
  have hdone := hresolved c (hpending ▸ hran.sublist.subset hc)
  exact Bool.false_ne_true ((hran.wellFormed.unresolved queue c hc).2.symm.trans hdone)

/-- The uploads of a pass complete. -/
theorem History.uploads_complete {pass : Pass} (h : History deeds state)
    (hresolved : ∀ c ∈ pass.commands, (queue, c) ∈ submissions deeds ∧
      state.store.isResolved c.event) :
    ∀ event ∈ [pass.writeA, pass.writeB],
      ∃ stamps, state.store.status event = .complete stamps := by
  obtain ⟨⟨hmemA, hwriteA⟩, ⟨hmemB, hwriteB⟩, -⟩ := Pass.forall_mem_commands.1 hresolved
  exact List.forall_mem_cons.2 ⟨h.completes hmemA hwriteA (List.forall_mem_nil _) rfl,
    List.forall_mem_singleton.2 (h.completes hmemB hwriteB (List.forall_mem_nil _) rfl)⟩

/-- Driving a queue on which only a pass is pending to the download completes the pass. -/
theorem History.pass_completes {pass : Pass} {answer : Except Status Unit} (h : History deeds state)
    (hqueue : queue < state.queues.size) (hpending : state.pending queue = pass.commands)
    (hoverruns : pass.addition.operation.overruns state.store.shape = false)
    (hdrive : state.drive (m := Id) queue (some pass.readC) = (answer, state')) :
    state'.pending queue = [] ∧
      ∀ c ∈ pass.commands, ∃ stamps, state'.store.status c.event = .complete stamps := by
  obtain ⟨hidle, hshape, deeds', hafter, hresolved⟩ := h.pass_resolves hqueue hpending hdrive
  obtain ⟨-, -, ⟨hmemAdded, hadded⟩, hmemRead, hread⟩ := Pass.forall_mem_commands.1 hresolved
  -- one after the other they complete
  have huploads := hafter.uploads_complete hresolved
  have hcompleteAdded := hafter.completes hmemAdded hadded huploads (hshape ▸ hoverruns)
  have hcompleteRead := hafter.completes hmemRead hread
    (List.forall_mem_singleton.2 hcompleteAdded) rfl
  exact ⟨hidle, Pass.forall_mem_commands.2
    ⟨huploads pass.writeA (by simp), huploads pass.writeB (by simp), hcompleteAdded,
      hcompleteRead⟩⟩

/-- Where the kernel of a pass overruns, it fails, and the download fails with it. -/
theorem History.pass_overruns {pass : Pass} {answer : Except Status Unit} (h : History deeds state)
    (hqueue : queue < state.queues.size) (hpending : state.pending queue = pass.commands)
    (hoverruns : pass.addition.operation.overruns state.store.shape = true)
    (hdrive : state.drive (m := Id) queue (some pass.readC) = (answer, state')) :
    state'.pending queue = [] ∧
      state'.store.status pass.readC = .failed .execStatusErrorForEventsInWaitList := by
  obtain ⟨hidle, hshape, deeds', hafter, hresolved⟩ := h.pass_resolves hqueue hpending hdrive
  obtain ⟨-, -, ⟨hmemAdded, hadded⟩, hmemRead, hread⟩ := Pass.forall_mem_commands.1 hresolved
  have hfailed : state'.store.status pass.added = .failed .outOfResources := by
    refine (hafter.judged.status_iff hmemAdded hadded).2.1.2 ⟨?_, hshape ▸ hoverruns⟩
    rintro ⟨event, hevent, failure, hfailed⟩
    obtain ⟨stamps, hcomplete⟩ := hafter.uploads_complete hresolved event hevent
    exact nomatch hcomplete.symm.trans hfailed
  exact ⟨hidle, (hafter.judged.status_iff hmemRead hread).1.2
    ⟨pass.added, List.mem_singleton_self _, _, hfailed⟩⟩

end State

/-! ### Passes under way -/

/-- The events of a pass are given out one after the other. -/
def Pass.Consecutive (pass : Pass) : Prop :=
  pass.writeB = pass.writeA + 1 ∧ pass.added = pass.writeA + 2 ∧ pass.readC = pass.writeA + 3

theorem Pass.Consecutive.of_getElem? {pass : Pass} {count : Nat} {command : Command}
    (h : pass.Consecutive) (hcommand : pass.commands[count]? = some command) :
    command.event = pass.writeA + count ∧ ∀ event ∈ command.wait, event < pass.writeA + count := by
  obtain ⟨hwriteB, hadded, hreadC⟩ := h
  rcases count with _ | _ | _ | _ | count
  · obtain rfl := Option.some.inj hcommand
    exact ⟨rfl, List.forall_mem_nil _⟩
  · obtain rfl := Option.some.inj hcommand
    exact ⟨hwriteB, List.forall_mem_nil _⟩
  · obtain rfl := Option.some.inj hcommand
    simp [Pass.addition, hwriteB, hadded]
  · obtain rfl := Option.some.inj hcommand
    simp [Pass.download, hadded, hreadC]
  · simp [Pass.commands] at hcommand

/-- The kernel has the arguments of a pass, and each of the buffers has so many elements. -/
structure Pass.Ready {κ : Type} [Clock Id κ] (pass : Pass) (queue : QueueId) (kernel : KernelId)
    (capacity : Nat) (state : State κ) : Prop where
  reachable : state.Reachable
  lt_size : queue < state.queues.size
  a_ne_b : pass.args.a ≠ pass.args.b
  shape_a : state.store.shape pass.args.a = some (.input, capacity)
  shape_b : state.store.shape pass.args.b = some (.input, capacity)
  shape_c : state.store.shape pass.args.c = some (.output, capacity)
  bound : state.kernels[kernel]?.bind Kernel.arguments? = some pass.args.vector

/-- The first commands of a pass have been submitted to a queue, and nothing else is pending
    there. -/
structure Pass.Underway {κ : Type} [Clock Id κ] (pass : Pass) (queue : QueueId) (kernel : KernelId)
    (capacity count : Nat) (state : State κ) : Prop where
  ready : pass.Ready queue kernel capacity state
  consecutive : pass.Consecutive
  pending : state.pending queue = pass.commands.take count
  size_events : state.store.events.size = pass.writeA + count

namespace Pass.Underway

open State

variable {κ : Type} [Clock Id κ] {pass : Pass} {queue : QueueId} {kernel : KernelId}
  {capacity count : Nat} {state : State κ} {command : Command}

theorem event_eq (h : pass.Underway queue kernel capacity count state)
    (hcommand : pass.commands[count]? = some command) :
    state.store.events.size = command.event :=
  h.size_events.trans (h.consecutive.of_getElem? hcommand).1.symm

theorem checkSubmission (h : pass.Underway queue kernel capacity count state)
    (hcommand : pass.commands[count]? = some command) :
    state.checkSubmission queue command.wait = .ok () :=
  checkSubmission_eq_ok_iff.2
    ⟨h.ready.lt_size, h.size_events ▸ (h.consecutive.of_getElem? hcommand).2⟩

theorem pending_submit (h : pass.Underway queue kernel capacity count state)
    (hcommand : pass.commands[count]? = some command) :
    (state.submit queue command.operation command.wait).2.pending queue =
      pass.commands.take (count + 1) := by
  rw [State.pending_submit _ _ h.ready.lt_size, if_pos rfl, h.pending, h.event_eq hcommand,
    List.take_add_one, hcommand]
  rfl

theorem submit (h : pass.Underway queue kernel capacity count state)
    (hcommand : pass.commands[count]? = some command)
    (hreachable :
      (state.submit queue command.operation command.wait).2.takeNotices.2.Reachable) :
    pass.Underway queue kernel capacity (count + 1)
      (state.submit queue command.operation command.wait).2.takeNotices.2 where
  ready := { h.ready with
    reachable := hreachable
    lt_size := by simpa [State.submit, takeNotices] using h.ready.lt_size }
  consecutive := h.consecutive
  pending := h.pending_submit hcommand
  size_events :=
    (size_events_submit command.operation command.wait).trans (congrArg (· + 1) h.size_events)

theorem takeNotices (h : pass.Underway queue kernel capacity count state) :
    pass.Underway queue kernel capacity count state.takeNotices.2 :=
  { h with ready := { h.ready with reachable := h.ready.reachable.takeNotices } }

/-- An upload of more elements than the buffer has is refused. -/
theorem enqueueWrite_refused {buffer : BufferId} {data : Array Int32} {event : EventId}
    (h : pass.Underway queue kernel capacity count state)
    (hcommand : pass.commands[count]? = some ⟨.write buffer data, [], event⟩)
    (hshape : state.store.shape buffer = some (.input, capacity)) (hlarge : capacity < data.size) :
    state.enqueueWrite (m := Id) queue buffer false data [] = (.error .invalidValue, state) := by
  have hcheck : state.checkSubmission queue [] = .ok () := h.checkSubmission hcommand
  have hadmitted : state.admitWrite queue buffer data [] = .error .invalidValue := by
    rw [admitWrite_eq, hcheck, hshape]
    simp [bind, Except.bind, hlarge, Access.hostCanWrite, Access.input]
  rw [enqueueWrite_eq, hadmitted]

/-- An upload that the buffer has room for is submitted. -/
theorem enqueueWrite {buffer : BufferId} {data : Array Int32} {event : EventId}
    (h : pass.Underway queue kernel capacity count state)
    (hcommand : pass.commands[count]? = some ⟨.write buffer data, [], event⟩)
    (hshape : state.store.shape buffer = some (.input, capacity)) (hfits : data.size ≤ capacity) :
    let submitted := (state.submit queue (.write buffer data) []).2
    state.enqueueWrite (m := Id) queue buffer false data [] = (.ok event, submitted) ∧
      pass.Underway queue kernel capacity (count + 1) submitted.takeNotices.2 := by
  intro submitted
  have hcheck : state.checkSubmission queue [] = .ok () := h.checkSubmission hcommand
  have hadmitted : state.admitWrite queue buffer data [] = .ok (.write buffer data) := by
    rw [admitWrite_eq, hcheck, hshape]
    simp [bind, Except.bind, hfits, Access.hostCanWrite, Access.input]
  have hanswer :
      state.enqueueWrite (m := Id) queue buffer false data [] = (.ok event, submitted) := by
    rw [enqueueWrite_eq, hadmitted, h.event_eq hcommand]
    rfl
  have hreachable := h.ready.reachable.answer (.enqueueWrite queue buffer false data [])
  simp only [Host.answer, hanswer] at hreachable
  exact ⟨hanswer, h.submit hcommand hreachable⟩

/-- The kernel is submitted. -/
theorem enqueueKernel (h : pass.Underway queue kernel capacity 2 state) :
    let submitted := (state.submit queue (.kernel pass.size pass.args.vector)
      [pass.writeA, pass.writeB]).2
    state.enqueueKernel queue kernel pass.size [pass.writeA, pass.writeB] =
        (.ok pass.added, submitted) ∧
      pass.Underway queue kernel capacity 3 submitted.takeNotices.2 := by
  intro submitted
  have hcommand : pass.commands[2]? = some pass.addition := rfl
  have hcheck : state.checkSubmission queue [pass.writeA, pass.writeB] = .ok () :=
    h.checkSubmission hcommand
  have hadmitted : state.admitKernel queue kernel pass.size [pass.writeA, pass.writeB] =
      .ok (.kernel pass.size pass.args.vector) := by
    rw [admitKernel_of_bound hcheck h.ready.bound h.ready.shape_c]
    rfl
  have hanswer : state.enqueueKernel queue kernel pass.size [pass.writeA, pass.writeB] =
      (.ok pass.added, submitted) := by
    rw [enqueueKernel_eq, hadmitted, h.event_eq hcommand]
    rfl
  have hreachable := h.ready.reachable.answer
    (.enqueueKernel queue kernel pass.size [pass.writeA, pass.writeB])
  simp only [Host.answer, hanswer] at hreachable
  exact ⟨hanswer, h.submit hcommand hreachable⟩

/-- The kernel overruns if it has more work items than its buffers have elements. -/
theorem overruns_eq (h : pass.Underway queue kernel capacity count state) :
    pass.addition.operation.overruns state.store.shape =
      decide (capacity < VectorAdd.activeItems pass.size pass.args.count) := by
  simp [Operation.overruns_kernel, addition, h.ready.shape_a, h.ready.shape_b, h.ready.shape_c]

/-- Submitting the download completes what is pending to the pass. -/
theorem submit_read (h : pass.Underway queue kernel capacity 3 state)
    (hfits : pass.length ≤ capacity) :
    let submitted := (state.submit queue (.read pass.args.c pass.length) [pass.added]).2
    state.admitRead queue pass.args.c pass.length [pass.added] =
        .ok (.read pass.args.c pass.length) ∧
      queue < submitted.queues.size ∧ submitted.pending queue = pass.commands ∧
      ∃ deeds, History deeds submitted := by
  intro submitted
  have hcommand : pass.commands[3]? = some pass.download := rfl
  have hcheck : state.checkSubmission queue [pass.added] = .ok () := h.checkSubmission hcommand
  have hadmitted : state.admitRead queue pass.args.c pass.length [pass.added] =
      .ok (.read pass.args.c pass.length) := by
    rw [admitRead_eq, hcheck, h.ready.shape_c]
    simp [bind, Except.bind, hfits, Access.hostCanRead, Access.output]
  obtain ⟨-, -, hoperation⟩ := admitRead_fits hadmitted
  obtain ⟨deeds, hhistory⟩ := h.ready.reachable.exists_history
  exact ⟨hadmitted, by simpa [submitted, State.submit] using h.ready.lt_size,
    h.pending_submit hcommand, _, hhistory.moves (Move.submit hcheck hoperation).moves⟩

variable {out : Array Int32} {driven : Except Status Unit} {after : State κ}

/-- The download answers with the outcome of its command. -/
theorem enqueueRead_of_outcome (h : pass.Underway queue kernel capacity 3 state)
    (hlength : pass.length = out.size) (hfits : pass.length ≤ capacity)
    (hdrive : (state.submit queue (.read pass.args.c pass.length) [pass.added]).2.drive (m := Id)
      queue (some pass.readC) = (driven, after))
    {outcome : Except Status (Array Int32)}
    (houtcome : after.store.outcome? pass.readC = some outcome) :
    state.enqueueRead (m := Id) queue pass.args.c out [pass.added] =
        (downloaded out pass.readC outcome, after) ∧
      pass.Ready queue kernel capacity after.takeNotices.2 := by
  obtain ⟨hadmitted, hqueue, -, deeds, hhistory⟩ := h.submit_read hfits
  obtain ⟨log, -, hran, -⟩ := hhistory.accounted.wellFormed.drive hqueue hdrive
  have hcommand : pass.commands[3]? = some pass.download := rfl
  have hevent : state.store.events.size = pass.readC := h.event_eq hcommand
  rw [hlength] at hadmitted hdrive
  have hanswer := State.enqueueRead_of_outcome hadmitted (hevent ▸ hdrive) (hevent ▸ houtcome)
  rw [hevent] at hanswer
  have hreachable := h.ready.reachable.answer (.enqueueRead queue pass.args.c true out [pass.added])
  simp only [Host.answer, hanswer] at hreachable
  refine ⟨hanswer, hreachable, hran.size_queues ▸ hqueue, h.ready.a_ne_b, ?_, ?_, ?_, ?_⟩
  · exact (congrFun hran.shape _).trans h.ready.shape_a
  · exact (congrFun hran.shape _).trans h.ready.shape_b
  · exact (congrFun hran.shape _).trans h.ready.shape_c
  · exact (congrArg (fun kernels => kernels[kernel]?.bind Kernel.arguments?) hran.kernels).trans
      h.ready.bound

/-- Where the kernel has no more work items than its buffers have elements, the download completes
    the pass. It hands out the sums if there is a work item for each of them. -/
theorem enqueueRead_completes (h : pass.Underway queue kernel capacity 3 state)
    (hlength : pass.length = out.size) (hA : pass.dataA.size = pass.length)
    (hB : pass.dataB.size = pass.length)
    (hactive : pass.length ≤ VectorAdd.activeItems pass.size pass.args.count)
    (hwide : VectorAdd.activeItems pass.size pass.args.count ≤ capacity) :
    ∃ log after sums,
      Steps queue (state.submit queue (.read pass.args.c pass.length) [pass.added]).2 log after ∧
      state.enqueueRead (m := Id) queue pass.args.c out [pass.added] =
        ((.ok pass.readC, sums), after) ∧
      sums.toArray = Array.zipWith (· + ·) pass.dataA pass.dataB ∧
      pass.Ready queue kernel capacity after.takeNotices.2 ∧ after.pending queue = [] ∧
      ∀ c ∈ pass.commands, ∃ stamps, after.store.status c.event = .complete stamps := by
  have hfits := Nat.le_trans hactive hwide
  obtain ⟨-, hqueue, hpending, deeds, hhistory⟩ := h.submit_read hfits
  rcases hdrive : (state.submit queue (.read pass.args.c pass.length) [pass.added]).2.drive
    (m := Id) queue (some pass.readC) with ⟨driven, after⟩
  have hwf := hhistory.accounted.wellFormed
  obtain ⟨log, hsteps, -⟩ := hwf.drive hqueue hdrive
  have hoverruns : pass.addition.operation.overruns state.store.shape = false :=
    h.overruns_eq.trans (decide_eq_false (Nat.not_lt.2 hwide))
  obtain ⟨hidle, hcomplete⟩ := hhistory.pass_completes hqueue hpending hoverruns hdrive
  obtain ⟨-, -, -, stamps, hstatus⟩ := Pass.forall_mem_commands.1 hcomplete
  have houtcome :
      after.store.outcome? pass.readC = some (.ok (after.store.fetched pass.readC)) := by
    rw [Store.outcome?]
    exact congrArg (EventStatus.outcome? _) hstatus
  have hpass : (state.submit queue (.read pass.args.c pass.length) [pass.added]).2.pending queue =
      [] ++ pass.commands := hpending
  obtain ⟨hfetched, hsums⟩ :=
    hsteps.fetched_eq_zipWith hwf hpass h.ready.a_ne_b houtcome hA hB hactive
  obtain ⟨hanswer, hready⟩ := h.enqueueRead_of_outcome hlength hfits hdrive houtcome
  exact ⟨log, after, _, hsteps, hanswer,
    (toArray_deliver (hfetched.trans hlength)).trans hsums, hready, hidle, hcomplete⟩

/-- Where the kernel has more work items, the download fails with it, and fetches nothing. -/
theorem enqueueRead_overruns (h : pass.Underway queue kernel capacity 3 state)
    (hlength : pass.length = out.size) (hfits : pass.length ≤ capacity)
    (hnarrow : capacity < VectorAdd.activeItems pass.size pass.args.count) :
    ∃ after, state.enqueueRead (m := Id) queue pass.args.c out [pass.added] =
        ((.error .execStatusErrorForEventsInWaitList, out.toVector), after) ∧
      pass.Ready queue kernel capacity after.takeNotices.2 ∧ after.pending queue = [] := by
  obtain ⟨-, hqueue, hpending, deeds, hhistory⟩ := h.submit_read hfits
  rcases hdrive : (state.submit queue (.read pass.args.c pass.length) [pass.added]).2.drive
    (m := Id) queue (some pass.readC) with ⟨driven, after⟩
  have hoverruns : pass.addition.operation.overruns state.store.shape = true :=
    h.overruns_eq.trans (decide_eq_true hnarrow)
  obtain ⟨hidle, hfailed⟩ := hhistory.pass_overruns hqueue hpending hoverruns hdrive
  have houtcome : after.store.outcome? pass.readC =
      some (.error .execStatusErrorForEventsInWaitList) := by
    rw [Store.outcome?]
    exact congrArg (EventStatus.outcome? _) hfailed
  obtain ⟨hanswer, hready⟩ := h.enqueueRead_of_outcome hlength hfits hdrive houtcome
  exact ⟨after, hanswer, hready, hidle⟩

end Pass.Underway

end Offload.Host
