import Offload.Proofs.Host.History

/-!
# Verdicts

Whether a command fails, and why, is settled before it runs: it fails with its wait-list, or it is a
kernel that runs over the end of a buffer (`Operation.overruns`), or it succeeds. This is the
*verdict* on a command (`verdict`). It does not speak of queues, of the order in which they run
their commands, or of the calls that make them do so, and the verdict on the commands in the
wait-list is all that it needs to know of others. So commands that have resolved have failed or not
by their submissions alone (`State.History.failure?_eq`).

What an operation checks when it is carried out, and what was checked before it was submitted, holds
whenever it runs: transfers fit, and kernels find their arguments (`Store.status_of_perform`).
-/

namespace Offload.Host

variable {shape shape' : BufferId → Option (Access × Nat)} {operation : Operation}

/-- The operation is a kernel with an active work item that finds an element missing. -/
def Operation.overruns (shape : BufferId → Option (Access × Nat)) : Operation → Bool
  | kernel size entries =>
    match VectorAdd.arguments entries with
    | .ok args => [args.a, args.b, args.c].any fun buffer =>
      (shape buffer).any fun (_, length) => length < VectorAdd.activeItems size args.count
    | .error _ => false
  | _ => false

theorem Operation.overruns_kernel (size : UInt64) (args : Arguments) :
    (kernel size args.vector).overruns shape = [args.a, args.b, args.c].any fun buffer =>
      (shape buffer).any fun (_, length) => length < VectorAdd.activeItems size args.count := by
  rw [overruns, VectorAdd.arguments_vector]

/-- Why a command fails, if it does: with its wait-list, or for want of elements. -/
def verdict (shape : BufferId → Option (Access × Nat)) (failure? : EventId → Option Status)
    (command : Command) : Option Status :=
  if command.wait.any fun event => (failure? event).isSome then
    some .execStatusErrorForEventsInWaitList
  else if command.operation.overruns shape then some .outOfResources
  else none

theorem verdict_congr {failure? failure?' : EventId → Option Status} {command : Command}
    (hwait : ∀ event ∈ command.wait, failure? event = failure?' event)
    (hoverruns : command.operation.overruns shape = command.operation.overruns shape') :
    verdict shape failure? command = verdict shape' failure?' command := by
  have hany : (command.wait.any fun event => (failure? event).isSome) =
      command.wait.any fun event => (failure?' event).isSome := by
    rw [Bool.eq_iff_iff, List.any_eq_true, List.any_eq_true]
    exact exists_congr fun event => and_congr_right fun hevent => by rw [hwait event hevent]
  rw [verdict, verdict, hany, hoverruns]

/-- More buffers do not change the verdict on an operation that fits. -/
theorem Operation.Fits.overruns_eq (h : operation.Fits shape)
    (hle : ∀ buffer found, shape buffer = some found → shape' buffer = some found) :
    operation.overruns shape' = operation.overruns shape := by
  cases operation with
  | write | read => rfl
  | kernel size entries =>
    obtain ⟨args, rfl, hbuffers⟩ := h
    have hsame : ∀ buffer ∈ [args.a, args.b, args.c], shape' buffer = shape buffer := by
      intro buffer hbuffer
      obtain ⟨found, hfound⟩ := Option.isSome_iff_exists.1 (hbuffers buffer hbuffer)
      rw [hfound, hle buffer found hfound]
    simp only [List.mem_cons, List.not_mem_nil, or_false, forall_eq_or_imp, forall_eq] at hsame
    simp only [overruns_kernel, List.any_cons, List.any_nil, hsame]

/-- An operation that fits fails only if it is a kernel that overruns. -/
theorem Operation.Fits.perform_eq {memory : Memory} (h : operation.Fits shape)
    (hsize : ∀ buffer access size, shape buffer = some (access, size) →
      (memory buffer).size = size) :
    if operation.overruns shape then (operation.perform memory).1 = .error .outOfResources
    else ∃ fetched, (operation.perform memory).1 = .ok fetched := by
  cases operation with
  | write target data =>
    obtain ⟨access, size, hshape, hle⟩ := h
    refine ⟨#[], ?_⟩
    rw [perform, if_pos (hsize _ _ _ hshape ▸ hle)]
  | read source count =>
    obtain ⟨access, size, hshape, hle⟩ := h
    refine ⟨(memory source).extract 0 count, ?_⟩
    rw [perform, if_pos (hsize _ _ _ hshape ▸ hle)]
  | kernel size entries =>
    obtain ⟨args, rfl, hbuffers⟩ := h
    simp only [List.mem_cons, List.not_mem_nil, or_false, forall_eq_or_imp, forall_eq,
      Option.isSome_iff_exists, Prod.exists] at hbuffers
    obtain ⟨⟨_, lengthA, ha⟩, ⟨_, lengthB, hb⟩, ⟨_, lengthC, hc⟩⟩ := hbuffers
    have hcovered : VectorAdd.covered (memory args.a) (memory args.b) (memory args.c)
        (VectorAdd.activeItems size args.count) = VectorAdd.activeItems size args.count ↔
        ¬overruns shape (.kernel size args.vector) := by
      simp only [VectorAdd.covered, overruns_kernel, List.any_cons, List.any_nil, ha, hb, hc,
        hsize _ _ _ ha, hsize _ _ _ hb, hsize _ _ _ hc, Option.any_some, Bool.or_false,
        Bool.or_eq_true, decide_eq_true_eq]
      omega
    simp only [perform_kernel, VectorAdd.run_failure]
    split <;> rename_i hoverruns
    · rw [if_neg (by simpa [hcovered] using hoverruns)]
    · rw [if_pos (hcovered.2 hoverruns)]
      exact ⟨#[], rfl⟩

/-- A command whose operation fits fails by its verdict. -/
theorem Ledger.failure?_run {ledger : Ledger} {command : Command}
    (h : command.operation.Fits shape)
    (hsize : ∀ buffer access size, shape buffer = some (access, size) →
      (ledger.memory buffer).size = size) :
    (ledger.run command).failure? command.event = verdict shape ledger.failure? command := by
  have hverdict : verdict shape ledger.failure? command =
      if ledger.spoils command then some .execStatusErrorForEventsInWaitList
      else if command.operation.overruns shape then some .outOfResources else none := rfl
  have hperform := h.perform_eq hsize
  rw [hverdict, failure?, outcome_run_self]
  cases ledger.spoils command with
  | true => rfl
  | false =>
    split at hperform <;> rename_i hoverruns
    · simp [hperform, hoverruns]
    · obtain ⟨fetched, hfetched⟩ := hperform
      simp [hfetched, hoverruns]

namespace Store

variable {κ : Type} {store : Store κ} {event : EventId} {status : Status}

theorem size_memory {buffer : BufferId} {access : Access} {size : Nat}
    (h : store.shape buffer = some (access, size)) : (store.memory buffer).size = size := by
  obtain ⟨found, hfound, heq⟩ := Option.map_eq_some_iff.1 h
  rw [memory, hfound]
  exact (Prod.mk.inj heq).2

/-- In a state that an operation fits, it can fail for want of elements only. -/
theorem status_of_perform (h : operation.Fits store.shape)
    (hfailed : (store.perform operation).1 = .error status) : status = .outOfResources := by
  have hsize (buffer : BufferId) (access : Access) (size : Nat)
      (hshape : store.shape buffer = some (access, size)) : (store.memory buffer).size = size :=
    size_memory hshape
  have hperform := h.perform_eq hsize
  rw [(store.perform_eq operation).1] at hfailed
  split at hperform
  · exact (Except.error.inj (hperform.symm.trans hfailed)).symm
  · obtain ⟨fetched, hfetched⟩ := hperform
    exact nomatch hfetched.symm.trans hfailed

/-- A kernel overruns if it has more active work items than one of its buffers has elements. -/
theorem overruns_iff {size : UInt64} {args : Arguments}
    (h : (Operation.kernel size args.vector).Fits store.shape) :
    (Operation.kernel size args.vector).overruns store.shape ↔
      ∃ buffer ∈ [args.a, args.b, args.c],
        (store.memory buffer).size < min size.toNat (max args.count.toInt 0).toNat := by
  have hactive : VectorAdd.activeItems size args.count =
      min size.toNat (max args.count.toInt 0).toNat := by
    simp only [VectorAdd.activeItems, Int32.toNatClampNeg]
    omega
  rw [Operation.overruns_kernel, List.any_eq_true]
  refine exists_congr fun buffer => and_congr_right fun hmem => ?_
  obtain ⟨⟨access, length⟩, hshape⟩ := Option.isSome_iff_exists.1
    (h.isSome_of_mem_touches (Operation.touches_kernel size args ▸ hmem))
  rw [hshape, size_memory hshape, ← hactive]
  exact decide_eq_true_iff

theorem status_eq_failed_iff :
    store.status event = .failed status ↔ store.ledger.failure? event = some status := by
  simp only [Ledger.failure?, ledger, outcome?]
  cases store.status event <;> simp [EventStatus.outcome?]

theorem status_eq_complete_iff :
    (∃ stamps, store.status event = .complete stamps) ↔
      store.isResolved event ∧ store.ledger.failure? event = none := by
  simp only [isResolved, Ledger.failure?, ledger, outcome?]
  cases store.status event <;> simp [EventStatus.outcome?]

end Store

/-! ### Verdicts of a session -/

namespace State

variable {κ : Type} {state state' : State κ} {deeds : List Deed} {queue : QueueId}
  {command : Command}

namespace Accounted

theorem eq_of_event_eq (h : Accounted deeds state) {submission submission' : QueueId × Command}
    (hmem : submission ∈ submissions deeds) (hmem' : submission' ∈ submissions deeds)
    (heq : submission.2.event = submission'.2.event) : submission = submission' :=
  List.inj_on_of_nodup_map (h.numbered ▸ List.nodup_range) hmem hmem' heq

/-- Every event that has resolved belongs to a command. -/
theorem exists_submission (h : Accounted deeds state) {event : EventId}
    (hresolved : state.store.isResolved event) :
    ∃ submission ∈ submissions deeds, submission.2.event = event := by
  have hlt : event < state.store.events.size := by
    by_contra hle
    exact Bool.false_ne_true ((isResolved_of_size_le (Nat.le_of_not_lt hle)).symm.trans hresolved)
  exact List.mem_map.1 (h.numbered ▸ List.mem_range.2 hlt)

/-- A command that has resolved ran at some time, after all that it waited for. -/
theorem ran_split (h : Accounted deeds state) (hmem : (queue, command) ∈ submissions deeds)
    (hresolved : state.store.isResolved command.event) :
    ∃ before after, deeds = before ++ .ran queue command :: after ∧
      ∀ event ∈ command.wait, event ∈ ranEvents before := by
  obtain ⟨deed, hdeed, hran⟩ := List.mem_filterMap.1 ((h.resolved _).1 hresolved)
  cases deed with
  | submitted => exact nomatch hran
  | ran queue' c =>
    obtain ⟨before, after, hsplit⟩ := List.append_of_mem hdeed
    obtain ⟨hsubmitted, hwait⟩ := h.inTime before queue' c after hsplit
    -- the command that has run is the one submitted
    have hsubmitted' : (queue', c) ∈ submissions deeds := by
      rw [hsplit, submissions_append]
      exact List.mem_append_left _ hsubmitted
    have hsame := h.eq_of_event_eq hsubmitted' hmem (Option.some.inj hran)
    obtain ⟨rfl, rfl⟩ := Prod.mk.inj hsame
    exact ⟨before, after, hsplit, hwait⟩

/-- What a command that has resolved waited for has resolved as well. -/
theorem resolved_wait (h : Accounted deeds state) {submission : QueueId × Command}
    (hmem : submission ∈ submissions deeds)
    (hresolved : state.store.isResolved submission.2.event) {event : EventId}
    (hevent : event ∈ submission.2.wait) : state.store.isResolved event := by
  obtain ⟨before, after, hsplit, hwait⟩ := h.ran_split hmem hresolved
  rw [h.resolved, hsplit, ranEvents_append]
  exact List.mem_append_left _ (hwait event hevent)

end Accounted

/-- Commands that have resolved have failed, or not, by their verdicts. -/
def Judged (deeds : List Deed) (state : State κ) : Prop :=
  ∀ submission ∈ submissions deeds, state.store.isResolved submission.2.event →
    state.store.ledger.failure? submission.2.event =
      verdict state.store.shape state.store.ledger.failure? submission.2

namespace Judged

theorem rest (h : Judged deeds state) (haccounted : Accounted deeds state)
    (hrest : Undisturbed state state') : Judged deeds state' := by
  have hresolved : state'.store.isResolved = state.store.isResolved := by
    funext event
    simp only [Store.isResolved, Store.status, hrest.events]
  have hfailure : state'.store.ledger.failure? = state.store.ledger.failure? := by
    funext event
    simp only [Ledger.failure?, Store.ledger, Store.outcome?, Store.status, Store.fetched,
      hrest.events]
  intro submission hmem hdone
  rw [hresolved] at hdone
  rw [hfailure, h submission hmem hdone]
  exact verdict_congr (fun _ _ => rfl)
    ((haccounted.fits submission hmem).1.overruns_eq hrest.shape).symm

theorem submit (h : Judged deeds state) (operation : Operation) (wait : List EventId) :
    Judged (deeds ++ [.submitted queue ⟨operation, wait, state.store.events.size⟩])
      (state.submit queue operation wait).2 := by
  have hfailure : (state.submit queue operation wait).2.store.ledger.failure? =
      state.store.ledger.failure? := by
    funext event
    simp only [Ledger.failure?, Store.ledger, outcome?_submit]
  intro submission hmem hdone
  rw [isResolved_submit] at hdone
  rw [hfailure]
  rw [submissions_append] at hmem
  rcases List.mem_append.1 hmem with hmem | hmem
  · exact h submission hmem hdone
  · -- the new command has not resolved
    obtain rfl := List.mem_singleton.1 hmem
    exact absurd ((isResolved_of_size_le (Nat.le_refl _)).symm.trans hdone) Bool.false_ne_true

theorem run {failure : Option Status} (h : Judged deeds state) (haccounted : Accounted deeds state)
    (hstep : Stepped queue state command failure state') :
    Judged (deeds ++ [.ran queue command]) state' := by
  have hexecuted := hstep.executes haccounted.wellFormed
  have hqueued := (haccounted.wellFormed.unresolved queue command hstep.mem).2
  have hcommand := (mem_unfinished.1 (haccounted.pending queue ▸ hstep.mem)).1
  have hother {event : EventId} (hne : event ≠ command.event) :
      state'.store.ledger.failure? event = state.store.ledger.failure? event := by
    simp only [Ledger.failure?, hexecuted.ledger, Ledger.outcome_run_of_ne hne]
  intro submission hmem hdone
  rw [submissions_append, submissions_ran, List.append_nil] at hmem
  rw [hexecuted.shape]
  -- the command has just run, and the verdict on it is the one that it had before
  by_cases heq : submission.2.event = command.event
  · obtain rfl : submission = (queue, command) := haccounted.eq_of_event_eq hmem hcommand heq
    have hfits := haccounted.fits _ hmem
    have hrun : (state.store.ledger.run command).failure? command.event =
        verdict state.store.shape state.store.ledger.failure? command :=
      Ledger.failure?_run hfits.1 fun _ _ _ => Store.size_memory
    rw [hexecuted.ledger, hrun, ← hexecuted.ledger]
    exact verdict_congr
      (fun event hevent => (hother (Nat.ne_of_lt (hfits.2 event hevent))).symm) rfl
  · have hdone := (hexecuted.isResolved_iff.1 hdone).resolve_left heq
    rw [hother heq, h submission hmem hdone]
    refine verdict_congr (fun event hevent => (hother ?_).symm) rfl
    rintro rfl
    exact Bool.false_ne_true
      (hqueued.symm.trans (haccounted.resolved_wait hmem hdone hevent))

end Judged

variable [Clock Id κ]

theorem History.judged (h : History deeds state) : Judged deeds state := by
  refine h.induct (fun _ _ _ => nofun) fun deeds new state state' hhistory ih hmove => ?_
  cases hmove with
  | rest hrest => exact (List.append_nil _).symm ▸ ih.rest hhistory.accounted hrest
  | submit => exact ih.submit _ _
  | run hstep => exact ih.run hhistory.accounted hstep.spec

/-- Two sessions that submit the same commands, with buffers of the same sizes, agree on the
    failures of those that have resolved in both. -/
theorem History.failure?_eq {deeds' : List Deed} (h : History deeds state)
    (h' : History deeds' state')
    (hsame : (submissions deeds').map Prod.snd = (submissions deeds).map Prod.snd)
    (hshape : state'.store.shape = state.store.shape) {event : EventId}
    (hresolved : state.store.isResolved event) (hresolved' : state'.store.isResolved event) :
    state'.store.ledger.failure? event = state.store.ledger.failure? event := by
  have haccounted := h.accounted
  have haccounted' := h'.accounted
  -- a command is judged by earlier ones, so the induction is on its event
  induction event using Nat.strongRecOn with
  | ind event ih =>
    obtain ⟨⟨queue, c⟩, hmem, rfl⟩ := haccounted.exists_submission hresolved
    obtain ⟨⟨queue', _⟩, hmem', rfl⟩ :=
      List.mem_map.1 (hsame ▸ List.mem_map_of_mem (f := Prod.snd) hmem)
    rw [h.judged _ hmem hresolved, h'.judged _ hmem' hresolved', hshape]
    refine verdict_congr (fun event hevent => ?_) rfl
    exact ih event ((haccounted.fits _ hmem).2 event hevent)
      (haccounted.resolved_wait hmem hresolved hevent)
      (haccounted'.resolved_wait hmem' hresolved' hevent)

omit [Clock Id κ] in
/-- The three ways in which a command can end, each with its reason. -/
theorem Judged.status_iff (h : Judged deeds state) {submission : QueueId × Command}
    (hmem : submission ∈ submissions deeds)
    (hresolved : state.store.isResolved submission.2.event) :
    let c := submission.2
    let spoiled := ∃ event ∈ c.wait, ∃ failure, state.store.status event = .failed failure
    (state.store.status c.event = .failed .execStatusErrorForEventsInWaitList ↔ spoiled) ∧
      (state.store.status c.event = .failed .outOfResources ↔
        ¬spoiled ∧ c.operation.overruns state.store.shape) ∧
      ((∃ stamps, state.store.status c.event = .complete stamps) ↔
        ¬spoiled ∧ ¬c.operation.overruns state.store.shape) := by
  intro c spoiled
  have hspoiled : spoiled ↔
      c.wait.any fun event => (state.store.ledger.failure? event).isSome := by
    simp only [spoiled, Store.status_eq_failed_iff, List.any_eq_true, Option.isSome_iff_exists]
  have hverdict : state.store.ledger.failure? c.event = verdict _ _ c := h submission hmem hresolved
  simp only [hspoiled, Store.status_eq_failed_iff, Store.status_eq_complete_iff, hverdict, c,
    hresolved, true_and, verdict]
  have hne : Status.execStatusErrorForEventsInWaitList ≠ .outOfResources := by decide
  split
  · simp [*]
  · split <;> simp [*, hne.symm]

theorem History.status_of_failed (h : History deeds state) {event : EventId} {failure : Status}
    (hfailed : state.store.status event = .failed failure) :
    failure = .execStatusErrorForEventsInWaitList ∨ failure = .outOfResources := by
  have hresolved : state.store.isResolved event := by rw [Store.isResolved, hfailed]
  obtain ⟨submission, hmem, rfl⟩ := h.accounted.exists_submission hresolved
  rw [Store.status_eq_failed_iff, h.judged submission hmem hresolved, verdict] at hfailed
  split at hfailed
  · exact .inl (Option.some.inj hfailed).symm
  · exact .inr (Option.some.inj (Option.ite_none_right_eq_some.1 hfailed).2).symm

/-- What is bound to a kernel is always of the kinds of its parameters. Hence every kernel that is
    submitted finds its arguments in the vector that it is given, and no command, whenever it runs,
    fails for them or for a size that does not fit.

    A command that has resolved fails with its wait-list if an event of this has failed, otherwise
    for want of elements if it is a kernel that overruns, and otherwise it has completed. No event
    fails in any other way. So it does not matter when, on which queues and through which calls the
    commands ran: another session that submits the same commands, with buffers of the same sizes,
    comes to the same. -/
theorem Reachable.failures_by_submission (h : Reachable state) :
    (∃ deeds, History deeds state) ∧ (∀ kernel ∈ state.kernels, kernel.Typed) ∧
    ∀ deeds, History deeds state →
      (∀ submission ∈ submissions deeds,
        (∀ size entries, submission.2.operation = .kernel size entries → ∃ args,
          VectorAdd.arguments entries = .ok args ∧
          (submission.2.operation.overruns state.store.shape ↔
            ∃ buffer ∈ [args.a, args.b, args.c], (state.store.memory buffer).size <
              min size.toNat (max args.count.toInt 0).toNat)) ∧
        ∀ failure, (state.store.perform submission.2.operation).1 = .error failure →
          failure = .outOfResources) ∧
      (∀ submission ∈ submissions deeds, state.store.isResolved submission.2.event →
        let c := submission.2
        let spoiled := ∃ event ∈ c.wait, ∃ failure, state.store.status event = .failed failure
        (state.store.status c.event = .failed .execStatusErrorForEventsInWaitList ↔ spoiled) ∧
          (state.store.status c.event = .failed .outOfResources ↔
            ¬spoiled ∧ c.operation.overruns state.store.shape) ∧
          ((∃ stamps, state.store.status c.event = .complete stamps) ↔
            ¬spoiled ∧ ¬c.operation.overruns state.store.shape)) ∧
      (∀ event failure, state.store.status event = .failed failure →
        failure = .execStatusErrorForEventsInWaitList ∨ failure = .outOfResources) ∧
      ∀ (deeds' : List Deed) (state' : State κ), History deeds' state' →
        (submissions deeds').map Prod.snd = (submissions deeds).map Prod.snd →
        state'.store.shape = state.store.shape →
        ∀ event, state.store.isResolved event → state'.store.isResolved event →
          ∀ failure, state'.store.status event = .failed failure ↔
            state.store.status event = .failed failure := by
  refine ⟨h.exists_history, fun kernel hkernel => (h.known kernel hkernel).1, fun deeds hhistory =>
    ⟨fun submission hmem => ?_, fun submission hmem hresolved => ?_,
    fun event failure hfailed => hhistory.status_of_failed hfailed,
    fun deeds' state' hhistory' hsame hshape event hresolved hresolved' failure => ?_⟩⟩
  · have hfits := (hhistory.accounted.fits submission hmem).1
    refine ⟨fun size entries hkernel => ?_, fun failure hfailed =>
      Store.status_of_perform hfits hfailed⟩
    rw [hkernel] at hfits ⊢
    obtain ⟨args, rfl, -⟩ := id hfits
    exact ⟨args, VectorAdd.arguments_vector args, Store.overruns_iff hfits⟩
  · exact hhistory.judged.status_iff hmem hresolved
  · rw [Store.status_eq_failed_iff, Store.status_eq_failed_iff,
      hhistory.failure?_eq hhistory' hsame hshape hresolved hresolved']

/-- A kernel of two work items on buffers of one element, to which an integer is bound as its output
    in vain, and a download that waits for it. -/
theorem failures_by_submission_of_overrun :
    let device : Device := { name := "", kind := .cpu, order := .outOfOrder }
    let state : State Readings := (State.initial (.ofFunction fun _ => 0)).serve
      [.createQueue ⟨device⟩ device true, .createBuffer ⟨device⟩ 0 .input 1,
        .createBuffer ⟨device⟩ 0 .input 1, .createBuffer ⟨device⟩ 0 .output 1,
        .createProgram ⟨device⟩ "__kernel void vecadd(a, b, c, n)", .buildProgram 0 device,
        .createKernel 0 0 "vecadd" vectorAddParams, .setKernelArg 0 0 (.buffer 0),
        .setKernelArg 0 1 (.buffer 1), .setKernelArg 0 2 (.buffer 2), .setKernelArg 0 3 (.int 2),
        .setKernelArg 0 2 (.int 7), .enqueueKernel 0 0 2 [], .enqueueRead 0 2 true #[0] [0]]
    state.Reachable ∧ state.store.status 0 = .failed .outOfResources ∧
      state.store.status 1 = .failed .execStatusErrorForEventsInWaitList ∧
      (∃ kernel ∈ state.kernels, kernel.Typed ∧ kernel.args =
        [some (.buffer 0), some (.buffer 1), some (.buffer 2), some (.scalar [2, 0, 0, 0])]) ∧
      ∃ deeds, History deeds state ∧ ∀ submission ∈ submissions deeds, submission.2.event = 0 →
        submission.2.operation.overruns state.store.shape := by
  intro device state
  have hreachable : state.Reachable := (reachable_initial _).serve _
  have hfailed : state.store.status 0 = .failed .outOfResources := by decide +kernel
  have hspoiled : state.store.status 1 = .failed .execStatusErrorForEventsInWaitList := by
    decide +kernel
  have hkernel : state.kernels[0]? = some ⟨[some (.buffer 0), some (.buffer 1), some (.buffer 2),
      some (.scalar [2, 0, 0, 0])]⟩ := by
    decide +kernel
  obtain ⟨⟨deeds, hhistory⟩, htyped, hverdicts⟩ := hreachable.failures_by_submission
  have hmem := Array.mem_of_getElem? hkernel
  refine ⟨hreachable, hfailed, hspoiled, ⟨_, hmem, htyped _ hmem, rfl⟩, deeds, hhistory,
    fun submission hmem hevent => ?_⟩
  have hresolved : state.store.isResolved submission.2.event := by
    rw [hevent, Store.isResolved, hfailed]
  have hstatus := ((hverdicts deeds hhistory).2.1 submission hmem hresolved).2.1
  exact (hstatus.1 (hevent ▸ hfailed)).2

end State

end Offload.Host
