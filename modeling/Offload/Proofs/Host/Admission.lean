import Offload.Host.State
import Offload.Proofs.Host.Execution

/-!
# Admission

Whether a command is admitted depends on the numbers of queues and events, on the shapes of buffers
and on the bindings of kernels only: none of these changes when commands run. An enqueued command is
admitted, submitted to its queue and, if it blocks, waited for (`State.enqueueWrite_eq` and so on).
-/

namespace Offload.Host

/-- The check of the output of a kernel, by the shapes of buffers: devices may write the buffer in
    its place. -/
def outputCheck (shape : BufferId → Option (Access × Nat)) (args : List Bound) :
    Except Status Unit :=
  match args[VectorAdd.output]? with
  | some (.buffer buffer) =>
    match shape buffer with
    | none => .error .invalidMemObject
    | some (access, _) => if access.deviceCanWrite then .ok () else .error .invalidOperation
  | _ => .ok ()

theorem outputCheck_vector (shape : BufferId → Option (Access × Nat)) (args : Arguments) :
    outputCheck shape args.vector =
      match shape args.c with
      | none => .error .invalidMemObject
      | some (access, _) => if access.deviceCanWrite then .ok () else .error .invalidOperation :=
  rfl

namespace State

variable {κ : Type} {state : State κ} {queue : QueueId} {wait : List EventId}
  {operation : Operation}

theorem checkSubmission_eq_ok_iff :
    state.checkSubmission queue wait = .ok () ↔
      queue < state.queues.size ∧ ∀ event ∈ wait, event < state.store.events.size := by
  rw [checkSubmission]
  split
  · rename_i h
    simp [Nat.not_lt.2 h]
  · rename_i h
    split <;> rename_i hwait <;> simp_all

/-- The admission of an upload, by the shape of its target. -/
theorem admitWrite_eq (buffer : BufferId) (data : Array Int32) :
    state.admitWrite queue buffer data wait = (do
      state.checkSubmission queue wait
      match state.store.shape buffer with
      | none => .error .invalidMemObject
      | some (access, size) =>
        if !access.hostCanWrite then .error .invalidOperation
        else if size < data.size then .error .invalidValue
        else .ok (.write buffer data)) := by
  rw [admitWrite, Store.shape]
  cases state.store.buffers[buffer]? <;> rfl

theorem checkOutput_eq (args : List Bound) :
    state.checkOutput args = outputCheck state.store.shape args := by
  rw [checkOutput, outputCheck]
  rcases args[VectorAdd.output]? with _ | buffer | bytes
  · rfl
  · simp only [Store.shape]
    cases state.store.buffers[buffer]? <;> rfl
  · rfl

/-- The admission of a kernel, by its bindings and the shape of its output. -/
theorem admitKernel_eq (kernel : KernelId) (size : UInt64) :
    state.admitKernel queue kernel size wait = (do
      state.checkSubmission queue wait
      match state.kernels[kernel]?.bind Kernel.arguments? with
      | none => .error .invalidKernelArgs
      | some args =>
        outputCheck state.store.shape args
        return .kernel size args) := by
  rw [admitKernel]
  congr 1
  funext _
  cases state.kernels[kernel]?.bind Kernel.arguments? with
  | none => rfl
  | some args => simp only [checkOutput_eq]

/-- The admission of a kernel whose arguments are bound. -/
theorem admitKernel_of_bound {kernel : KernelId} {size : UInt64} {args : Arguments}
    {access : Access} {length : Nat} (hcheck : state.checkSubmission queue wait = .ok ())
    (hargs : state.kernels[kernel]?.bind Kernel.arguments? = some args.vector)
    (hshape : state.store.shape args.c = some (access, length)) :
    state.admitKernel queue kernel size wait =
      if access.deviceCanWrite then .ok (.kernel size args.vector)
      else .error .invalidOperation := by
  rw [admitKernel_eq, hcheck, hargs]
  simp only [outputCheck_vector, hshape]
  split <;> rfl

/-- The admission of a download, by the shape of its source. -/
theorem admitRead_eq (buffer : BufferId) (count : Nat) :
    state.admitRead queue buffer count wait = (do
      state.checkSubmission queue wait
      match state.store.shape buffer with
      | none => .error .invalidMemObject
      | some (access, size) =>
        if !access.hostCanRead then .error .invalidOperation
        else if size < count then .error .invalidValue
        else .ok (.read buffer count)) := by
  rw [admitRead, Store.shape]
  cases state.store.buffers[buffer]? <;> rfl

/-! ### What is admitted -/

theorem checkSubmission_of_bind {next : Except Status Operation}
    (h : (do state.checkSubmission queue wait; next) = .ok operation) :
    state.checkSubmission queue wait = .ok () ∧ next = .ok operation := by
  cases hcheck : state.checkSubmission queue wait with
  | error status =>
    rw [hcheck] at h
    exact nomatch h
  | ok _ =>
    rw [hcheck] at h
    exact ⟨rfl, h⟩

theorem admitWrite_eq_ok {buffer : BufferId} {data : Array Int32}
    (h : state.admitWrite queue buffer data wait = .ok operation) :
    state.checkSubmission queue wait = .ok () ∧ operation = .write buffer data ∧
      ∃ access size, state.store.shape buffer = some (access, size) ∧ data.size ≤ size := by
  rw [admitWrite_eq] at h
  obtain ⟨hcheck, h⟩ := checkSubmission_of_bind h
  split at h
  · exact nomatch h
  · rename_i access size hshape
    split at h
    · exact nomatch h
    · split at h
      · exact nomatch h
      · rename_i hsize
        exact ⟨hcheck, (Except.ok.inj h).symm, access, size, hshape, Nat.le_of_not_lt hsize⟩

theorem admitKernel_eq_ok {kernel : KernelId} {size : UInt64}
    (h : state.admitKernel queue kernel size wait = .ok operation) :
    state.checkSubmission queue wait = .ok () ∧
      ∃ args, state.kernels[kernel]?.bind Kernel.arguments? = some args ∧
        outputCheck state.store.shape args = .ok () ∧ operation = .kernel size args := by
  rw [admitKernel_eq] at h
  obtain ⟨hcheck, h⟩ := checkSubmission_of_bind h
  split at h
  · exact nomatch h
  · rename_i args hargs
    cases houtput : outputCheck state.store.shape args with
    | error status =>
      rw [houtput] at h
      exact nomatch h
    | ok _ =>
      rw [houtput] at h
      exact ⟨hcheck, args, hargs, houtput, (Except.ok.inj h).symm⟩

theorem admitRead_eq_ok {buffer : BufferId} {count : Nat}
    (h : state.admitRead queue buffer count wait = .ok operation) :
    state.checkSubmission queue wait = .ok () ∧ operation = .read buffer count ∧
      ∃ access size, state.store.shape buffer = some (access, size) ∧ count ≤ size := by
  rw [admitRead_eq] at h
  obtain ⟨hcheck, h⟩ := checkSubmission_of_bind h
  split at h
  · exact nomatch h
  · rename_i access size hshape
    split at h
    · exact nomatch h
    · split at h
      · exact nomatch h
      · rename_i hsize
        exact ⟨hcheck, (Except.ok.inj h).symm, access, size, hshape, Nat.le_of_not_lt hsize⟩

/-! ### Arguments -/

theorem hasBuffer_eq (arg : Argument BufferId) :
    state.hasBuffer arg = match arg with
      | .buffer buffer => (state.store.shape buffer).isSome
      | .int _ => true := by
  cases arg with
  | buffer buffer =>
    rw [Bool.eq_iff_iff]
    simp [hasBuffer, Store.shape]
  | int value => rfl

/-- An argument that has been bound fits its position, and its buffer exists. -/
theorem setKernelArg_eq_ok {kernel : KernelId} {index : Nat} {arg : Argument BufferId}
    {after : State κ} (h : state.setKernelArg kernel index arg = (.ok (), after)) :
    ∃ old new, state.kernels[kernel]? = some old ∧ old.bind index arg = .ok new ∧
      state.hasBuffer arg ∧
      after = { state with kernels := state.kernels.setIfInBounds kernel new } := by
  rw [setKernelArg] at h
  split at h
  · exact nomatch h
  · rename_i old hold
    split at h
    · exact nomatch h
    · rename_i new hnew
      split at h
      · rename_i hbuffer
        exact ⟨old, new, hold, hnew, hbuffer, (congrArg Prod.snd h).symm⟩
      · exact nomatch h

/-- Arguments whose buffers exist can be bound. -/
theorem hasBuffer_of_list {args : Arguments} {index : Nat} {arg : Argument BufferId}
    (h : ∀ buffer ∈ [args.a, args.b, args.c], (state.store.shape buffer).isSome)
    (harg : args.list[index]? = some arg) : state.hasBuffer arg := by
  rw [hasBuffer_eq]
  have hmem := List.mem_of_getElem? harg
  simp only [Arguments.list, List.mem_cons, List.not_mem_nil, or_false] at hmem
  rcases hmem with rfl | rfl | rfl | rfl
  · exact h _ (by simp)
  · exact h _ (by simp)
  · exact h _ (by simp)
  · rfl

/-- Where the first arguments have been bound, the next one can be. -/
theorem setKernelArg_hasBound {kernel : KernelId} {old : Kernel} {args : Arguments} {index : Nat}
    {arg : Argument BufferId} (hold : state.kernels[kernel]? = some old)
    (hbound : old.HasBound args index) (harg : args.list[index]? = some arg)
    (hbuffer : state.hasBuffer arg) :
    ∃ kernels new, state.setKernelArg kernel index arg = (.ok (), { state with kernels }) ∧
      kernels.size = state.kernels.size ∧ kernels[kernel]? = some new ∧
      new.HasBound args (index + 1) := by
  obtain ⟨new, hnew, hafter⟩ := hbound.bind harg
  refine ⟨state.kernels.setIfInBounds kernel new, new, ?_, Array.size_setIfInBounds,
    Array.getElem?_setIfInBounds_self_of_lt (Array.getElem?_eq_some_iff.1 hold).1, hafter⟩
  simp only [setKernelArg, hold, hnew, hbuffer, if_true]

/-! ### Enqueueing and waiting -/

variable [Clock Id κ]

/-- The answer of a call that has waited for an event: the outcome of the event or, where it is
    still queued, why the queue could not go on. -/
def waited (outcome : Option (Except Status (Array Int32))) (driven : Except Status Unit) :
    Except Status Unit :=
  match outcome, driven with
  | some outcome, _ => outcome.map fun _ => ()
  | none, .ok () => .error .invalidEventWaitList
  | none, .error status => .error status

theorem waitFor_eq (event : EventId) :
    state.waitFor (m := Id) queue event =
      let (driven, after) := state.drive (m := Id) queue (some event)
      (waited (after.store.outcome? event) driven, after) := by
  rw [waitFor]
  rcases state.drive (m := Id) queue (some event) with ⟨driven, after⟩
  simp only [bind, pure, Store.outcome?]
  rcases after.store.status event with _ | stamps | status
  · rcases driven with status | ⟨⟩ <;> rfl
  · rfl
  · rfl

theorem enqueueWrite_eq (buffer : BufferId) (blocking : Bool) (data : Array Int32) :
    state.enqueueWrite (m := Id) queue buffer blocking data wait =
      match state.admitWrite queue buffer data wait with
      | .error status => (.error status, state)
      | .ok operation =>
        let event := state.store.events.size
        let submitted := (state.submit queue operation wait).2
        if blocking then
          let (answer, after) := submitted.waitFor (m := Id) queue event
          (answer.map fun () => event, after)
        else (.ok event, submitted) := by
  rw [enqueueWrite]
  cases state.admitWrite queue buffer data wait with
  | error status => rfl
  | ok operation => cases blocking <;> rfl

omit [Clock Id κ] in
theorem enqueueKernel_eq (kernel : KernelId) (size : UInt64) :
    state.enqueueKernel queue kernel size wait =
      match state.admitKernel queue kernel size wait with
      | .error status => (.error status, state)
      | .ok operation => (.ok state.store.events.size, (state.submit queue operation wait).2) := by
  rw [enqueueKernel]
  cases state.admitKernel queue kernel size wait <;> rfl

theorem enqueueRead_eq (buffer : BufferId) (out : Array Int32) :
    state.enqueueRead (m := Id) queue buffer out wait =
      match state.admitRead queue buffer out.size wait with
      | .error status => ((.error status, out.toVector), state)
      | .ok operation =>
        let event := state.store.events.size
        let (answer, after) :=
          (state.submit queue operation wait).2.waitFor (m := Id) queue event
        match answer with
        | .error status => ((.error status, out.toVector), after)
        | .ok () => ((.ok event, deliver out (after.store.fetched event)), after) := by
  rw [enqueueRead]
  cases state.admitRead queue buffer out.size wait with
  | error status => rfl
  | ok operation =>
    simp only [bind, pure, submit]
    split
    split <;> simp_all

theorem enqueueWrite_snd (buffer : BufferId) (blocking : Bool) (data : Array Int32) :
    (state.enqueueWrite (m := Id) queue buffer blocking data wait).2 =
      match state.admitWrite queue buffer data wait with
      | .error _ => state
      | .ok operation =>
        let submitted := (state.submit queue operation wait).2
        if blocking then (submitted.drive (m := Id) queue (some state.store.events.size)).2
        else submitted := by
  rw [enqueueWrite_eq]
  cases state.admitWrite queue buffer data wait with
  | error status => rfl
  | ok operation =>
    simp only [waitFor_eq]
    split <;> rfl

theorem enqueueRead_snd (buffer : BufferId) (out : Array Int32) :
    (state.enqueueRead (m := Id) queue buffer out wait).2 =
      match state.admitRead queue buffer out.size wait with
      | .error _ => state
      | .ok operation =>
        ((state.submit queue operation wait).2.drive (m := Id) queue
          (some state.store.events.size)).2 := by
  rw [enqueueRead_eq]
  cases state.admitRead queue buffer out.size wait with
  | error status => rfl
  | ok operation =>
    simp only [waitFor_eq]
    rcases (state.submit queue operation wait).2.drive (m := Id) queue
      (some state.store.events.size) with ⟨driven, after⟩
    simp only []
    split <;> rfl

/-! ### Commands that resolve -/

variable {after : State κ} {outcome : Except Status (Array Int32)} {driven : Except Status Unit}

theorem enqueueWrite_of_outcome {buffer : BufferId} {data : Array Int32}
    (hadmitted : state.admitWrite queue buffer data wait = .ok operation)
    (hdrive : (state.submit queue operation wait).2.drive (m := Id) queue
      (some state.store.events.size) = (driven, after))
    (houtcome : after.store.outcome? state.store.events.size = some outcome) :
    state.enqueueWrite (m := Id) queue buffer true data wait =
      (outcome.map fun _ => state.store.events.size, after) := by
  rw [enqueueWrite_eq, hadmitted]
  simp only [waitFor_eq, if_true, hdrive, houtcome, waited]
  cases outcome <;> rfl

/-- What a download answers, by the outcome of its command. -/
def downloaded (out : Array Int32) (event : EventId) :
    Except Status (Array Int32) → Except Status EventId × Vector Int32 out.size
  | .ok fetched => (.ok event, deliver out fetched)
  | .error status => (.error status, out.toVector)

theorem enqueueRead_of_outcome {buffer : BufferId} {out : Array Int32}
    (hadmitted : state.admitRead queue buffer out.size wait = .ok operation)
    (hdrive : (state.submit queue operation wait).2.drive (m := Id) queue
      (some state.store.events.size) = (driven, after))
    (houtcome : after.store.outcome? state.store.events.size = some outcome) :
    state.enqueueRead (m := Id) queue buffer out wait =
      (downloaded out state.store.events.size outcome, after) := by
  rw [enqueueRead_eq, hadmitted]
  simp only [waitFor_eq, hdrive, houtcome, waited]
  cases outcome with
  | error status => rfl
  | ok fetched =>
    simp only [Except.map, Store.fetched_of_outcome? houtcome]
    rfl

/-- A download that succeeds has been admitted, and hands out what its command has fetched. -/
theorem enqueueRead_eq_ok {buffer : BufferId} {out : Array Int32} {event : EventId}
    {data : Vector Int32 out.size}
    (h : state.enqueueRead (m := Id) queue buffer out wait = ((.ok event, data), after)) :
    state.checkSubmission queue wait = .ok () ∧ event = state.store.events.size ∧
      (∃ access size, state.store.shape buffer = some (access, size) ∧ out.size ≤ size) ∧
      ∃ driven fetched,
        (state.submit queue (.read buffer out.size) wait).2.drive (m := Id) queue (some event) =
          (driven, after) ∧
        after.store.outcome? event = some (.ok fetched) ∧ data = deliver out fetched := by
  cases hadmitted : state.admitRead queue buffer out.size wait with
  | error status =>
    rw [enqueueRead_eq, hadmitted] at h
    exact nomatch h
  | ok operation =>
    obtain ⟨hcheck, rfl, hshape⟩ := admitRead_eq_ok hadmitted
    rcases hdrive : (state.submit queue (.read buffer out.size) wait).2.drive (m := Id) queue
      (some state.store.events.size) with ⟨driven, after'⟩
    cases houtcome : after'.store.outcome? state.store.events.size with
    | none =>
      rw [enqueueRead_eq, hadmitted] at h
      simp only [waitFor_eq, hdrive, houtcome] at h
      cases driven <;> exact nomatch h
    | some outcome =>
      rw [enqueueRead_of_outcome hadmitted hdrive houtcome] at h
      cases outcome with
      | error status => exact nomatch h
      | ok fetched =>
        cases h
        exact ⟨hcheck, rfl, hshape, driven, fetched, hdrive, houtcome, rfl⟩

theorem toArray_deliver {out fetched : Array Int32} (h : fetched.size = out.size) :
    (deliver out fetched).toArray = fetched := by
  rw [deliver, dif_pos h]

end State

end Offload.Host
