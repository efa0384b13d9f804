import Offload.Proofs.Host.Timestamps

/-!
# Changes

A move leaves open what happens to the clock and to device memory meanwhile. A *change*
(`State.Change`) is a move that accounts for these as well: what neither submits nor runs commands
reads no clock, writes no memory that there is and keeps what queues were made with
(`State.Rested`), and a command that is submitted respects the hints of the buffer that it is going
to change (`Operation.Permitted`). Every request is a sequence of changes
(`State.Known.answer_changes`), hence of moves (`State.Known.answer_moves`). A *session* is all that
has changed since a backend was made with some clock (`State.Session`).
-/

namespace Offload.Host

/-- The hints allow what the operation does to the buffer that it changes. -/
def Operation.Permitted (shape : BufferId → Option (Access × Nat)) : Operation → Prop
  | write target _ => ∃ access size, shape target = some (access, size) ∧ access.hostCanWrite
  | kernel _ entries => ∀ args : Arguments, entries = args.vector →
    ∃ access size, shape args.c = some (access, size) ∧ access.deviceCanWrite
  | read _ _ => True

/-- An operation that is permitted still is when there are more buffers. -/
theorem Operation.Permitted.mono {shape shape' : BufferId → Option (Access × Nat)}
    {operation : Operation} (h : operation.Permitted shape)
    (hle : ∀ buffer found, shape buffer = some found → shape' buffer = some found) :
    operation.Permitted shape' := by
  cases operation with
  | write =>
    obtain ⟨access, size, hshape, hallowed⟩ := h
    exact ⟨access, size, hle _ _ hshape, hallowed⟩
  | kernel =>
    intro args hargs
    obtain ⟨access, size, hshape, hallowed⟩ := h args hargs
    exact ⟨access, size, hle _ _ hshape, hallowed⟩
  | read => trivial

namespace State

variable {κ : Type} {state state' state'' : State κ} {queue : QueueId} {operation : Operation}
  {wait : List EventId}

theorem admitWrite_permitted {buffer : BufferId} {data : Array Int32}
    (h : state.admitWrite queue buffer data wait = .ok operation) :
    operation.Permitted state.store.shape := by
  rw [admitWrite_eq] at h
  obtain ⟨-, h⟩ := checkSubmission_of_bind h
  split at h
  · exact nomatch h
  · rename_i access size hshape
    split at h
    · exact nomatch h
    · rename_i hallowed
      split at h
      · exact nomatch h
      · obtain rfl := Except.ok.inj h
        exact ⟨access, size, hshape, by simpa using hallowed⟩

theorem admitKernel_permitted {kernel : KernelId} {size : UInt64}
    (h : state.admitKernel queue kernel size wait = .ok operation) :
    operation.Permitted state.store.shape := by
  obtain ⟨-, _, -, houtput, rfl⟩ := admitKernel_eq_ok h
  rintro args rfl
  rw [outputCheck_vector] at houtput
  split at houtput
  · exact nomatch houtput
  · rename_i access length hshape
    split at houtput
    · rename_i hallowed
      exact ⟨access, length, hshape, hallowed⟩
    · exact nomatch houtput

/-! ### Single changes -/

/-- What a queue was made with: it takes timestamps, and its device's timestamps run backwards. -/
def traits (state : State κ) (queue : QueueId) : Option (Bool × Bool) :=
  state.queues[queue]?.map fun q => (q.profiling, q.backwardsClock)

/-- What neither submits nor runs commands leaves as it was, and the elements of a buffer that it
    makes. -/
structure Rested (state state' : State κ) : Prop extends Undisturbed state state' where
  clock : state'.store.clock = state.store.clock
  traits : ∀ queue found, state.traits queue = some found → state'.traits queue = some found
  memory : ∀ buffer, (state.store.shape buffer).isSome →
    state'.store.memory buffer = state.store.memory buffer
  fresh : ∀ buffer, state.store.shape buffer = none →
    ∀ x ∈ state'.store.memory buffer, x = freshElement

/-- A buffer that does not exist has no elements. -/
theorem memory_of_shape {store : Store κ} {buffer : BufferId} (h : store.shape buffer = none) :
    store.memory buffer = #[] := by
  rw [Store.memory, Option.map_eq_none_iff.1 h]

theorem Rested.of_buffers (h : Undisturbed state state')
    (hclock : state'.store.clock = state.store.clock)
    (htraits : ∀ queue found, state.traits queue = some found → state'.traits queue = some found)
    (hbuffers : state'.store.buffers = state.store.buffers) : Rested state state' := by
  have hmemory (buffer : BufferId) :
      state'.store.memory buffer = state.store.memory buffer := by
    rw [Store.memory, Store.memory, hbuffers]
  refine ⟨h, hclock, htraits, fun buffer _ => hmemory buffer, fun buffer hnone x hx => ?_⟩
  rw [hmemory, memory_of_shape hnone] at hx
  exact absurd hx (Array.not_mem_empty x)

theorem takeNotices_rested (state : State κ) : Rested state state.takeNotices.2 :=
  .of_buffers ⟨rfl, rfl, fun _ _ hfound => hfound, fun hknown => hknown⟩ rfl
    (fun _ _ hfound => hfound) rfl

theorem createQueue_rested (state : State κ) (context : Context) (device : Device)
    (profiling : Bool) : Rested state (state.createQueue context device profiling).2 := by
  have hrefl : Rested state state :=
    .of_buffers (.of_same rfl rfl rfl) rfl (fun _ _ hfound => hfound) rfl
  rw [createQueue]
  split
  · exact hrefl
  · split
    · exact hrefl
    · refine .of_buffers (.of_same (pending_push _ rfl) rfl rfl) rfl (fun queue found hfound => ?_)
        rfl
      obtain ⟨q, hq, -⟩ := Option.map_eq_some_iff.1 hfound
      have hlt : queue < state.queues.size := (Array.getElem?_eq_some_iff.1 hq).1
      rw [← hfound, State.traits, State.traits]
      simp only [Array.getElem?_push_lt hlt, Array.getElem?_eq_getElem hlt]

/-- A buffer just made holds fresh elements, and all others hold what they held. -/
theorem memory_createBuffer (context : Context) (access : Access) (size : UInt64)
    (buffer : BufferId) :
    ((state.store.shape buffer).isSome →
        (state.createBuffer context access size).2.store.memory buffer =
          state.store.memory buffer) ∧
      (state.store.shape buffer = none →
        ∀ x ∈ (state.createBuffer context access size).2.store.memory buffer,
          x = freshElement) := by
  rw [createBuffer]
  split
  · refine ⟨fun hsome => ?_, fun hnone x hx => ?_⟩
    · obtain ⟨_, hfound⟩ := Option.isSome_iff_exists.1 hsome
      obtain ⟨old, hold, -⟩ := Option.map_eq_some_iff.1 hfound
      have hlt := (Array.getElem?_eq_some_iff.1 hold).1
      simp only [Store.memory, Array.getElem?_push_lt hlt, Array.getElem?_eq_getElem hlt]
    · have hle : state.store.buffers.size ≤ buffer :=
        Array.getElem?_eq_none_iff.1 (Option.map_eq_none_iff.1 hnone)
      rw [Store.memory, Array.getElem?_push] at hx
      rcases eq_or_ne buffer state.store.buffers.size with heq | hne
      · rw [if_pos heq] at hx
        exact Array.eq_of_mem_replicate hx
      · rw [if_neg hne, Array.getElem?_eq_none hle] at hx
        exact absurd hx (Array.not_mem_empty x)
  · refine ⟨fun _ => rfl, fun hnone x hx => ?_⟩
    rw [memory_of_shape hnone] at hx
    exact absurd hx (Array.not_mem_empty x)

variable [Clock Id κ]

/-- Only the request that makes a buffer touches the buffers. -/
theorem buffers_answer {request : Request handles} (hquiet : quiet request) (state : State κ)
    (hother : ∀ context queue access size, request ≠ .createBuffer context queue access size) :
    (Host.answer (m := Id) request state).state.store.buffers = state.store.buffers := by
  cases request with
  | platforms | createContext | buildLog | waitEvents | profiling => rfl
  | createBuffer context queue access size => exact absurd rfl (hother context queue access size)
  | createProgram | createKernel | setKernelArg =>
    simp only [Host.answer, createProgram, createKernel, setKernelArg]
    repeat' split
    all_goals rfl
  | buildProgram =>
    simp only [Host.answer, buildProgram]
    split
    · rfl
    · split <;> rfl
  | createQueue | enqueueWrite | enqueueKernel | enqueueRead | finish =>
    exact absurd hquiet Bool.false_ne_true

theorem rested_answer {request : Request handles} (hquiet : quiet request) (state : State κ) :
    Rested state (Host.answer (m := Id) request state).state := by
  have huntouched := untouched_answer hquiet state
  have hundisturbed : Undisturbed state (Host.answer (m := Id) request state).state :=
    ⟨pending_congr huntouched.queues, huntouched.events, huntouched.shape,
      fun hknown => hknown.of_quiet hquiet⟩
  have htraits (queue : QueueId) (found : Bool × Bool) (hfound : state.traits queue = some found) :
      (Host.answer (m := Id) request state).state.traits queue = some found := by
    rwa [State.traits, huntouched.queues]
  have hclock := clock_answer hquiet state
  by_cases hother : ∀ context queue access size, request ≠ .createBuffer context queue access size
  · exact .of_buffers hundisturbed hclock htraits (buffers_answer hquiet state hother)
  · simp only [not_forall, not_not] at hother
    obtain ⟨context, queue, access, size, rfl⟩ := hother
    exact ⟨hundisturbed, hclock, htraits,
      fun buffer => (memory_createBuffer context access size buffer).1,
      fun buffer => (memory_createBuffer context access size buffer).2⟩

/-- One change of a state, and what happens to commands in it. -/
inductive Change : State κ → List Deed → State κ → Prop
  | rest {state state' : State κ} : Rested state state' → Change state [] state'
  | submit {state : State κ} {queue : QueueId} {operation : Operation} {wait : List EventId} :
    state.checkSubmission queue wait = .ok () → operation.Fits state.store.shape →
    operation.Permitted state.store.shape →
    Change state [.submitted queue ⟨operation, wait, state.store.events.size⟩]
      (state.submit queue operation wait).2
  | run {state state' : State κ} {queue : QueueId} {command : Command} {failure : Option Status} :
    Step queue state command failure state' → Change state [.ran queue command] state'

/-- Changes one after the other, and all that happens to commands in them. -/
inductive Changes : State κ → List Deed → State κ → Prop
  | refl {state : State κ} : Changes state [] state
  | change {state state' state'' : State κ} {deeds new : List Deed} : Changes state deeds state' →
    Change state' new state'' → Changes state (deeds ++ new) state''

theorem Change.move {new : List Deed} (h : Change state new state') : Move state new state' := by
  cases h with
  | rest hrest => exact .rest hrest.toUndisturbed
  | submit hcheck hfits _ => exact .submit hcheck hfits
  | run hstep => exact .run hstep

theorem Changes.moves {deeds : List Deed} (h : Changes state deeds state') :
    Moves state deeds state' := by
  induction h with
  | refl => exact .refl
  | change _ hchange ih => exact .move ih hchange.move

theorem Change.changes {new : List Deed} (h : Change state new state') :
    Changes state new state' :=
  .change .refl h

theorem Changes.trans {deeds new : List Deed} (h : Changes state deeds state')
    (h' : Changes state' new state'') : Changes state (deeds ++ new) state'' := by
  induction h' with
  | refl => rwa [List.append_nil]
  | change _ hchange ih =>
    rw [← List.append_assoc]
    exact .change ih hchange

/-! ### Requests as changes -/

theorem Steps.changes {log : List (Command × Option Status)} (h : Steps queue state log state') :
    Changes state (log.map fun entry => .ran queue entry.1) state' := by
  induction h with
  | refl => exact .refl
  | step hstep _ ih => exact Changes.trans (Change.run hstep).changes ih

theorem Steps.moves {log : List (Command × Option Status)} (h : Steps queue state log state') :
    Moves state (log.map fun entry => .ran queue entry.1) state' :=
  h.changes.moves

theorem drive_changes (state : State κ) (queue : QueueId) (target : Option EventId) :
    ∃ deeds, Changes state deeds (state.drive (m := Id) queue target).2 := by
  rcases Nat.lt_or_ge queue state.queues.size with hqueue | hqueue
  · obtain ⟨log, hsteps, -⟩ := drive_steps hqueue rfl
    exact ⟨_, hsteps.changes⟩
  · rw [drive_of_size_le hqueue]
    exact ⟨[], .refl⟩

theorem enqueueWrite_changes (state : State κ) (queue : QueueId) (buffer : BufferId)
    (blocking : Bool) (data : Array Int32) (wait : List EventId) :
    ∃ deeds, Changes state deeds
      (state.enqueueWrite (m := Id) queue buffer blocking data wait).2 := by
  rw [enqueueWrite_snd]
  split
  · exact ⟨[], .refl⟩
  · rename_i operation hadmitted
    obtain ⟨hcheck, -, hfits⟩ := admitWrite_fits hadmitted
    have hsubmit := (Change.submit hcheck hfits (admitWrite_permitted hadmitted)).changes
    split
    · obtain ⟨deeds, hdrive⟩ := drive_changes (state.submit queue operation wait).2 queue
        (some state.store.events.size)
      exact ⟨_, hsubmit.trans hdrive⟩
    · exact ⟨_, hsubmit⟩

theorem Known.enqueueKernel_changes (h : state.Known) (queue : QueueId) (kernel : KernelId)
    (size : UInt64) (wait : List EventId) :
    ∃ deeds, Changes state deeds (state.enqueueKernel queue kernel size wait).2 := by
  rw [enqueueKernel_eq]
  split
  · exact ⟨[], .refl⟩
  · rename_i hadmitted
    obtain ⟨hcheck, hfits⟩ := h.admitKernel_eq_ok hadmitted
    exact ⟨_, (Change.submit hcheck hfits (admitKernel_permitted hadmitted)).changes⟩

theorem enqueueRead_changes (state : State κ) (queue : QueueId) (buffer : BufferId)
    (out : Array Int32) (wait : List EventId) :
    ∃ deeds, Changes state deeds (state.enqueueRead (m := Id) queue buffer out wait).2 := by
  rw [enqueueRead_snd]
  split
  · exact ⟨[], .refl⟩
  · rename_i hadmitted
    obtain ⟨hcheck, rfl, hfits⟩ := admitRead_fits hadmitted
    have hsubmit := (Change.submit hcheck hfits trivial).changes
    obtain ⟨deeds, hdrive⟩ := drive_changes (state.submit queue (.read buffer out.size) wait).2
      queue (some state.store.events.size)
    exact ⟨_, hsubmit.trans hdrive⟩

/-- Whatever is asked, the state changes by changes that account for clock and memory. -/
theorem Known.answer_changes (h : state.Known) (request : Request handles) :
    ∃ deeds, Changes state deeds (Host.answer (m := Id) request state).state := by
  -- the notices that go with the answer are taken last
  have hnotices {after : State κ} (hchanges : ∃ deeds, Changes state deeds after) :
      ∃ deeds, Changes state deeds after.takeNotices.2 := by
    obtain ⟨deeds, hchanges⟩ := hchanges
    exact ⟨_, .change hchanges (.rest (takeNotices_rested after))⟩
  cases hquiet : quiet request with
  | true => exact ⟨[], (Change.rest (rested_answer hquiet state)).changes⟩
  | false =>
    cases request with
    | createQueue context device profiling =>
      have hrest := createQueue_rested state context device profiling
      exact hnotices ⟨[], (Change.rest hrest).changes⟩
    | enqueueWrite queue buffer blocking data wait =>
      exact hnotices (enqueueWrite_changes state queue buffer blocking data wait)
    | enqueueKernel queue kernel size wait =>
      exact hnotices (h.enqueueKernel_changes queue kernel size wait)
    | enqueueRead queue buffer blocking out wait =>
      exact hnotices (enqueueRead_changes state queue buffer out wait)
    | finish queue => exact hnotices (drive_changes state queue none)
    | _ => exact absurd hquiet.symm Bool.false_ne_true

theorem Known.answer_moves (h : state.Known) (request : Request handles) :
    ∃ deeds, Moves state deeds (Host.answer (m := Id) request state).state :=
  (h.answer_changes request).imp fun _ => Changes.moves

theorem Reachable.known (h : Reachable state) : state.Known := by
  induction h with
  | initial => exact fun kernel hkernel => absurd hkernel (Array.not_mem_empty kernel)
  | answer request hreachable ih =>
    obtain ⟨deeds, hmoves⟩ := ih.answer_moves request
    exact (hmoves.keep hreachable.wellFormed ih).2

end State

end Offload.Host
