import Mathlib.Data.List.Pairwise
import Offload.Host.Backend
import Offload.Proofs.Host.Admission
import Offload.Proofs.Host.Steps

/-!
# Well-formed states

The invariant of the host backend (`State.WellFormed`): pending lists are in the order of
submission, their commands have not resolved and wait for earlier commands only, no command is
pending twice, and every event that has not resolved belongs to a pending command. Every request
preserves it (`State.WellFormed.answer`), so it holds in every state that requests can lead to
(`State.Reachable.wellFormed`).
-/

namespace Offload.Host

namespace State

variable {κ : Type} {state state' : State κ} {queue : QueueId}

/-- The invariant of the states of the host backend. -/
structure WellFormed (state : State κ) : Prop where
  sorted : ∀ queue, (state.pending queue).Pairwise (·.event < ·.event)
  unresolved : ∀ queue, ∀ c ∈ state.pending queue,
    c.event < state.store.events.size ∧ state.store.isResolved c.event = false
  wait_lt : ∀ queue, ∀ c ∈ state.pending queue, ∀ event ∈ c.wait, event < c.event
  unique : ∀ queue, ∀ c ∈ state.pending queue, ∀ queue', ∀ c' ∈ state.pending queue',
    c.event = c'.event → queue = queue'
  owned : ∀ event < state.store.events.size, state.store.isResolved event = false →
    ∃ queue, ∃ c ∈ state.pending queue, c.event = event

theorem pending_congr (h : state'.queues = state.queues) : state'.pending = state.pending := by
  funext queue
  rw [pending, pending, h]

namespace WellFormed

theorem of_same (h : state.WellFormed) (hpending : state'.pending = state.pending)
    (hevents : state'.store.events = state.store.events) : state'.WellFormed := by
  have hresolved : state'.store.isResolved = state.store.isResolved := by
    funext event
    simp only [Store.isResolved, Store.status, hevents]
  obtain ⟨sorted, unresolved, wait_lt, unique, owned⟩ := h
  rw [← hpending] at sorted unresolved wait_lt unique owned
  rw [← hevents, ← hresolved] at unresolved owned
  exact ⟨sorted, unresolved, wait_lt, unique, owned⟩

theorem eq_of_event_eq (h : state.WellFormed) {c c' : Command} (hc : c ∈ state.pending queue)
    (hc' : c' ∈ state.pending queue) (heq : c.event = c'.event) : c = c' := by
  by_contra hne
  have hsymm : Std.Symm fun c c' : Command => c.event ≠ c'.event := ⟨fun _ _ => Ne.symm⟩
  have hdistinct : (state.pending queue).Pairwise (·.event ≠ ·.event) :=
    (h.sorted queue).imp Nat.ne_of_lt
  exact hdistinct.forall hc hc' hne heq

end WellFormed

/-! ### Submission -/

theorem pending_submit (operation : Operation) (wait : List EventId)
    (hqueue : queue < state.queues.size) (other : QueueId) :
    (state.submit queue operation wait).2.pending other =
      if other = queue then
        state.pending queue ++ [⟨operation, wait, state.store.events.size⟩]
      else state.pending other := by
  simp only [submit, pending, Array.getElem?_modify]
  rcases eq_or_ne other queue with rfl | hne
  · simp [Array.getElem?_eq_getElem hqueue]
  · rw [if_neg hne.symm, if_neg hne]

theorem size_events_submit (operation : Operation) (wait : List EventId) :
    (state.submit queue operation wait).2.store.events.size = state.store.events.size + 1 :=
  Array.size_push _

/-- The event of a command just submitted is queued; what is known of others stays. -/
theorem outcome?_submit (operation : Operation) (wait : List EventId) :
    (state.submit queue operation wait).2.store.outcome? = state.store.outcome? := by
  funext event
  simp only [submit, Store.outcome?, Store.status, Store.fetched, Array.getElem?_push]
  rcases eq_or_ne event state.store.events.size with rfl | hne
  · rw [if_pos rfl, Array.getElem?_eq_none (Nat.le_refl _)]
  · rw [if_neg hne]

theorem isResolved_submit (operation : Operation) (wait : List EventId) (event : EventId) :
    (state.submit queue operation wait).2.store.isResolved event =
      state.store.isResolved event := by
  rw [Store.isResolved_eq, outcome?_submit, Store.isResolved_eq]

/-- An event that was never given out has not resolved. -/
theorem isResolved_of_size_le {event : EventId} (h : state.store.events.size ≤ event) :
    state.store.isResolved event = false := by
  rw [Store.isResolved, Store.status, Array.getElem?_eq_none h]

theorem WellFormed.submit (h : state.WellFormed) {operation : Operation} {wait : List EventId}
    (hqueue : queue < state.queues.size) (hwait : ∀ event ∈ wait, event < state.store.events.size) :
    (state.submit queue operation wait).2.WellFormed := by
  have hpending : ∀ q, (state.submit queue operation wait).2.pending q = _ :=
    pending_submit operation wait hqueue
  -- a pending command is the one just submitted, or was pending before
  have hmem : ∀ q, ∀ c ∈ (state.submit queue operation wait).2.pending q,
      q = queue ∧ c = ⟨operation, wait, state.store.events.size⟩ ∨ c ∈ state.pending q := by
    intro q c hc
    rw [hpending] at hc
    split at hc
    · rename_i heq
      rcases List.mem_append.1 hc with hc | hc
      · exact .inr (heq ▸ hc)
      · exact .inl ⟨heq, List.mem_singleton.1 hc⟩
    · exact .inr hc
  refine ⟨fun q => ?_, fun q c hc => ?_, fun q c hc => ?_, fun q c hc q' c' hc' heq => ?_,
    fun event hlt hqueued => ?_⟩
  · rw [hpending]
    split
    · refine List.pairwise_append.2 ⟨h.sorted queue, List.pairwise_singleton _ _, ?_⟩
      rintro c hc _ (_ | _)
      exact (h.unresolved queue c hc).1
      contradiction
    · exact h.sorted q
  · rw [size_events_submit, isResolved_submit]
    rcases hmem q c hc with ⟨-, rfl⟩ | hc
    · exact ⟨Nat.lt_succ_self _, isResolved_of_size_le (Nat.le_refl _)⟩
    · exact ⟨Nat.lt_succ_of_lt (h.unresolved q c hc).1, (h.unresolved q c hc).2⟩
  · rcases hmem q c hc with ⟨-, rfl⟩ | hc
    · exact hwait
    · exact h.wait_lt q c hc
  · -- the event of the new command is above those of all others
    rcases hmem q c hc with ⟨hq, rfl⟩ | hold <;> rcases hmem q' c' hc' with ⟨hq', rfl⟩ | hold'
    · rw [hq, hq']
    · exact absurd heq.symm (Nat.ne_of_lt (h.unresolved q' c' hold').1)
    · exact absurd heq (Nat.ne_of_lt (h.unresolved q c hold).1)
    · exact h.unique q c hold q' c' hold' heq
  · rw [size_events_submit] at hlt
    rw [isResolved_submit] at hqueued
    rcases Nat.lt_succ_iff_lt_or_eq.1 hlt with hlt | rfl
    · obtain ⟨q, c, hc, heq⟩ := h.owned event hlt hqueued
      refine ⟨q, c, ?_, heq⟩
      rw [hpending]
      split
      · rename_i hq
        exact List.mem_append_left _ (hq ▸ hc)
      · exact hc
    · refine ⟨queue, ⟨operation, wait, state.store.events.size⟩, ?_, rfl⟩
      rw [hpending, if_pos rfl]
      exact List.mem_append_right _ (List.mem_singleton_self _)

/-! ### Steps -/

variable {command : Command} {failure : Option Status}

/-- In a well-formed state a step executes its command, as that has an event. -/
theorem Stepped.executes (hstep : Stepped queue state command failure state')
    (h : state.WellFormed) : Executed state.store command failure state'.store := by
  obtain ⟨before, after, hpending, -, -, -⟩ := hstep.pending
  exact hstep.executed (h.unresolved queue command (by simp [hpending])).1

theorem Stepped.sublist (hstep : Stepped queue state command failure state') (q : QueueId) :
    (state'.pending q).Sublist (state.pending q) := by
  rcases eq_or_ne q queue with rfl | hne
  · obtain ⟨before, after, hpending, hpending', -, -⟩ := hstep.pending
    rw [hpending, hpending']
    exact (List.sublist_cons_self _ _).append_left _
  · exact hstep.others q hne ▸ List.Sublist.refl _

/-- The command that runs in a step is not pending any more, on any queue. -/
theorem Stepped.event_ne (hstep : Stepped queue state command failure state')
    (h : state.WellFormed) {q : QueueId} {c : Command} (hc : c ∈ state'.pending q) :
    c.event ≠ command.event := by
  obtain ⟨before, after, hpending, hpending', -, -⟩ := hstep.pending
  intro heq
  -- a command with this event could only stand in the same queue, before or after
  obtain rfl := h.unique q c ((hstep.sublist q).subset hc) queue command (by simp [hpending]) heq
  obtain ⟨-, hafter, hbefore⟩ := List.pairwise_append.1 (hpending ▸ h.sorted q)
  rw [hpending'] at hc
  rcases List.mem_append.1 hc with hc | hc
  · exact Nat.ne_of_lt (hbefore c hc command List.mem_cons_self) heq
  · exact Nat.ne_of_lt ((List.pairwise_cons.1 hafter).1 c hc) heq.symm

/-- All other commands stay pending. -/
theorem Stepped.mem_pending (hstep : Stepped queue state command failure state') {q : QueueId}
    {c : Command} (hc : c ∈ state.pending q) (hne : c ≠ command) : c ∈ state'.pending q := by
  rcases eq_or_ne q queue with rfl | hq
  · obtain ⟨before, after, hpending, hpending', -, -⟩ := hstep.pending
    rw [hpending] at hc
    rw [hpending']
    simpa [hne] using hc
  · rwa [hstep.others q hq]

theorem Stepped.wellFormed (hstep : Stepped queue state command failure state')
    (h : state.WellFormed) : state'.WellFormed := by
  have hexecuted := hstep.executes h
  have hsubset (q : QueueId) {c : Command} (hc : c ∈ state'.pending q) : c ∈ state.pending q :=
    (hstep.sublist q).subset hc
  refine ⟨fun q => (h.sorted q).sublist (hstep.sublist q), fun q c hc => ?_,
    fun q c hc => h.wait_lt q c (hsubset q hc),
    fun q c hc q' c' hc' => h.unique q c (hsubset q hc) q' c' (hsubset q' hc'),
    fun event hlt hqueued => ?_⟩
  · obtain ⟨hlt, hqueued⟩ := h.unresolved q c (hsubset q hc)
    rw [hexecuted.size_events, Bool.eq_false_iff, ne_eq, hexecuted.isResolved_iff]
    exact ⟨hlt, not_or.2 ⟨hstep.event_ne h hc, Bool.eq_false_iff.1 hqueued⟩⟩
  · rw [hexecuted.size_events] at hlt
    rw [Bool.eq_false_iff, ne_eq, hexecuted.isResolved_iff, not_or] at hqueued
    obtain ⟨q, c, hc, rfl⟩ := h.owned event hlt (Bool.eq_false_iff.2 hqueued.2)
    exact ⟨q, c, hstep.mem_pending hc fun heq => hqueued.1 (heq ▸ rfl), rfl⟩

variable [Clock Id κ] {log : List (Command × Option Status)}

/-- All that a sequence of steps can do in a well-formed state: the commands of the log are taken
    out of the pending list of the queue and act on the ledger in the order of the log. -/
structure Ran (queue : QueueId) (state : State κ) (log : List (Command × Option Status))
    (state' : State κ) : Prop where
  wellFormed : state'.WellFormed
  ledger : state'.store.ledger = state.store.ledger.runAll (log.map Prod.fst)
  failures : ∀ entry ∈ log, entry.2 = state'.store.ledger.failure? entry.1.event
  perm : (state.pending queue).Perm (log.map Prod.fst ++ state'.pending queue)
  sublist : (state'.pending queue).Sublist (state.pending queue)
  others : ∀ other ≠ queue, state'.pending other = state.pending other
  shape : state'.store.shape = state.store.shape
  size_events : state'.store.events.size = state.store.events.size
  order : state'.order? = state.order?
  size_queues : state'.queues.size = state.queues.size
  kernels : state'.kernels = state.kernels

theorem Steps.ran (hsteps : Steps queue state log state') (h : state.WellFormed) :
    Ran queue state log state' := by
  induction hsteps with
  | refl =>
    exact ⟨h, rfl, nofun, List.Perm.refl _, List.Sublist.refl _, fun _ _ => rfl, rfl, rfl, rfl,
      rfl, rfl⟩
  | step hstep hsteps ih =>
    rename_i state state' state'' command failure log
    have hspec := hstep.spec
    have hexecuted := hspec.executes h
    have hran := ih (hspec.wellFormed h)
    obtain ⟨before, after, hpending, hpending', -, -⟩ := hspec.pending
    refine ⟨hran.wellFormed, ?_, ?_, ?_, hran.sublist.trans (hspec.sublist queue), ?_,
      hran.shape.trans hexecuted.shape, hran.size_events.trans hexecuted.size_events,
      hran.order.trans hspec.order, hran.size_queues.trans hspec.size_queues,
      hran.kernels.trans hspec.kernels⟩
    · rw [hran.ledger, hexecuted.ledger]
      rfl
    · refine List.forall_mem_cons.2 ⟨?_, hran.failures⟩
      -- the steps that follow run other commands, so the failure stays what it was
      have hother : ∀ c ∈ log.map Prod.fst, command.event ≠ c.event := fun c hc =>
        (hspec.event_ne h (hran.perm.symm.subset (List.mem_append_left _ hc))).symm
      rw [hran.ledger, Ledger.failure?, Ledger.outcome_runAll hother]
      exact hexecuted.failure
    · -- the command that runs is taken from the middle of the list
      have hmiddle : (before ++ command :: after).Perm (command :: (before ++ after)) :=
        List.perm_middle
      rw [hpending, List.map_cons, List.cons_append]
      exact hmiddle.trans (((hpending' ▸ hran.perm)).cons command)
    · exact fun other hne => (hran.others other hne).trans (hspec.others other hne)

omit [Clock Id κ] in
/-- Whether an event of a well-formed state has resolved, one sees from the pending lists. -/
theorem WellFormed.isResolved_iff (h : state.WellFormed) {event : EventId}
    (hlt : event < state.store.events.size) :
    state.store.isResolved event ↔ ∀ queue, ∀ c ∈ state.pending queue, c.event ≠ event := by
  refine ⟨?_, fun hfree => ?_⟩
  · intro hresolved queue c hc heq
    subst heq
    exact Bool.false_ne_true ((h.unresolved queue c hc).2.symm.trans hresolved)
  · by_contra hqueued
    obtain ⟨queue, c, hc, heq⟩ := h.owned event hlt (Bool.eq_false_iff.2 hqueued)
    exact hfree queue c hc heq

omit [Clock Id κ] in
/-- A command pending before a sequence of steps has resolved unless it is still pending. -/
theorem Ran.isResolved_iff (hran : Ran queue state log state') (h : state.WellFormed) {c : Command}
    (hc : c ∈ state.pending queue) :
    state'.store.isResolved c.event ↔ c ∉ state'.pending queue := by
  have hlt : c.event < state'.store.events.size :=
    hran.size_events ▸ (h.unresolved queue c hc).1
  rw [hran.wellFormed.isResolved_iff hlt]
  refine ⟨fun hfree hmem => hfree queue c hmem rfl, ?_⟩
  intro hmem q c' hc' heq
  obtain rfl : q = queue := by
    by_contra hne
    exact hne (h.unique q c' (hran.others q hne ▸ hc') queue c hc heq)
  exact hmem (h.eq_of_event_eq (hran.sublist.subset hc') hc heq ▸ hc')

/-! ### Requests -/

variable {target : Option EventId} {outcome : Except Status Unit}

/-- Driving a queue that exists runs some commands, and ends in one of two ways. -/
theorem WellFormed.drive (h : state.WellFormed) (hqueue : queue < state.queues.size)
    (hdrive : state.drive (m := Id) queue target = (outcome, state')) :
    ∃ log, Steps queue state log state' ∧ Ran queue state log state' ∧
      Ending queue target log state' outcome := by
  obtain ⟨log, hsteps, hend⟩ := drive_steps hqueue hdrive
  exact ⟨log, hsteps, hsteps.ran h, hend⟩

theorem drive_of_size_le (hqueue : state.queues.size ≤ queue) :
    state.drive (m := Id) queue target = (.error .invalidCommandQueue, state) := by
  rw [State.drive, Array.getElem?_eq_none hqueue]
  rfl

theorem WellFormed.drive_snd (h : state.WellFormed) :
    (state.drive (m := Id) queue target).2.WellFormed := by
  rcases Nat.lt_or_ge queue state.queues.size with hqueue | hqueue
  · obtain ⟨log, -, hran, -⟩ := h.drive hqueue rfl
    exact hran.wellFormed
  · rw [drive_of_size_le hqueue]
    exact h

omit [Clock Id κ] in
theorem WellFormed.submit_of_checked (h : state.WellFormed) (operation : Operation)
    {wait : List EventId} (hcheck : state.checkSubmission queue wait = .ok ()) :
    (state.submit queue operation wait).2.WellFormed :=
  let ⟨hqueue, hwait⟩ := checkSubmission_eq_ok_iff.1 hcheck
  h.submit hqueue hwait

theorem WellFormed.enqueueWrite (h : state.WellFormed) (buffer : BufferId) (blocking : Bool)
    (data : Array Int32) (wait : List EventId) :
    (state.enqueueWrite (m := Id) queue buffer blocking data wait).2.WellFormed := by
  rw [enqueueWrite_snd]
  split
  · exact h
  · rename_i operation hadmitted
    have hsubmit := h.submit_of_checked operation (admitWrite_eq_ok hadmitted).1
    split
    · exact hsubmit.drive_snd
    · exact hsubmit

omit [Clock Id κ] in
theorem WellFormed.enqueueKernel (h : state.WellFormed) (kernel : KernelId) (size : UInt64)
    (wait : List EventId) : (state.enqueueKernel queue kernel size wait).2.WellFormed := by
  rw [enqueueKernel_eq]
  split
  · exact h
  · rename_i hadmitted
    exact h.submit_of_checked _ (admitKernel_eq_ok hadmitted).1

theorem WellFormed.enqueueRead (h : state.WellFormed) (buffer : BufferId) (out : Array Int32)
    (wait : List EventId) : (state.enqueueRead (m := Id) queue buffer out wait).2.WellFormed := by
  rw [enqueueRead_snd]
  split
  · exact h
  · rename_i operation hadmitted
    exact (h.submit_of_checked _ (admitRead_eq_ok hadmitted).1).drive_snd

omit [Clock Id κ] in
/-- A queue just made has no pending commands, like one that does not exist. -/
theorem pending_push (q : Queue) (hq : q.pending = []) :
    { state with queues := state.queues.push q }.pending = state.pending := by
  funext queue
  simp only [pending, Array.getElem?_push]
  rcases eq_or_ne queue state.queues.size with rfl | hne
  · rw [if_pos rfl, Array.getElem?_eq_none (Nat.le_refl _)]
    exact hq
  · rw [if_neg hne]

omit [Clock Id κ] in
theorem shape_createBuffer_eq (state : State κ) {context : Context} (access : Access)
    {size : UInt64} (hallows : allows context.device size) (buffer : BufferId) :
    (state.createBuffer context access size).2.store.shape buffer =
      if buffer = state.store.buffers.size then some (access, size.toNat)
      else state.store.shape buffer := by
  rw [createBuffer, if_pos hallows]
  simp only [Store.shape, Array.getElem?_push]
  split <;> simp

omit [Clock Id κ] in
theorem shape_createBuffer {buffer : BufferId} {shape : Access × Nat} (context : Context)
    (access : Access) (size : UInt64) (hshape : state.store.shape buffer = some shape) :
    (state.createBuffer context access size).2.store.shape buffer = some shape := by
  by_cases hallows : allows context.device size
  · have hlt : buffer < state.store.buffers.size := by
      obtain ⟨old, hold, -⟩ := Option.map_eq_some_iff.1 hshape
      exact (Array.getElem?_eq_some_iff.1 hold).1
    rw [shape_createBuffer_eq state access hallows, if_neg (Nat.ne_of_lt hlt), hshape]
  · rw [createBuffer, if_neg hallows]
    exact hshape

/-- The request neither makes a queue nor submits or runs commands. -/
def quiet : Request handles → Bool
  | .createQueue _ _ _ | .enqueueWrite _ _ _ _ _ | .enqueueKernel _ _ _ _
  | .enqueueRead _ _ _ _ _ | .finish _ => false
  | _ => true

/-- What a quiet request leaves as it was: the queues, the events and the shapes of buffers. -/
structure Untouched (state state' : State κ) : Prop where
  queues : state'.queues = state.queues
  events : state'.store.events = state.store.events
  shape : ∀ buffer shape, state.store.shape buffer = some shape →
    state'.store.shape buffer = some shape

omit [Clock Id κ] in
theorem Untouched.of_same (hqueues : state'.queues = state.queues)
    (hevents : state'.store.events = state.store.events)
    (hbuffers : state'.store.buffers = state.store.buffers) : Untouched state state' := by
  refine ⟨hqueues, hevents, fun buffer shape hshape => ?_⟩
  rwa [Store.shape, hbuffers]

theorem untouched_answer {request : Request handles} (h : quiet request) (state : State κ) :
    Untouched state (Host.answer (m := Id) request state).state := by
  cases request with
  | platforms | createContext | buildLog | waitEvents | profiling => exact .of_same rfl rfl rfl
  | createBuffer context queue access size =>
    refine ⟨?_, ?_, fun _ _ => shape_createBuffer context access size⟩
    all_goals
      simp only [Host.answer, createBuffer]
      split <;> rfl
  | createProgram context source =>
    simp only [Host.answer, createProgram]
    split <;> exact .of_same rfl rfl rfl
  | buildProgram program device =>
    simp only [Host.answer, buildProgram]
    split
    · exact .of_same rfl rfl rfl
    · split <;> exact .of_same rfl rfl rfl
  | createKernel program queue name params =>
    simp only [Host.answer, createKernel]
    split
    · exact .of_same rfl rfl rfl
    · split <;> exact .of_same rfl rfl rfl
  | setKernelArg kernel index arg =>
    simp only [Host.answer, setKernelArg]
    split
    · exact .of_same rfl rfl rfl
    · split
      · exact .of_same rfl rfl rfl
      · split <;> exact .of_same rfl rfl rfl
  | createQueue | enqueueWrite | enqueueKernel | enqueueRead | finish =>
    exact absurd h Bool.false_ne_true

theorem WellFormed.answer (h : state.WellFormed) (request : Request handles) :
    (Host.answer (m := Id) request state).state.WellFormed := by
  cases hquiet : quiet request with
  | true =>
    have huntouched := untouched_answer hquiet state
    exact h.of_same (pending_congr huntouched.queues) huntouched.events
  | false =>
    cases request with
    | createQueue context device profiling =>
      simp only [Host.answer, createQueue]
      split
      · exact h.of_same rfl rfl
      · split
        · exact h.of_same rfl rfl
        · exact h.of_same (pending_push _ rfl) rfl
    | enqueueWrite queue buffer blocking data wait =>
      exact (h.enqueueWrite buffer blocking data wait).of_same rfl rfl
    | enqueueKernel queue kernel size wait =>
      exact (h.enqueueKernel kernel size wait).of_same rfl rfl
    | enqueueRead queue buffer blocking out wait =>
      exact (h.enqueueRead buffer out wait).of_same rfl rfl
    | finish queue => exact h.drive_snd.of_same rfl rfl
    | _ => exact absurd hquiet.symm Bool.false_ne_true

/-- The states that requests can lead to, from a backend that has just been made. -/
inductive Reachable : State κ → Prop
  | initial {clock : κ} {platforms : List Platform} {fault : Option Status} :
    Reachable { State.initial clock platforms with enumerationFault := fault }
  | answer {state : State κ} (request : Request handles) : Reachable state →
    Reachable (Host.answer (m := Id) request state).state

theorem reachable_initial (clock : κ) : (State.initial clock).Reachable :=
  have h : Reachable { State.initial clock with enumerationFault := none } := .initial
  h

theorem Reachable.wellFormed (h : Reachable state) : state.WellFormed := by
  induction h with
  | initial =>
    refine ⟨?_, ?_, ?_, ?_, ?_⟩ <;> simp [State.pending, State.initial]
  | answer request _ ih => exact ih.answer request

theorem Reachable.takeNotices (h : Reachable state) : Reachable state.takeNotices.2 :=
  .answer .platforms h

/-! ### Buffers last -/

theorem WellFormed.shape_drive (h : state.WellFormed) (queue : QueueId) (target : Option EventId) :
    (state.drive (m := Id) queue target).2.store.shape = state.store.shape := by
  rcases Nat.lt_or_ge queue state.queues.size with hqueue | hqueue
  · rcases hdrive : state.drive (m := Id) queue target with ⟨answer, after⟩
    obtain ⟨log, -, hran, -⟩ := h.drive hqueue hdrive
    exact hran.shape
  · rw [drive_of_size_le hqueue]

theorem WellFormed.shape_enqueueWrite (h : state.WellFormed) (buffer : BufferId) (blocking : Bool)
    (data : Array Int32) (wait : List EventId) :
    (state.enqueueWrite (m := Id) queue buffer blocking data wait).2.store.shape =
      state.store.shape := by
  rw [enqueueWrite_snd]
  split
  · rfl
  · rename_i operation hadmitted
    have hsubmit := h.submit_of_checked operation (admitWrite_eq_ok hadmitted).1
    split
    · exact hsubmit.shape_drive queue _
    · rfl

omit [Clock Id κ] in
theorem shape_enqueueKernel (kernel : KernelId) (size : UInt64) (wait : List EventId) :
    (state.enqueueKernel queue kernel size wait).2.store.shape = state.store.shape := by
  rw [enqueueKernel_eq]
  split <;> rfl

theorem WellFormed.shape_enqueueRead (h : state.WellFormed) (buffer : BufferId)
    (out : Array Int32) (wait : List EventId) :
    (state.enqueueRead (m := Id) queue buffer out wait).2.store.shape = state.store.shape := by
  rw [enqueueRead_snd]
  split
  · rfl
  · rename_i operation hadmitted
    exact (h.submit_of_checked _ (admitRead_eq_ok hadmitted).1).shape_drive queue _

/-- Buffers keep their hints and sizes, whatever is asked. -/
theorem WellFormed.shape_answer (h : state.WellFormed) (request : Request handles)
    {buffer : BufferId} {shape : Access × Nat} (hshape : state.store.shape buffer = some shape) :
    (Host.answer (m := Id) request state).state.store.shape buffer = some shape := by
  cases hquiet : quiet request with
  | true => exact (untouched_answer hquiet state).shape buffer shape hshape
  | false =>
    cases request with
    | createQueue context device profiling =>
      simp only [Host.answer, createQueue]
      split
      · exact hshape
      · split <;> exact hshape
    | enqueueWrite queue buffer blocking data wait =>
      exact (congrFun (h.shape_enqueueWrite buffer blocking data wait) _).trans hshape
    | enqueueKernel queue kernel size wait =>
      exact (congrFun (shape_enqueueKernel kernel size wait) _).trans hshape
    | enqueueRead queue buffer blocking out wait =>
      exact (congrFun (h.shape_enqueueRead buffer out wait) _).trans hshape
    | finish queue => exact (congrFun (h.shape_drive queue none) _).trans hshape
    | _ => exact absurd hquiet.symm Bool.false_ne_true

end State

end Offload.Host
