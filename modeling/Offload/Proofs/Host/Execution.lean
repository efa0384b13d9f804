import Offload.Proofs.Host.Ledger

/-!
# The execution of one command

The ledger of a store (`Store.ledger`) holds the elements of its buffers and the outcomes of its
events. `Queue.execute_spec` says what running a command does to a store: to its ledger the same as
`Ledger.run`, and nothing to the hints and sizes of buffers (`Store.shape`).
-/

namespace Offload.Host

open Function

/-- What the status of an event says of its command, with what this has fetched. -/
def EventStatus.outcome? (fetched : Array Int32) :
    EventStatus → Option (Except Status (Array Int32))
  | .queued => none
  | .complete _ => some (.ok fetched)
  | .failed status => some (.error status)

namespace Store

variable {κ : Type} {store : Store κ} {event : EventId} {buffer : BufferId}

/-- What the command of an event has fetched or why it has failed, once it has resolved. -/
def outcome? (store : Store κ) (event : EventId) : Option (Except Status (Array Int32)) :=
  (store.status event).outcome? (store.fetched event)

/-- What the commands on a store have achieved. -/
def ledger (store : Store κ) : Ledger := ⟨store.memory, store.outcome?⟩

/-- The access hints of a buffer and the number of its elements. -/
def shape (store : Store κ) (buffer : BufferId) : Option (Access × Nat) :=
  store.buffers[buffer]?.map fun buffer => (buffer.access, buffer.memory.size)

theorem isResolved_eq : store.isResolved event = (store.outcome? event).isSome := by
  rw [isResolved, outcome?]
  cases store.status event <;> rfl

theorem fetched_of_outcome? {fetched : Array Int32}
    (h : store.outcome? event = some (.ok fetched)) :
    store.fetched event = fetched := by
  rw [outcome?] at h
  cases hstatus : store.status event <;> rw [hstatus] at h
  · exact nomatch h
  · exact Except.ok.inj (Option.some.inj h)
  · exact nomatch Option.some.inj h

theorem hasFailed_eq (store : Store κ) (event : EventId) :
    store.hasFailed event = (store.ledger.failure? event).isSome := by
  simp only [hasFailed, Ledger.failure?, ledger, outcome?]
  cases store.status event <;> rfl

theorem memory_setMemory {memory : Array Int32} (h : memory.size = (store.memory buffer).size) :
    (store.setMemory buffer memory).memory = update store.memory buffer memory := by
  funext other
  rw [Store.memory, setMemory, Array.getElem?_modify]
  rcases eq_or_ne other buffer with rfl | hne
  · rw [if_pos rfl, update_self]
    cases hb : store.buffers[other]? with
    | some found => rfl
    | none =>
      -- a buffer that does not exist has no elements, whatever is put there
      rw [Store.memory, hb] at h
      exact (Array.eq_empty_of_size_eq_zero h).symm
  · rw [if_neg hne.symm, update_of_ne hne, Store.memory]

theorem shape_setMemory {memory : Array Int32} (h : memory.size = (store.memory buffer).size) :
    (store.setMemory buffer memory).shape = store.shape := by
  funext other
  rw [shape, setMemory, Array.getElem?_modify, shape]
  rcases eq_or_ne other buffer with rfl | hne
  · rw [if_pos rfl, Option.map_map]
    cases hb : store.buffers[other]? with
    | some found => simp [h, Store.memory, hb]
    | none => rfl
  · rw [if_neg hne.symm]

/-- An operation does to the memory of a store what it does to memory. -/
theorem perform_eq (store : Store κ) (operation : Operation) :
    (store.perform operation).1 = (operation.perform store.memory).1 ∧
      (store.perform operation).2.memory = (operation.perform store.memory).2 ∧
      (store.perform operation).2.shape = store.shape ∧
      (store.perform operation).2.events = store.events := by
  cases operation with
  | write target data =>
    rw [perform, Operation.perform]
    split
    · rename_i hle
      have hsize : (overwrite data (store.memory target)).size = (store.memory target).size := by
        simp only [overwrite, Array.size_append, Array.size_extract]
        omega
      exact ⟨rfl, memory_setMemory hsize, shape_setMemory hsize, rfl⟩
    · exact ⟨rfl, rfl, rfl, rfl⟩
  | kernel size args =>
    rw [perform, Operation.perform]
    cases VectorAdd.arguments args with
    | error status => exact ⟨rfl, rfl, rfl, rfl⟩
    | ok args =>
      -- a kernel leaves the output as long as it was, even where it fails
      have hsize := @VectorAdd.size_run (store.memory args.a) (store.memory args.b)
        (store.memory args.c) size args.count
      have hmemory := memory_setMemory hsize
      have hshape := shape_setMemory hsize
      rcases hrun : VectorAdd.run (store.memory args.a) (store.memory args.b) (store.memory args.c)
        size args.count with ⟨c, _ | status⟩
      · simp only [hrun] at hmemory hshape ⊢
        exact ⟨trivial, hmemory, hshape, rfl⟩
      · simp only [hrun] at hmemory hshape ⊢
        exact ⟨trivial, hmemory, hshape, rfl⟩
  | read source count =>
    rw [perform, Operation.perform]
    split <;> exact ⟨rfl, rfl, rfl, rfl⟩

/-- Settling an event shows in its outcome only. -/
theorem ledger_resolve (h : event < store.events.size) (status : EventStatus)
    (fetched : Array Int32) :
    (store.resolve event status fetched).ledger =
      ⟨store.memory, update store.outcome? event (status.outcome? fetched)⟩ := by
  refine Ledger.ext rfl ?_
  funext other
  rcases eq_or_ne other event with rfl | hne
  · simp only [ledger, outcome?, Store.status, Store.fetched, resolve, Array.getElem?_modify,
      Array.getElem?_eq_getElem h, Option.map_some, if_true, update_self]
  · simp only [ledger, outcome?, Store.status, Store.fetched, resolve, Array.getElem?_modify,
      if_neg hne.symm, update_of_ne hne]

end Store

/-- What running a command does to a store: its ledger is as after the command, its buffers keep
    their hints and sizes, and there are as many events as before. -/
structure Executed {κ : Type} (store : Store κ) (command : Command) (failure : Option Status)
    (after : Store κ) : Prop where
  ledger : after.ledger = store.ledger.run command
  failure : failure = after.ledger.failure? command.event
  shape : after.shape = store.shape
  size_events : after.events.size = store.events.size

theorem Executed.of_resolve {κ : Type} {store settled : Store κ} {command : Command}
    {failure : Option Status} {status : EventStatus} {fetched : Array Int32}
    (hevent : command.event < store.events.size) (hevents : settled.events = store.events)
    (hshape : settled.shape = store.shape)
    (hrun : store.ledger.run command =
      ⟨settled.memory, update store.outcome? command.event (status.outcome? fetched)⟩)
    (hfailure : failure = (store.ledger.run command).failure? command.event) :
    Executed store command failure (settled.resolve command.event status fetched) := by
  have hledger : (settled.resolve command.event status fetched).ledger =
      store.ledger.run command := by
    have houtcome : settled.outcome? = store.outcome? := by
      funext event
      simp only [Store.outcome?, Store.status, Store.fetched, hevents]
    rw [Store.ledger_resolve (hevents ▸ hevent), houtcome, hrun]
  exact ⟨hledger, hledger ▸ hfailure, hshape, Array.size_modify.trans (congrArg Array.size hevents)⟩

/-- A command that has run has resolved, and no other event has changed. -/
theorem Executed.isResolved_iff {κ : Type} {store after : Store κ} {command : Command}
    {failure : Option Status} (h : Executed store command failure after) {event : EventId} :
    after.isResolved event ↔ event = command.event ∨ store.isResolved event := by
  have houtcome : after.outcome? event = (store.ledger.run command).outcome event :=
    congrArg (fun ledger : Ledger => ledger.outcome event) h.ledger
  rw [Store.isResolved_eq, Store.isResolved_eq, houtcome]
  rcases eq_or_ne event command.event with rfl | hne
  · simp only [Ledger.isSome_outcome_run, true_or]
  · simp only [Ledger.outcome_run_of_ne hne, hne, false_or, Store.ledger]

/-- Whatever the queue and its clock, a command does to a store what it does to the ledger. -/
theorem Queue.execute_spec {κ : Type} [Clock Id κ] (queue : Queue) {command : Command}
    {store after : Store κ} {failure : Option Status} (hevent : command.event < store.events.size)
    (h : queue.execute (m := Id) command store = (failure, after)) :
    Executed store command failure after := by
  have hspoils : store.ledger.spoils command = command.wait.any store.hasFailed := by
    simp only [Ledger.spoils, ← Store.hasFailed_eq]
  rw [Queue.execute] at h
  split at h
  · rename_i hfailed
    obtain ⟨rfl, rfl⟩ := Prod.mk.inj h
    have hrun : store.ledger.run command =
        ⟨store.memory, update store.outcome? command.event
          (some (.error .execStatusErrorForEventsInWaitList))⟩ := by
      rw [Ledger.run, if_pos (hspoils.trans hfailed)]
      rfl
    exact .of_resolve hevent rfl rfl hrun (by simp [hrun, Ledger.failure?])
  · rename_i hfailed
    -- the clock is read before and after the operation, which does not depend on it
    rcases hstart : Clock.read (m := Id) store.clock with ⟨start, clock⟩
    obtain ⟨houtcome, hmemory, hshape, hevents⟩ :=
      Store.perform_eq { store with clock } command.operation
    rcases hperform : Store.perform { store with clock } command.operation with ⟨outcome, done⟩
    rcases hstop : Clock.read (m := Id) done.clock with ⟨stop, clock'⟩
    simp only [hperform] at houtcome hmemory hshape hevents
    simp only [bind, pure, hstart, hperform, hstop] at h
    have hrun : store.ledger.run command =
        ⟨done.memory, update store.outcome? command.event (some outcome)⟩ := by
      rw [Ledger.run, if_neg (by rwa [hspoils]), hmemory, houtcome]
      rfl
    cases outcome with
    | ok fetched =>
      obtain ⟨rfl, rfl⟩ := Prod.mk.inj h
      exact .of_resolve hevent hevents hshape hrun (by simp [hrun, Ledger.failure?])
    | error status =>
      obtain ⟨rfl, rfl⟩ := Prod.mk.inj h
      exact .of_resolve hevent hevents hshape hrun (by simp [hrun, Ledger.failure?])

end Offload.Host
