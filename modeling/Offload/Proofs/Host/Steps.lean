import Offload.Host.State
import Offload.Proofs.Host.Execution

/-!
# Steps of a queue

A *step* of a queue runs the command that the queue takes next (`State.Step`). Driving a queue is a
sequence of steps (`State.Steps`) that ends when the target has resolved or the queue is empty, and
otherwise where the queue is stuck (`State.drive_steps`). What a step can do is said once, in
`State.Step.spec`.
-/

namespace Offload.Host

/-- The first failure in a log. -/
def firstFailure? (log : List (Command × Option Status)) : Option Status :=
  log.findSome? Prod.snd

theorem firstFailure?_cons {command : Command} {failure : Option Status}
    {log : List (Command × Option Status)} :
    firstFailure? ((command, failure) :: log) = failure.or (firstFailure? log) := by
  cases failure <;> rfl

/-- The answer of a call that reports a failure, if there is one. -/
def report : Option Status → Except Status Unit
  | none => .ok ()
  | some status => .error status

namespace Queue

variable {test : Command → Bool} {commands rest : List Command} {command : Command}

theorem takeFirst?_eq_some_iff :
    takeFirst? test commands = some (command, rest) ↔
      commands = command :: rest ∧ test command := by
  cases commands with
  | nil => simp [takeFirst?]
  | cons first others =>
    rw [takeFirst?]
    split <;> rename_i h
    · simp only [Option.some.injEq, Prod.mk.injEq, List.cons.injEq]
      exact ⟨fun heq => ⟨heq, heq.1 ▸ h⟩, fun heq => heq.1⟩
    · simp only [List.cons.injEq, reduceCtorEq, false_iff, not_and]
      rintro ⟨rfl, -⟩
      exact h

theorem takeLast?_eq_none_iff :
    takeLast? test commands = none ↔ ∀ c ∈ commands, test c = false := by
  induction commands with
  | nil => simp [takeLast?]
  | cons first commands ih =>
    rw [takeLast?]
    cases htaken : takeLast? test commands with
    | none => simpa using fun _ => ih.1 htaken
    | some taken =>
      simp only [reduceCtorEq, false_iff]
      intro h
      rw [ih.2 fun c hc => h c (List.mem_cons_of_mem _ hc)] at htaken
      exact absurd htaken (by simp)

/-- The command taken passes the test, and none after it does. -/
theorem takeLast?_eq_some (h : takeLast? test commands = some (command, rest)) :
    ∃ before after, commands = before ++ command :: after ∧ rest = before ++ after ∧
      test command ∧ ∀ c ∈ after, test c = false := by
  induction commands generalizing rest with
  | nil => simp [takeLast?] at h
  | cons first commands ih =>
    rw [takeLast?] at h
    cases htaken : takeLast? test commands with
    | none =>
      simp only [htaken, Option.ite_none_right_eq_some, Option.some.injEq, Prod.mk.injEq] at h
      obtain ⟨htest, rfl, rfl⟩ := h
      exact ⟨[], commands, rfl, rfl, htest, takeLast?_eq_none_iff.1 htaken⟩
    | some taken =>
      obtain ⟨last, others⟩ := taken
      simp only [htaken, Option.some.injEq, Prod.mk.injEq] at h
      obtain ⟨rfl, rfl⟩ := h
      obtain ⟨before, after, rfl, rfl, htest, hafter⟩ := ih htaken
      exact ⟨first :: before, after, rfl, rfl, htest, hafter⟩

variable {κ : Type} {queue next : Queue} {store : Store κ}

/-- The command taken next is ready; in order it is the first one, and out of order none after it is
    ready. -/
theorem next?_eq_some (h : queue.next? store = some (command, next)) :
    ∃ before after, queue.pending = before ++ command :: after ∧
      next = { queue with pending := before ++ after } ∧ command.isReady store ∧
      (queue.order = .inOrder → before = []) ∧
      (queue.order = .outOfOrder → ∀ c ∈ after, c.isReady store = false) := by
  simp only [next?, Option.map_eq_some_iff, Prod.mk.injEq] at h
  obtain ⟨⟨taken, pending⟩, htaken, rfl, rfl⟩ := h
  cases horder : queue.order with
  | inOrder =>
    rw [horder] at htaken
    obtain ⟨hpending, hready⟩ := takeFirst?_eq_some_iff.1 htaken
    exact ⟨[], pending, hpending, rfl, hready, fun _ => rfl, by simp⟩
  | outOfOrder =>
    rw [horder] at htaken
    obtain ⟨before, after, hpending, rfl, hready, hafter⟩ := takeLast?_eq_some htaken
    exact ⟨before, after, hpending, rfl, hready, by simp, fun _ => hafter⟩

/-- A queue that takes no command has none that may run. -/
theorem next?_eq_none (h : queue.next? store = none) :
    (queue.order = .inOrder → ∀ first rest, queue.pending = first :: rest →
      first.isReady store = false) ∧
    (queue.order = .outOfOrder → ∀ c ∈ queue.pending, c.isReady store = false) := by
  rw [next?, Option.map_eq_none_iff] at h
  constructor
  · intro horder first rest hpending
    rw [horder, hpending, takeFirst?] at h
    simpa using h
  · intro horder
    rw [horder] at h
    exact takeLast?_eq_none_iff.1 h

theorem advance_id [Clock Id κ] {target : Option EventId} {failure : Option Status} :
    queue.advance (m := Id) target failure store =
      if target.any store.isResolved || queue.pending.isEmpty then (report failure, queue, store)
      else
        match queue.next? store with
        | none => (.error .invalidEventWaitList, queue, store)
        | some (command, rest) =>
          let (outcome, store) := queue.execute (m := Id) command store
          rest.advance (m := Id) target (failure.or outcome) store := by
  rw [advance.eq_def]
  split
  · cases failure <;> rfl
  · cases queue.next? store <;> rfl

end Queue

/-! ### Steps of a state -/

namespace State

variable {κ : Type}

/-- The commands of a queue that have not run yet, in the order of submission. -/
def pending (state : State κ) (queue : QueueId) : List Command :=
  match state.queues[queue]? with
  | some queue => queue.pending
  | none => []

variable [Clock Id κ]

/-- A queue runs the command that it takes next. -/
inductive Step (queue : QueueId) : State κ → Command → Option Status → State κ → Prop
  | run {state : State κ} {q rest : Queue} {command : Command} {failure : Option Status}
      {store : Store κ} : state.queues[queue]? = some q →
      q.next? state.store = some (command, rest) →
      q.execute (m := Id) command state.store = (failure, store) →
      Step queue state command failure
        { state with store, queues := state.queues.setIfInBounds queue rest }

/-- A queue runs one command after the other. The log lists them in this order, each with its
    failure, if any. -/
inductive Steps (queue : QueueId) : State κ → List (Command × Option Status) → State κ → Prop
  | refl {state : State κ} : Steps queue state [] state
  | step {state state' state'' : State κ} {command : Command} {failure : Option Status}
      {log : List (Command × Option Status)} : Step queue state command failure state' →
      Steps queue state' log state'' → Steps queue state ((command, failure) :: log) state''

/-- How a drive towards a target ends after the commands of a log, and its answer. -/
inductive Ending (queue : QueueId) (target : Option EventId) (log : List (Command × Option Status))
    (state : State κ) : Except Status Unit → Prop
  | done : target.any state.store.isResolved ∨ state.pending queue = [] →
      Ending queue target log state (report (firstFailure? log))
  | stuck {q : Queue} : ¬target.any state.store.isResolved → state.queues[queue]? = some q →
      q.pending ≠ [] → q.next? state.store = none →
      Ending queue target log state (.error .invalidEventWaitList)

variable {state state' : State κ} {queue : QueueId} {target : Option EventId}
  {outcome : Except Status Unit}

omit [Clock Id κ] in
theorem pending_eq {q : Queue} (h : state.queues[queue]? = some q) :
    state.pending queue = q.pending := by
  rw [pending, h]

omit [Clock Id κ] in
theorem pendingCount_eq : state.pendingCount queue = (state.pending queue).length := by
  rw [pendingCount, pending]
  cases state.queues[queue]? <;> rfl

/-- Advancing a queue, as a sequence of steps of the state around it. The failure that counts is the
    one carried in, or else the first one on the way. -/
theorem advance_steps {q q' : Queue} {failure : Option Status} {store : Store κ}
    (hq : state.queues[queue]? = some q)
    (h : q.advance (m := Id) target failure state.store = (outcome, q', store)) :
    ∃ log after, after = { state with store, queues := state.queues.setIfInBounds queue q' } ∧
      Steps queue state log after ∧
      (outcome = report (failure.or (firstFailure? log)) ∧
          (target.any store.isResolved ∨ q'.pending = []) ∨
        outcome = .error .invalidEventWaitList ∧ ¬target.any store.isResolved ∧
          q'.pending ≠ [] ∧ q'.next? store = none) := by
  obtain ⟨hlt, hget⟩ := Array.getElem?_eq_some_iff.1 hq
  have hset : { state with queues := state.queues.setIfInBounds queue q } = state := by
    subst hget
    rw [Array.setIfInBounds_def, dif_pos hlt, Array.set_getElem_self]
  -- each step leaves one command less, and the failure carried in is that of an earlier step
  induction hn : q.pending.length using Nat.strongRecOn generalizing state q failure with
  | ind n ih =>
    rw [Queue.advance_id] at h
    split at h
    · rename_i hend
      cases h
      exact ⟨[], state, hset.symm, .refl, .inl ⟨by simp [firstFailure?], by simpa using hend⟩⟩
    · rename_i hend
      have hend : ¬target.any state.store.isResolved ∧ q.pending ≠ [] := by simpa using hend
      split at h
      · rename_i hnone
        cases h
        exact ⟨[], state, hset.symm, .refl, .inr ⟨rfl, hend.1, hend.2, hnone⟩⟩
      · rename_i command rest hnext
        rcases hexecute : q.execute (m := Id) command state.store with ⟨failed, stepped⟩
        have hstep := Step.run hq hnext hexecute
        rw [hexecute] at h
        let next : State κ :=
          { state with store := stepped, queues := state.queues.setIfInBounds queue rest }
        have hrest : next.queues[queue]? = some rest :=
          Array.getElem?_setIfInBounds_self_of_lt hlt
        have hlt' : queue < next.queues.size := by
          rwa [Array.size_setIfInBounds]
        obtain ⟨log, after, rfl, hsteps, hend⟩ := ih rest.pending.length
          (by have := Queue.length_next? hnext; omega) hrest h hlt' (by simp [next])
          (by simp [next]) rfl
        refine ⟨(command, failed) :: log, _, ?_, .step hstep hsteps, ?_⟩
        · simp only [next, Array.setIfInBounds_setIfInBounds]
        · rwa [firstFailure?_cons, ← Option.or_assoc]

/-- Driving a queue is a sequence of steps up to one of the two endings. -/
theorem drive_steps (hqueue : queue < state.queues.size)
    (h : state.drive (m := Id) queue target = (outcome, state')) :
    ∃ log, Steps queue state log state' ∧ Ending queue target log state' outcome := by
  have hq := Array.getElem?_eq_getElem hqueue
  rw [drive, hq] at h
  rcases hadvance : state.queues[queue].advance (m := Id) target none state.store
    with ⟨answer, q', store⟩
  simp only [bind, pure, hadvance] at h
  cases h
  obtain ⟨log, after, rfl, hsteps, hend⟩ := advance_steps hq hadvance
  have hq' : (state.queues.setIfInBounds queue q')[queue]? = some q' :=
    Array.getElem?_setIfInBounds_self_of_lt hqueue
  refine ⟨log, hsteps, ?_⟩
  rcases hend with ⟨houtcome, hend⟩ | ⟨houtcome, htarget, hpending, hnext⟩
  · rw [houtcome, Option.none_or]
    exact .done (hend.imp_right (pending_eq hq').trans)
  · rw [houtcome]
    exact .stuck htarget hq' hpending hnext

/-! ### What a step does -/

/-- The order in which a queue runs its commands. -/
def order? (state : State κ) (queue : QueueId) : Option QueueOrder :=
  state.queues[queue]?.map (·.order)

/-- All that a step can do: it takes a command that is ready out of the pending list of its queue,
    in order the first one and out of order the last one that is ready, and executes it. -/
structure Stepped (queue : QueueId) (state : State κ) (command : Command) (failure : Option Status)
    (state' : State κ) : Prop where
  pending : ∃ before after, state.pending queue = before ++ command :: after ∧
    state'.pending queue = before ++ after ∧
    (state.order? queue = some .inOrder → before = []) ∧
    (state.order? queue = some .outOfOrder → ∀ c ∈ after, c.isReady state.store = false)
  ready : command.isReady state.store
  executed : command.event < state.store.events.size →
    Executed state.store command failure state'.store
  order : state'.order? = state.order?
  others : ∀ other ≠ queue, state'.pending other = state.pending other
  size_queues : state'.queues.size = state.queues.size
  kernels : state'.kernels = state.kernels

theorem Step.spec {command : Command} {failure : Option Status}
    (h : Step queue state command failure state') : Stepped queue state command failure state' := by
  obtain ⟨hq, hnext, hexecute⟩ := h
  rename_i q rest store
  obtain ⟨before, after, hpending, rfl, hready, hin, hout⟩ := Queue.next?_eq_some hnext
  have hlt : queue < state.queues.size := (Array.getElem?_eq_some_iff.1 hq).1
  have horder : state.order? queue = some q.order := by rw [order?, hq, Option.map_some]
  have hrest : (state.queues.setIfInBounds queue { q with pending := before ++ after })[queue]? =
      some { q with pending := before ++ after } := Array.getElem?_setIfInBounds_self_of_lt hlt
  refine ⟨⟨before, after, (pending_eq hq).trans hpending, ?_, ?_, ?_⟩, hready,
    fun hevent => q.execute_spec hevent hexecute, ?_, ?_, ?_, rfl⟩
  · simp only [State.pending, hrest]
  · rw [horder]
    exact fun h => hin (Option.some.inj h)
  · rw [horder]
    exact fun h => hout (Option.some.inj h)
  · funext other
    rcases eq_or_ne queue other with rfl | hne
    · rw [horder, order?, hrest, Option.map_some]
    · rw [order?, order?, Array.getElem?_setIfInBounds_ne hne]
  · intro other hne
    rw [pending, pending, Array.getElem?_setIfInBounds_ne hne.symm]
  · exact Array.size_setIfInBounds

end State

end Offload.Host
