import Mathlib.Logic.Relation
import Offload.Proofs.Host.Blocked

/-!
# What a queue comes to

A queue is *alone* if none of its commands waits for a command of another queue
(`State.Alone`). Then no command is blocked, and driving the queue lets any of them resolve.

The *settled* ledger of a queue is what the ledger comes to when the pending commands run in the
order of submission (`State.settled`). A queue in order obviously gets there. A queue out of order
does so as well if of any two commands that conflict the later one waits for the earlier one, maybe
through others (`State.Ordered`): a command that is ready then conflicts with none before it, so it
can as well go first (`State.Stepped.settled`).
-/

namespace Offload.Host.State

open Relation

variable {κ : Type} {state state' : State κ} {queue : QueueId} {command : Command}
  {failure : Option Status}

/-- A well-formed state with a queue whose commands do not wait for other queues. -/
structure Alone (queue : QueueId) (state : State κ) : Prop where
  wellFormed : state.WellFormed
  lt_size : queue < state.queues.size
  wait : ∀ c ∈ state.pending queue, ∀ queue' ≠ queue, ∀ other ∈ state.pending queue',
    other.event ∉ c.wait

theorem Alone.of_same (h : Alone queue state) (hqueues : state'.queues = state.queues)
    (hevents : state'.store.events = state.store.events) : Alone queue state' := by
  have hpending := pending_congr hqueues
  refine ⟨h.wellFormed.of_same hpending hevents, hqueues ▸ h.lt_size, ?_⟩
  rw [hpending]
  exact h.wait

theorem Alone.not_blocked (h : Alone queue state) (c : Command) : ¬Blocked state queue c := by
  intro hblocked
  -- at the start of every chain some command waits for another queue
  induction hblocked with
  | foreign hc hwait hne hother => exact h.wait _ hc _ hne _ hother hwait
  | waits _ _ _ _ ih => exact ih
  | behind _ _ _ _ ih => exact ih

/-- The command waits for the other one, which is among those given. -/
def WaitsAmong (commands : List Command) (c other : Command) : Prop :=
  other ∈ commands ∧ other.event ∈ c.wait

/-- Of two pending commands that conflict the later one runs later: the queue is in order, or it
    waits for the earlier one through pending commands. (There is no other way to wait: what a
    resolved command has waited for has resolved.) -/
def Ordered (queue : QueueId) (state : State κ) : Prop :=
  state.order? queue = some .inOrder ∨
    ∀ c ∈ state.pending queue, ∀ other ∈ state.pending queue, other.event < c.event →
      c.operation.Conflicts other.operation →
      TransGen (WaitsAmong (state.pending queue)) c other

/-- What the ledger comes to when the commands of a queue run in the order of submission. -/
def settled (queue : QueueId) (state : State κ) : Ledger :=
  state.store.ledger.runAll (state.pending queue)

/-- Of events that have resolved, the settled ledger says what is known. -/
theorem outcome_settled (h : state.WellFormed) {event : EventId}
    (hresolved : state.store.isResolved event) :
    (state.settled queue).outcome event = state.store.outcome? event := by
  refine Ledger.outcome_runAll ?_
  rintro c hc rfl
  exact Bool.false_ne_true ((h.unresolved queue c hc).2.symm.trans hresolved)

/-! ### Steps -/

/-- A command that is ready waits for no pending command. -/
theorem Stepped.not_waitsAmong (hstep : Stepped queue state command failure state')
    (h : state.WellFormed) (other : Command) : ¬WaitsAmong (state.pending queue) command other := by
  rintro ⟨hother, hwait⟩
  have hresolved : state.store.isResolved other.event := List.all_eq_true.1 hstep.ready _ hwait
  exact Bool.false_ne_true ((h.unresolved queue other hother).2.symm.trans hresolved)

theorem Ran.alone {log : List (Command × Option Status)}
    (hran : Ran queue state log state') (h : Alone queue state) : Alone queue state' := by
  refine ⟨hran.wellFormed, hran.size_queues ▸ h.lt_size, fun c hc queue' hne => ?_⟩
  rw [hran.others queue' hne]
  exact h.wait c (hran.sublist.subset hc) queue' hne

/-- Chains of commands that wait for each other do not lead through a command that is ready. -/
theorem Stepped.transGen (hstep : Stepped queue state command failure state')
    (h : state.WellFormed) {c other : Command} (hother : other ≠ command)
    (hchain : TransGen (WaitsAmong (state.pending queue)) c other) :
    TransGen (WaitsAmong (state'.pending queue)) c other := by
  induction hchain with
  | single hwait => exact .single ⟨hstep.mem_pending hwait.1 hother, hwait.2⟩
  | tail _ hwait ih =>
    refine .tail (ih ?_) ⟨hstep.mem_pending hwait.1 hother, hwait.2⟩
    rintro rfl
    exact hstep.not_waitsAmong h _ hwait

theorem Stepped.ordered (hstep : Stepped queue state command failure state')
    (h : state.WellFormed) (hordered : Ordered queue state) : Ordered queue state' := by
  refine hordered.imp (fun hin => hstep.order ▸ hin) fun hwaits => ?_
  intro c hc other hother hlt hconflict
  have hsubset := (hstep.sublist queue).subset
  refine hstep.transGen h ?_ (hwaits c (hsubset hc) other (hsubset hother) hlt hconflict)
  rintro rfl
  exact hstep.event_ne h hother rfl

/-- What a queue comes to does not change while it runs. -/
theorem Stepped.settled (hstep : Stepped queue state command failure state')
    (h : state.WellFormed) (hordered : Ordered queue state) :
    state'.settled queue = state.settled queue := by
  obtain ⟨before, after, hpending, hpending', hin, -⟩ := hstep.pending
  have hmem : ∀ c ∈ before, c ∈ state.pending queue := fun c hc => by simp [hpending, hc]
  have hcommand : command ∈ state.pending queue := by simp [hpending]
  have hready := hstep.not_waitsAmong h
  have hlt : ∀ c ∈ before, c.event < command.event := fun c hc =>
    (List.pairwise_append.1 (hpending ▸ h.sorted queue)).2.2 c hc command List.mem_cons_self
  rw [State.settled, State.settled, (hstep.executes h).ledger, hpending, hpending']
  refine (Ledger.runAll_move_first fun c hc => ?_).symm
  refine ⟨Nat.ne_of_lt (hlt c hc), fun hwait => ?_, fun hwait => hready c ⟨hmem c hc, hwait⟩, ?_⟩
  · exact Nat.lt_asymm (hlt c hc) (h.wait_lt queue c (hmem c hc) _ hwait)
  · intro hconflict
    rcases hordered with horder | hwaits
    · simp [hin horder] at hc
    · -- a chain from the command to one before it would begin with a pending one
      rcases TransGen.head'_iff.1
        (hwaits command hcommand c (hmem c hc) (hlt c hc) hconflict.symm) with ⟨other, hwait, -⟩
      exact hready other hwait

/-! ### Submission and drives -/

/-- Two states that cannot be told apart through a queue, once it has settled. -/
structure Alike (queue : QueueId) (state state' : State κ) : Prop where
  settled : state.settled queue = state'.settled queue
  shape : state.store.shape = state'.store.shape
  kernels : state.kernels = state'.kernels
  size_events : state.store.events.size = state'.store.events.size
  size_queues : state.queues.size = state'.queues.size

theorem Alike.symm (h : Alike queue state state') : Alike queue state' state :=
  ⟨h.settled.symm, h.shape.symm, h.kernels.symm, h.size_events.symm, h.size_queues.symm⟩

theorem Alike.trans {state'' : State κ} (h : Alike queue state state')
    (h' : Alike queue state' state'') : Alike queue state state'' :=
  ⟨h.settled.trans h'.settled, h.shape.trans h'.shape, h.kernels.trans h'.kernels,
    h.size_events.trans h'.size_events, h.size_queues.trans h'.size_queues⟩

variable {operation : Operation} {wait : List EventId}

theorem settled_submit (hqueue : queue < state.queues.size) :
    (state.submit queue operation wait).2.settled queue =
      (state.settled queue).run ⟨operation, wait, state.store.events.size⟩ := by
  have hledger : (state.submit queue operation wait).2.store.ledger = state.store.ledger :=
    Ledger.ext rfl (outcome?_submit operation wait)
  rw [settled, hledger, pending_submit operation wait hqueue, if_pos rfl, Ledger.runAll,
    List.foldl_append]
  rfl

theorem Alike.submit (h : Alike queue state state') (hqueue : queue < state.queues.size) :
    Alike queue (state.submit queue operation wait).2 (state'.submit queue operation wait).2 := by
  refine ⟨?_, h.shape, h.kernels, ?_, ?_⟩
  · rw [settled_submit hqueue, settled_submit (h.size_queues ▸ hqueue), h.settled, h.size_events]
  · rw [size_events_submit, size_events_submit, h.size_events]
  · simp only [State.submit, Array.size_modify, h.size_queues]

theorem Alone.submit (h : Alone queue state) (hwait : ∀ event ∈ wait,
      event < state.store.events.size ∧
        ∀ queue' ≠ queue, ∀ other ∈ state.pending queue', other.event ≠ event) :
    Alone queue (state.submit queue operation wait).2 := by
  have hqueue := h.lt_size
  refine ⟨h.wellFormed.submit hqueue fun event hevent => (hwait event hevent).1, ?_, ?_⟩
  · rwa [State.submit, Array.size_modify]
  · intro c hc queue' hne other hother
    rw [pending_submit operation wait hqueue, if_pos rfl] at hc
    rw [pending_submit operation wait hqueue, if_neg hne] at hother
    rcases List.mem_append.1 hc with hc | hc
    · exact h.wait c hc queue' hne other hother
    · obtain rfl := List.mem_singleton.1 hc
      exact fun hevent => (hwait _ hevent).2 queue' hne other hother rfl

theorem order?_submit : (state.submit queue operation wait).2.order? = state.order? := by
  funext other
  simp only [order?, State.submit, Array.getElem?_modify]
  split
  · rw [Option.map_map]
    rfl
  · rfl

/-- A queue stays ordered if the new command waits for all those with which it conflicts. -/
theorem Ordered.submit (h : Ordered queue state) (hwf : state.WellFormed)
    (hqueue : queue < state.queues.size)
    (hwaits : state.order? queue = some .inOrder ∨ ∀ other ∈ state.pending queue,
      operation.Conflicts other.operation →
      TransGen (WaitsAmong (state.pending queue))
        ⟨operation, wait, state.store.events.size⟩ other) :
    Ordered queue (state.submit queue operation wait).2 := by
  rw [Ordered, order?_submit]
  rcases h with hin | hold
  · exact .inl hin
  rcases hwaits with hin | hnew
  · exact .inl hin
  right
  have hmono {c other : Command} (hchain : TransGen (WaitsAmong (state.pending queue)) c other) :
      TransGen (WaitsAmong (state.pending queue ++ [⟨operation, wait, state.store.events.size⟩]))
        c other :=
    hchain.lift id fun _ _ hw => ⟨List.mem_append_left _ hw.1, hw.2⟩
  rw [pending_submit operation wait hqueue, if_pos rfl]
  intro c hc other hother hlt hconflict
  rcases List.mem_append.1 hother with hother | hother
  · rcases List.mem_append.1 hc with hc | hc
    · exact hmono (hold c hc other hother hlt hconflict)
    · obtain rfl := List.mem_singleton.1 hc
      exact hmono (hnew other hother hconflict)
  · -- nothing is later than the new command
    obtain rfl := List.mem_singleton.1 hother
    rcases List.mem_append.1 hc with hc | hc
    · exact absurd hlt (Nat.lt_asymm (hwf.unresolved queue c hc).1)
    · obtain rfl := List.mem_singleton.1 hc
      exact absurd hlt (Nat.lt_irrefl _)

variable [Clock Id κ] {log : List (Command × Option Status)} {target : Option EventId}

theorem Steps.alike (hsteps : Steps queue state log state') (h : state.WellFormed)
    (hordered : Ordered queue state) : Ordered queue state' ∧ Alike queue state state' := by
  induction hsteps with
  | refl => exact ⟨hordered, rfl, rfl, rfl, rfl, rfl⟩
  | step hstep _ ih =>
    have hspec := hstep.spec
    have hexecuted := hspec.executes h
    obtain ⟨hordered', halike⟩ := ih (hspec.wellFormed h) (hspec.ordered h hordered)
    exact ⟨hordered', .trans ⟨(hspec.settled h hordered).symm, hexecuted.shape.symm,
      hspec.kernels.symm, hexecuted.size_events.symm, hspec.size_queues.symm⟩ halike⟩

/-- Driving a queue that is alone changes nothing that shows in the end. -/
theorem Alone.drive (h : Alone queue state) (hordered : Ordered queue state)
    (target : Option EventId) :
    let after := (state.drive (m := Id) queue target).2
    Alone queue after ∧ Ordered queue after ∧ Alike queue state after ∧
      after.order? = state.order? ∧ ∀ other ≠ queue, after.pending other = state.pending other := by
  intro after
  rcases hdrive : state.drive (m := Id) queue target with ⟨answer, driven⟩
  obtain rfl : after = driven := congrArg Prod.snd hdrive
  obtain ⟨log, hsteps, hran, -⟩ := h.wellFormed.drive h.lt_size hdrive
  obtain ⟨hordered', halike⟩ := hsteps.alike h.wellFormed hordered
  exact ⟨hran.alone h, hordered', halike, hran.order, hran.others⟩

/-- Waiting for a command of a queue that is alone gives the outcome that it has once the queue has
    settled. -/
theorem Alone.await (h : Alone queue state) (hordered : Ordered queue state) {c : Command}
    (hc : c ∈ state.pending queue) :
    ∃ outcome, (state.settled queue).outcome c.event = some outcome ∧
      (state.drive (m := Id) queue (some c.event)).2.store.outcome? c.event = some outcome := by
  obtain ⟨halone, -, halike, -, -⟩ := h.drive hordered (some c.event)
  rcases hdrive : state.drive (m := Id) queue (some c.event) with ⟨answer, after⟩
  rw [hdrive] at halone halike
  obtain ⟨-, hsettles⟩ := h.wellFormed.await h.lt_size hc hdrive
  obtain ⟨outcome, houtcome, -⟩ := hsettles (h.not_blocked c)
  refine ⟨outcome, ?_, houtcome⟩
  rw [halike.settled, outcome_settled halone.wellFormed, houtcome]
  rw [Store.isResolved_eq, houtcome, Option.isSome_some]

/-- Finishing a queue that is alone settles it. -/
theorem Alone.finish (h : Alone queue state) (hordered : Ordered queue state) :
    (state.finish (m := Id) queue).2.pending queue = [] ∧
      (state.finish (m := Id) queue).2.store.ledger = state.settled queue := by
  obtain ⟨-, -, halike, -, -⟩ := h.drive hordered none
  rcases hdrive : state.drive (m := Id) queue none with ⟨answer, after⟩
  rw [hdrive] at halike
  obtain ⟨log, -, -, hpending, -, -⟩ := h.wellFormed.drain h.lt_size hdrive
  have hempty : after.pending queue = [] := by
    rw [hpending]
    exact List.filter_eq_nil_iff.2 fun c _ => by simpa using h.not_blocked c
  rw [State.finish, hdrive]
  refine ⟨hempty, ?_⟩
  rw [halike.settled, State.settled, hempty]
  rfl

end Offload.Host.State
