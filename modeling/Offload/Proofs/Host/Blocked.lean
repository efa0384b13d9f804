import Offload.Proofs.Host.WellFormed

/-!
# Blocked commands

A pending command is *blocked* if only other queues can help it: it waits for a command that is
pending on another queue, or it cannot run before a blocked command of its own queue
(`State.Blocked`). While a queue runs, none of its commands becomes blocked or ceases to be
(`State.Stepped.blocked_iff`), and what is pending where it is stuck is blocked
(`State.blocked_of_stuck`). So driving a queue runs exactly the commands that are not blocked, as
far as it has to.
-/

namespace Offload.Host.State

variable {κ : Type} {state state' : State κ} {queue : QueueId} {command c : Command}

/-- The commands of a queue that cannot run before another queue has moved on. -/
inductive Blocked (state : State κ) (queue : QueueId) : Command → Prop
  | foreign {c other : Command} {queue' : QueueId} : c ∈ state.pending queue →
      other.event ∈ c.wait → queue' ≠ queue → other ∈ state.pending queue' →
      Blocked state queue c
  | waits {c other : Command} : state.order? queue = some .outOfOrder →
      c ∈ state.pending queue → other.event ∈ c.wait → Blocked state queue other →
      Blocked state queue c
  | behind {c other : Command} : state.order? queue = some .inOrder →
      c ∈ state.pending queue → other.event < c.event → Blocked state queue other →
      Blocked state queue c

theorem Blocked.mem (h : Blocked state queue c) : c ∈ state.pending queue := by
  cases h <;> assumption

/-- What a blocked command is blocked by need only be as much pending. -/
theorem Blocked.mono (h : Blocked state queue c) (horder : state'.order? = state.order?)
    (hothers : ∀ other ≠ queue, ∀ c ∈ state.pending other, c ∈ state'.pending other)
    (hpending : ∀ c, Blocked state queue c → c ∈ state'.pending queue) :
    Blocked state' queue c := by
  induction h with
  | foreign hc hwait hne hother =>
    exact .foreign (hpending _ (.foreign hc hwait hne hother)) hwait hne (hothers _ hne _ hother)
  | waits hout hc hwait hother ih =>
    exact .waits (horder ▸ hout) (hpending _ (.waits hout hc hwait hother)) hwait ih
  | behind hin hc hlt hother ih =>
    exact .behind (horder ▸ hin) (hpending _ (.behind hin hc hlt hother)) hlt ih

/-! ### Blocked commands while a queue runs -/

variable {failure : Option Status}

/-- A blocked command does not run. -/
theorem Stepped.not_blocked (hstep : Stepped queue state command failure state')
    (h : state.WellFormed) : ¬Blocked state queue command := by
  obtain ⟨before, after, hpending, -, hin, -⟩ := hstep.pending
  have hready : ∀ event ∈ command.wait, state.store.isResolved event := by
    simpa [Command.isReady] using hstep.ready
  have hqueued {q : QueueId} {other : Command} (hother : other ∈ state.pending q) :
      other.event ∉ command.wait := fun hwait =>
    Bool.false_ne_true ((h.unresolved q other hother).2.symm.trans (hready _ hwait))
  -- what it waits for has resolved, so nothing pending can block it
  rintro (⟨-, hwait, -, hother⟩ | ⟨-, -, hwait, hother⟩ | ⟨horder, -, hlt, hother⟩)
  · exact hqueued hother hwait
  · exact hqueued hother.mem hwait
  · -- in order it is the first command that runs, and none is before it
    have hsorted := h.sorted queue
    have hmem := hother.mem
    rw [hpending, hin horder] at hsorted hmem
    rcases List.mem_cons.1 hmem with rfl | hmem
    · exact Nat.lt_irrefl _ hlt
    · exact Nat.lt_asymm hlt ((List.pairwise_cons.1 hsorted).1 _ hmem)

/-- A step blocks no command, and frees none. -/
theorem Stepped.blocked_iff (hstep : Stepped queue state command failure state')
    (h : state.WellFormed) : Blocked state' queue c ↔ Blocked state queue c := by
  constructor
  · intro hc
    exact hc.mono hstep.order.symm (fun other hne c hc => hstep.others other hne ▸ hc)
      fun c hc => (hstep.sublist queue).subset hc.mem
  · intro hc
    refine hc.mono hstep.order (fun other hne c hc => (hstep.others other hne).symm ▸ hc) ?_
    intro c hc
    -- the only command that is not pending any more was not blocked
    refine hstep.mem_pending hc.mem ?_
    rintro rfl
    exact hstep.not_blocked h hc

/-- A command that is not ready waits for an earlier command that is pending somewhere. -/
theorem WellFormed.exists_awaited (h : state.WellFormed) (hc : c ∈ state.pending queue)
    (hready : c.isReady state.store = false) :
    ∃ queue', ∃ other ∈ state.pending queue', other.event ∈ c.wait ∧ other.event < c.event := by
  obtain ⟨event, hevent, hqueued⟩ := List.all_eq_false.1 hready
  have hlt := h.wait_lt queue c hc event hevent
  obtain ⟨queue', other, hother, rfl⟩ := h.owned event
    (Nat.lt_trans hlt (h.unresolved queue c hc).1) (Bool.eq_false_iff.2 hqueued)
  exact ⟨queue', other, hother, hevent, hlt⟩

/-- Where a queue is stuck, all its commands are blocked. -/
theorem blocked_of_stuck (h : state.WellFormed) {q : Queue} (hq : state.queues[queue]? = some q)
    (hnext : q.next? state.store = none) (hc : c ∈ state.pending queue) :
    Blocked state queue c := by
  have horder : state.order? queue = some q.order := by rw [order?, hq, Option.map_some]
  obtain ⟨hin, hout⟩ := Queue.next?_eq_none hnext
  cases hmode : q.order with
  | inOrder =>
    have hsorted := h.sorted queue
    obtain ⟨first, rest, hpending⟩ := List.exists_cons_of_ne_nil (List.ne_nil_of_mem hc)
    have hfirst : first ∈ state.pending queue := by simp [hpending]
    obtain ⟨queue', other, hother, hwait, hlt⟩ :=
      h.exists_awaited hfirst (hin hmode first rest ((pending_eq hq).symm.trans hpending))
    rw [hpending] at hsorted hc
    have hfront : Blocked state queue first := by
      refine .foreign hfirst hwait ?_ hother
      rintro rfl
      -- in this queue there is nothing before the first command
      rw [hpending] at hother
      rcases List.mem_cons.1 hother with rfl | hother
      · exact Nat.lt_irrefl _ hlt
      · exact Nat.lt_asymm hlt ((List.pairwise_cons.1 hsorted).1 other hother)
    rcases List.mem_cons.1 hc with rfl | hc
    · exact hfront
    · exact .behind (horder.trans (congrArg some hmode)) (hpending ▸ List.mem_cons_of_mem _ hc)
        ((List.pairwise_cons.1 hsorted).1 c hc) hfront
  | outOfOrder =>
    -- an earlier command of the same queue that it waits for is blocked by induction
    induction hn : c.event using Nat.strongRecOn generalizing c with
    | ind n ih =>
      obtain ⟨queue', other, hother, hwait, hlt⟩ :=
        h.exists_awaited hc (hout hmode c ((pending_eq hq) ▸ hc))
      by_cases hqueue : queue' = queue
      · subst hqueue
        exact .waits (horder.trans (congrArg some hmode)) hc hwait (ih _ (hn ▸ hlt) hother rfl)
      · exact .foreign hc hwait hqueue hother

/-! ### Drives -/

variable [Clock Id κ] {log : List (Command × Option Status)} {target : Option EventId}
  {answer : Except Status Unit}

theorem Steps.blocked_iff (hsteps : Steps queue state log state') (h : state.WellFormed) :
    Blocked state' queue c ↔ Blocked state queue c := by
  induction hsteps with
  | refl => rfl
  | step hstep hsteps ih =>
    exact (ih (hstep.spec.wellFormed h)).trans (hstep.spec.blocked_iff h)

open scoped Classical in
/-- A queue takes none of its blocked commands out of the pending list. -/
theorem Steps.filter_blocked (hsteps : Steps queue state log state') (h : state.WellFormed) :
    (state'.pending queue).filter (Blocked state queue ·) =
      (state.pending queue).filter (Blocked state queue ·) := by
  induction hsteps with
  | refl => rfl
  | step hstep hsteps ih =>
    have hspec := hstep.spec
    obtain ⟨before, after, hpending, hpending', -, -⟩ := hspec.pending
    simp only [hspec.blocked_iff h] at ih
    rw [ih (hspec.wellFormed h), hpending, hpending', List.filter_append, List.filter_append,
      List.filter_cons_of_neg (by simpa using hspec.not_blocked h)]

/-- No command fails with the status that says that a queue is stuck. -/
theorem Steps.failure_ne (hsteps : Steps queue state log state') (h : state.WellFormed) :
    ∀ entry ∈ log, entry.2 ≠ some .invalidEventWaitList := by
  induction hsteps with
  | refl => exact nofun
  | step hstep hsteps ih =>
    have hspec := hstep.spec
    have hexecuted := hspec.executes h
    refine List.forall_mem_cons.2 ⟨?_, ih (hspec.wellFormed h)⟩
    rw [hexecuted.failure, hexecuted.ledger]
    exact Ledger.failure?_run_self

theorem report_ne (hsteps : Steps queue state log state') (h : state.WellFormed) :
    report (firstFailure? log) ≠ .error .invalidEventWaitList := by
  intro hreport
  cases hfirst : firstFailure? log with
  | none =>
    rw [hfirst] at hreport
    exact nomatch hreport
  | some status =>
    obtain ⟨entry, hentry, hstatus⟩ := List.exists_of_findSome?_eq_some hfirst
    rw [hfirst] at hreport
    have hstuck : entry.2 = some .invalidEventWaitList :=
      hstatus.trans (congrArg some (Except.error.inj hreport))
    exact hsteps.failure_ne h entry hentry hstuck

open scoped Classical in
/-- Draining a queue leaves its blocked commands. Only if there are none, failures on the way
    count. -/
theorem WellFormed.drain (h : state.WellFormed) (hqueue : queue < state.queues.size)
    (hdrive : state.drive (m := Id) queue none = (answer, state')) :
    ∃ log, Steps queue state log state' ∧ Ran queue state log state' ∧
      state'.pending queue = (state.pending queue).filter (Blocked state queue ·) ∧
      (answer = .error .invalidEventWaitList ↔ ∃ c, Blocked state queue c) ∧
      ((¬∃ c, Blocked state queue c) → answer = report (firstFailure? log)) := by
  obtain ⟨log, hsteps, hran, hend⟩ := h.drive hqueue hdrive
  refine ⟨log, hsteps, hran, ?_⟩
  have hkept := hsteps.filter_blocked h
  have hblocked {c : Command} : Blocked state' queue c ↔ Blocked state queue c :=
    hsteps.blocked_iff h
  cases hend with
  | done hend =>
    have hempty : state'.pending queue = [] := by simpa using hend
    have hnone : ¬∃ c, Blocked state queue c := by
      rintro ⟨c, hc⟩
      have := (hblocked.2 hc).mem
      simp [hempty] at this
    refine ⟨by rw [← hkept, hempty, List.filter_nil], ⟨fun hstuck => ?_, fun hc => absurd hc hnone⟩,
      fun _ => rfl⟩
    exact absurd hstuck (report_ne hsteps h)
  | stuck htarget hq hne hnext =>
    rename_i q
    -- what is left where the queue is stuck was blocked from the start
    have hall : ∀ c ∈ state'.pending queue, Blocked state queue c := fun c hc =>
      hblocked.1 (blocked_of_stuck hran.wellFormed hq hnext hc)
    obtain ⟨c, hc⟩ := List.exists_mem_of_ne_nil _ ((pending_eq hq).symm ▸ hne)
    refine ⟨?_, ⟨fun _ => ⟨c, hall c hc⟩, fun _ => rfl⟩, fun hnone => absurd ⟨c, hall c hc⟩ hnone⟩
    rw [← hkept]
    exact (List.filter_eq_self.2 fun c hc => decide_eq_true (hall c hc)).symm

/-- Waiting for a pending command lets it resolve, unless it is blocked: then the queue is stuck
    before. -/
theorem WellFormed.await (h : state.WellFormed) (hqueue : queue < state.queues.size)
    (hc : c ∈ state.pending queue)
    (hdrive : state.drive (m := Id) queue (some c.event) = (answer, state')) :
    (Blocked state queue c → state'.store.outcome? c.event = none ∧
      answer = .error .invalidEventWaitList) ∧
    (¬Blocked state queue c → ∃ outcome, state'.store.outcome? c.event = some outcome ∧
      outcome ≠ .error .invalidEventWaitList) := by
  obtain ⟨log, hsteps, hran, hend⟩ := h.drive hqueue hdrive
  have hresolved := hran.isResolved_iff h hc
  refine ⟨fun hblocked => ?_, fun hblocked => ?_⟩
  · have hmem := ((hsteps.blocked_iff h).2 hblocked).mem
    have hqueued : ¬state'.store.isResolved c.event := fun hr => hresolved.1 hr hmem
    refine ⟨by simpa [Store.isResolved_eq] using hqueued, ?_⟩
    cases hend with
    | done hend =>
      rcases hend with hend | hend
      · exact absurd hend hqueued
      · simp [hend] at hmem
    | stuck => rfl
  · have hmem : c ∉ state'.pending queue := fun hmem => by
      cases hend with
      | done hend =>
        rcases hend with hend | hend
        · exact hresolved.1 hend hmem
        · simp [hend] at hmem
      | stuck _ hq _ hnext =>
        exact hblocked ((hsteps.blocked_iff h).1 (blocked_of_stuck hran.wellFormed hq hnext hmem))
    have hsome := hresolved.2 hmem
    rw [Store.isResolved_eq] at hsome
    obtain ⟨outcome, houtcome⟩ := Option.isSome_iff_exists.1 hsome
    refine ⟨outcome, houtcome, ?_⟩
    rintro rfl
    -- the command is one of those that have run
    have hlog := (List.mem_append.1 (hran.perm.subset hc)).resolve_right hmem
    obtain ⟨entry, hentry, rfl⟩ := List.mem_map.1 hlog
    refine hsteps.failure_ne h entry hentry ((hran.failures entry hentry).trans ?_)
    simp only [Ledger.failure?, Store.ledger, houtcome]

/-! ### Calls -/

/-- The answer of a call that waits for its own command: that the queue is stuck if the command is
    blocked, and otherwise the outcome of the command. -/
def AnswersFor (submitted : State κ) (queue : QueueId) (command : Command)
    (answer : Except Status EventId) (after : State κ) : Prop :=
  (answer = .error .invalidEventWaitList ↔ Blocked submitted queue command) ∧
    (¬Blocked submitted queue command →
      ∃ outcome, after.store.outcome? command.event = some outcome ∧
        answer = outcome.map fun _ => command.event)

theorem WellFormed.waitFor_answersFor (h : state.WellFormed) (hqueue : queue < state.queues.size)
    (hc : c ∈ state.pending queue) :
    AnswersFor state queue c ((state.waitFor (m := Id) queue c.event).1.map fun _ => c.event)
      (state.waitFor (m := Id) queue c.event).2 := by
  rw [waitFor_eq]
  rcases hdrive : state.drive (m := Id) queue (some c.event) with ⟨driven, after⟩
  obtain ⟨hstuck, hsettled⟩ := h.await hqueue hc hdrive
  by_cases hblocked : Blocked state queue c
  · obtain ⟨hnone, rfl⟩ := hstuck hblocked
    simp only [hnone]
    exact ⟨⟨fun _ => hblocked, fun _ => rfl⟩, fun hfree => absurd hblocked hfree⟩
  · obtain ⟨outcome, hsome, hne⟩ := hsettled hblocked
    refine ⟨⟨fun hanswer => ?_, fun hb => absurd hb hblocked⟩, fun _ => ⟨outcome, hsome, ?_⟩⟩
    all_goals simp only [hsome, waited] at *
    · cases outcome with
      | ok fetched => contradiction
      | error status => exact absurd (congrArg Except.error (Except.error.inj hanswer)) hne
    · cases outcome <;> rfl

/-- Calls on a queue run all but its blocked commands. Finishing a queue leaves these pending, in
    the order of submission, and touches no other queue; it reports that the queue is stuck if
    there are any, and otherwise the first failure on the way. A call that waits for its own
    command reports that the queue is stuck if this is blocked, and otherwise its outcome. -/
theorem Reachable.runs_all_but_blocked (h : Reachable state) (hqueue : queue < state.queues.size) :
    (∃ log, Steps queue state log (state.finish (m := Id) queue).2 ∧
      (open scoped Classical in (state.finish (m := Id) queue).2.pending queue =
        (state.pending queue).filter (Blocked state queue ·)) ∧
      (∀ other ≠ queue, (state.finish (m := Id) queue).2.pending other = state.pending other) ∧
      ((state.finish (m := Id) queue).1 = .error .invalidEventWaitList ↔
        ∃ c, Blocked state queue c) ∧
      ((¬∃ c, Blocked state queue c) →
        (state.finish (m := Id) queue).1 = report (firstFailure? log))) ∧
    (∀ buffer data wait operation, state.admitWrite queue buffer data wait = .ok operation →
      AnswersFor (state.submit queue operation wait).2 queue
        ⟨operation, wait, state.store.events.size⟩
        (state.enqueueWrite (m := Id) queue buffer true data wait).1
        (state.enqueueWrite (m := Id) queue buffer true data wait).2) ∧
    (∀ buffer out wait operation, state.admitRead queue buffer out.size wait = .ok operation →
      AnswersFor (state.submit queue operation wait).2 queue
        ⟨operation, wait, state.store.events.size⟩
        (state.enqueueRead (m := Id) queue buffer out wait).1.1
        (state.enqueueRead (m := Id) queue buffer out wait).2) := by
  have hwf := h.wellFormed
  -- a command that is admitted is pending once it has been submitted
  have hsubmit (operation : Operation) {wait : List EventId}
      (hcheck : state.checkSubmission queue wait = .ok ()) :
      AnswersFor (state.submit queue operation wait).2 queue
        ⟨operation, wait, state.store.events.size⟩ _ _ :=
    (hwf.submit_of_checked _ hcheck).waitFor_answersFor
      (by rwa [submit, Array.size_modify]) (by simp [pending_submit operation wait hqueue])
  refine ⟨?_, fun buffer data wait operation hadmitted => ?_,
    fun buffer out wait operation hadmitted => ?_⟩
  · obtain ⟨log, hsteps, hran, hpending, hstuck, hreport⟩ := hwf.drain hqueue rfl
    exact ⟨log, hsteps, hpending, hran.others, hstuck, hreport⟩
  · rw [enqueueWrite_eq, hadmitted]
    exact hsubmit operation (admitWrite_eq_ok hadmitted).1
  · have hown := hsubmit operation (admitRead_eq_ok hadmitted).1
    rw [enqueueRead_eq, hadmitted]
    rcases hwait : (state.submit queue operation wait).2.waitFor (m := Id) queue
      state.store.events.size with ⟨answer, after⟩
    simp only [hwait] at hown ⊢
    cases answer <;> exact hown

/-- A queue whose only command waits for one of another queue that nobody drives is stuck. -/
theorem runs_all_but_blocked_of_crossed_queues :
    let clock := Readings.ofFunction fun _ => 0
    let state : State Readings :=
      { store :=
          { clock, buffers := #[⟨.input, #[freshElement]⟩],
            events := #[⟨.write, true, .queued, #[]⟩, ⟨.write, true, .queued, #[]⟩] }
        queues := #[⟨.inOrder, true, false, [⟨.write 0 #[2], [0], 1⟩]⟩,
          ⟨.inOrder, true, false, [⟨.write 0 #[1], [], 0⟩]⟩] }
    state.Reachable ∧ (state.finish (m := Id) 0).1 = .error .invalidEventWaitList := by
  intro clock state
  have hreachable : state.Reachable := by
    let device : Device := { name := "", kind := .cpu }
    have hinitial : Reachable { initial clock with enumerationFault := none } := .initial
    have hqueues := hinitial.answer (.createQueue ⟨device⟩ device true)
      |>.answer (.createQueue ⟨device⟩ device true)
    have hbuffer := hqueues.answer (.createBuffer ⟨device⟩ 0 .input 1)
    exact hbuffer.answer (.enqueueWrite 1 0 false #[1] [])
      |>.answer (.enqueueWrite 0 0 false #[2] [0])
  obtain ⟨⟨log, -, -, -, hstuck, -⟩, -⟩ := hreachable.runs_all_but_blocked Nat.two_pos
  have hown : ⟨.write 0 #[2], [0], 1⟩ ∈ state.pending 0 := List.mem_singleton_self _
  have hforeign : ⟨.write 0 #[1], [], 0⟩ ∈ state.pending 1 := List.mem_singleton_self _
  exact ⟨hreachable, hstuck.2
    ⟨_, .foreign hown (List.mem_singleton_self 0) Nat.one_ne_zero hforeign⟩⟩

end Offload.Host.State
