import Offload.Proofs.Host.Progress

/-!
# What failed calls leave behind

A call that submits a command and fails gives the caller no event. One that is refused has
submitted nothing and leaves the state as it was. One that waits for its own command fails with it
if the command runs. But where the queue is stuck, because the command is blocked, the call fails
while the command stays pending, and a later call can still run it.

So a failed call leaves a command of its own if and only if this was admitted and is blocked, and
then the failure says that the queue is stuck (`State.Reachable.failed_calls_leave`).
-/

namespace Offload.Host.State

variable {κ : Type} {state after : State κ} {queue : QueueId} {wait : List EventId} {c : Command}

/-- The command that a call submits once its operation is admitted. -/
def own (state : State κ) (operation : Operation) (wait : List EventId) : Command :=
  ⟨operation, wait, state.store.events.size⟩

/-- A command submitted since the first state is pending in the second one. -/
def LeavesCommand (state after : State κ) : Prop :=
  ∃ queue, ∃ c ∈ after.pending queue, state.store.events.size ≤ c.event

/-- What is left where a call fails with a status, by what its admission has said: its command if
    this is blocked, and otherwise nothing. -/
structure Leaves (state : State κ) (queue : QueueId) (wait : List EventId)
    (admission : Except Status Operation) (status : Status) (after : State κ) : Prop where
  refused : ∀ refusal, admission = .error refusal → status = refusal ∧ after = state
  command : LeavesCommand state after ↔ ∃ operation, admission = .ok operation ∧
    Blocked (state.submit queue operation wait).2 queue (state.own operation wait)
  stuck : LeavesCommand state after → status = .invalidEventWaitList

/-! ### Commands that are waited for -/

/-- A command pending after a submission is the one submitted, or was pending before. -/
theorem mem_pending_submit {operation : Operation} {other : QueueId}
    (hqueue : queue < state.queues.size)
    (hc : c ∈ (state.submit queue operation wait).2.pending other) :
    other = queue ∧ c = state.own operation wait ∨ c ∈ state.pending other := by
  rw [pending_submit operation wait hqueue] at hc
  by_cases heq : other = queue
  · rw [if_pos heq] at hc
    rcases List.mem_append.1 hc with hc | hc
    · exact .inr (heq ▸ hc)
    · exact .inl ⟨heq, List.mem_singleton.1 hc⟩
  · rw [if_neg heq] at hc
    exact .inr hc

theorem WellFormed.not_leavesCommand_self (h : state.WellFormed) : ¬LeavesCommand state state := by
  rintro ⟨queue, c, hc, hle⟩
  exact Nat.not_lt_of_le hle (h.unresolved queue c hc).1

/-- A call that is refused changes nothing. -/
theorem WellFormed.leaves_of_refused (h : state.WellFormed) (status : Status) :
    Leaves state queue wait (.error status) status state := by
  refine ⟨fun _ heq => ⟨Except.error.inj heq, rfl⟩, ?_, fun hleft => ?_⟩
  · exact ⟨fun hleft => absurd hleft h.not_leavesCommand_self, fun ⟨_, heq, _⟩ => nomatch heq⟩
  · exact absurd hleft h.not_leavesCommand_self

variable [Clock Id κ]

/-- Waiting for a command that has just been submitted leaves it pending if and only if it is
    blocked, and leaves no other that was not pending before. -/
theorem WellFormed.leavesCommand_iff (h : state.WellFormed) (operation : Operation)
    (hcheck : state.checkSubmission queue wait = .ok ()) :
    let submitted := (state.submit queue operation wait).2
    LeavesCommand state (submitted.drive (m := Id) queue (some state.store.events.size)).2 ↔
      Blocked submitted queue (state.own operation wait) := by
  intro submitted
  have hqueue : queue < state.queues.size := (checkSubmission_eq_ok_iff.1 hcheck).1
  have hwf : submitted.WellFormed := h.submit_of_checked operation hcheck
  have hmem : state.own operation wait ∈ submitted.pending queue := by
    simp [submitted, pending_submit operation wait hqueue, own]
  have hqueue' : queue < submitted.queues.size := lt_size_of_mem_pending hmem
  rcases hdrive : submitted.drive (m := Id) queue (some state.store.events.size)
    with ⟨answer, after⟩
  obtain ⟨log, hsteps, hran, -⟩ := hwf.drive hqueue' hdrive
  obtain ⟨-, hsettles⟩ := hwf.await hqueue' hmem hdrive
  constructor
  · rintro ⟨other, c, hc, hle⟩
    -- among the commands pending now, no other is as late as this one
    have hpending : c ∈ submitted.pending other := by
      rcases eq_or_ne other queue with rfl | hne
      · exact hran.sublist.subset hc
      · exact hran.others other hne ▸ hc
    have hown := (mem_pending_submit hqueue hpending).resolve_right fun hold =>
      Nat.not_lt_of_le hle (h.unresolved other c hold).1
    obtain ⟨rfl, rfl⟩ := hown
    by_contra hfree
    obtain ⟨outcome, houtcome, -⟩ := hsettles hfree
    have hresolved : after.store.isResolved (state.own operation wait).event := by
      rw [Store.isResolved_eq, houtcome, Option.isSome_some]
    exact (hran.isResolved_iff hwf hmem).1 hresolved hc
  · intro hblocked
    exact ⟨queue, _, ((hsteps.blocked_iff hwf).2 hblocked).mem, Nat.le_refl _⟩

/-- A call that submits a command and fails waiting for it leaves the command if it is blocked. -/
theorem WellFormed.leaves_of_admitted (h : state.WellFormed) {operation : Operation}
    {status : Status} (hcheck : state.checkSubmission queue wait = .ok ())
    (hwait : (state.submit queue operation wait).2.waitFor (m := Id) queue
      state.store.events.size = (.error status, after)) :
    Leaves state queue wait (.ok operation) status after := by
  have hqueue : queue < state.queues.size := (checkSubmission_eq_ok_iff.1 hcheck).1
  have hmem : state.own operation wait ∈ (state.submit queue operation wait).2.pending queue := by
    simp [pending_submit operation wait hqueue, own]
  obtain ⟨hstuck, -⟩ := (h.submit_of_checked operation hcheck).waitFor_answersFor
    (lt_size_of_mem_pending hmem) hmem
  have hafter : ((state.submit queue operation wait).2.drive (m := Id) queue
      (some state.store.events.size)).2 = after := by
    rw [waitFor_eq] at hwait
    exact congrArg Prod.snd hwait
  have hleft : LeavesCommand state after ↔
      Blocked (state.submit queue operation wait).2 queue (state.own operation wait) :=
    hafter ▸ h.leavesCommand_iff operation hcheck
  refine ⟨nofun, hleft.trans ⟨fun hblocked => ⟨operation, rfl, hblocked⟩, ?_⟩, fun hcommand => ?_⟩
  · rintro ⟨_, ⟨⟩, hblocked⟩
    exact hblocked
  · have hanswer := hstuck.2 (hleft.1 hcommand)
    rw [own, hwait] at hanswer
    exact Except.error.inj hanswer

/-! ### How calls fail -/

/-- How a call that submits a command fails with a status, by what its admission has said: it is
    refused, or it waits for its own command and that fails. -/
inductive Fails (state : State κ) (queue : QueueId) (wait : List EventId) :
    Except Status Operation → Status → State κ → Prop
  | refused {status : Status} : Fails state queue wait (.error status) status state
  | waited {operation : Operation} {status : Status} {after : State κ} :
      (state.submit queue operation wait).2.waitFor (m := Id) queue state.store.events.size =
        (.error status, after) →
      Fails state queue wait (.ok operation) status after

theorem enqueueWrite_fails {buffer : BufferId} {blocking : Bool} {data : Array Int32}
    {status : Status}
    (hfailed : state.enqueueWrite (m := Id) queue buffer blocking data wait =
      (.error status, after)) :
    Fails state queue wait (state.admitWrite queue buffer data wait) status after := by
  rw [enqueueWrite_eq] at hfailed
  cases hadmitted : state.admitWrite queue buffer data wait with
  | error refusal =>
    rw [hadmitted] at hfailed
    cases hfailed
    exact .refused
  | ok operation =>
    simp only [hadmitted] at hfailed
    rcases hwait : (state.submit queue operation wait).2.waitFor (m := Id) queue
      state.store.events.size with ⟨answer, after'⟩
    cases blocking with
    | false => exact nomatch hfailed
    | true =>
      simp only [hwait, if_true] at hfailed
      cases answer with
      | ok => exact nomatch hfailed
      | error =>
        cases hfailed
        exact .waited hwait

/-- A kernel is not waited for. -/
theorem enqueueKernel_fails {kernel : KernelId} {size : UInt64} {status : Status}
    (hfailed : state.enqueueKernel queue kernel size wait = (.error status, after)) :
    Fails state queue wait (state.admitKernel queue kernel size wait) status after := by
  rw [enqueueKernel_eq] at hfailed
  cases hadmitted : state.admitKernel queue kernel size wait with
  | error refusal =>
    rw [hadmitted] at hfailed
    cases hfailed
    exact .refused
  | ok operation =>
    rw [hadmitted] at hfailed
    exact nomatch hfailed

theorem enqueueRead_fails {buffer : BufferId} {out : Array Int32} {filled : Vector Int32 out.size}
    {status : Status}
    (hfailed : state.enqueueRead (m := Id) queue buffer out wait =
      ((.error status, filled), after)) :
    Fails state queue wait (state.admitRead queue buffer out.size wait) status after := by
  rw [enqueueRead_eq] at hfailed
  cases hadmitted : state.admitRead queue buffer out.size wait with
  | error refusal =>
    rw [hadmitted] at hfailed
    cases hfailed
    exact .refused
  | ok operation =>
    simp only [hadmitted] at hfailed
    rcases hwait : (state.submit queue operation wait).2.waitFor (m := Id) queue
      state.store.events.size with ⟨answer, after'⟩
    simp only [hwait] at hfailed
    cases answer with
    | ok => exact nomatch hfailed
    | error =>
      cases hfailed
      exact .waited hwait

/-! ### What is left -/

/-- What a call leaves that fails, if all that it admits has been checked. -/
theorem Fails.leaves {admission : Except Status Operation} {status : Status}
    (hfailed : Fails state queue wait admission status after) (h : state.WellFormed)
    (hcheck : ∀ operation, admission = .ok operation →
      state.checkSubmission queue wait = .ok ()) :
    Leaves state queue wait admission status after := by
  cases hfailed with
  | refused => exact h.leaves_of_refused status
  | waited hwait => exact h.leaves_of_admitted (hcheck _ rfl) hwait

/-- Where a call fails that submits a command, it leaves this command pending if and only if it was
    admitted and is blocked, so that only another queue can let it run, and it says then that the
    queue is stuck. All other failed calls leave no command, and those that are refused leave the
    state as it was. -/
theorem Reachable.failed_calls_leave (h : Reachable state) (queue : QueueId)
    (wait : List EventId) :
    (∀ buffer blocking data status after,
      state.enqueueWrite (m := Id) queue buffer blocking data wait = (.error status, after) →
      Leaves state queue wait (state.admitWrite queue buffer data wait) status after) ∧
    (∀ kernel size status after,
      state.enqueueKernel queue kernel size wait = (.error status, after) →
      Leaves state queue wait (state.admitKernel queue kernel size wait) status after) ∧
    ∀ buffer out filled status after,
      state.enqueueRead (m := Id) queue buffer out wait = ((.error status, filled), after) →
      Leaves state queue wait (state.admitRead queue buffer out.size wait) status after := by
  have hwf := h.wellFormed
  refine ⟨fun buffer blocking data status after hfailed => ?_,
    fun kernel size status after hfailed => ?_, fun buffer out filled status after hfailed => ?_⟩
  · exact (enqueueWrite_fails hfailed).leaves hwf fun _ hadmitted => (admitWrite_eq_ok hadmitted).1
  · exact (enqueueKernel_fails hfailed).leaves hwf fun _ hadmitted =>
      (admitKernel_eq_ok hadmitted).1
  · exact (enqueueRead_fails hfailed).leaves hwf fun _ hadmitted => (admitRead_eq_ok hadmitted).1

/-- Two queues in order. A command is pending on the second one, and what waits for it on the first
    one is blocked. -/
def awaitingOther : State Readings :=
  let device : Device := { name := "", kind := .cpu }
  (State.initial (.ofFunction fun _ => 0)).serve
    [.createQueue ⟨device⟩ device true, .createQueue ⟨device⟩ device true,
      .createBuffer ⟨device⟩ 0 .input 1, .enqueueWrite 1 0 false #[1] []]

theorem reachable_awaitingOther : awaitingOther.Reachable :=
  (reachable_initial _).serve _

/-- An upload that fails because its queue is stuck leaves its command, although the caller has no
    event of it, and the command runs once both queues are finished. -/
theorem leaves_of_stuck_upload :
    awaitingOther.Reachable ∧
      let (answer, after) := awaitingOther.enqueueWrite (m := Id) 0 0 true #[2] [0]
      answer = .error .invalidEventWaitList ∧ LeavesCommand awaitingOther after ∧
        (awaitingOther.finishAll [1, 0]).store.memory 0 = #[1] ∧
        (after.finishAll [1, 0]).store.memory 0 = #[2] := by
  refine ⟨reachable_awaitingOther, by decide +kernel, ?_, by decide +kernel, by decide +kernel⟩
  have hcount : ((awaitingOther.enqueueWrite (m := Id) 0 0 true #[2] [0]).2.pending 0).map
      Command.event = [1] := by decide +kernel
  have hsize : awaitingOther.store.events.size = 1 := by decide +kernel
  obtain ⟨c, hc, hevent⟩ := List.mem_map.1 (hcount ▸ List.mem_singleton_self 1)
  exact ⟨0, c, hc, hsize.trans_le hevent.ge⟩

/-- An upload that is refused and one that gets stuck, in the same state. -/
theorem failed_calls_leave_of_uploads :
    awaitingOther.Reachable ∧
      (awaitingOther.enqueueWrite (m := Id) 0 0 true #[2, 3] [0]).1 = .error .invalidValue ∧
      (awaitingOther.enqueueWrite (m := Id) 0 0 true #[2, 3] [0]).2 = awaitingOther ∧
      (LeavesCommand awaitingOther (awaitingOther.enqueueWrite (m := Id) 0 0 true #[2] [0]).2 ↔
        ∃ operation, awaitingOther.admitWrite 0 0 #[2] [0] = .ok operation ∧
          Blocked (awaitingOther.submit 0 operation [0]).2 0
            (awaitingOther.own operation [0])) := by
  obtain ⟨hwrite, -, -⟩ := reachable_awaitingOther.failed_calls_leave 0 [0]
  have hlong : (awaitingOther.enqueueWrite (m := Id) 0 0 true #[2, 3] [0]).1 =
      .error .invalidValue := by decide +kernel
  have hstuck : (awaitingOther.enqueueWrite (m := Id) 0 0 true #[2] [0]).1 =
      .error .invalidEventWaitList := by decide +kernel
  have hadmission : (awaitingOther.admitWrite 0 0 #[2, 3] [0]).isOk = false := by decide +kernel
  refine ⟨reachable_awaitingOther, hlong, ?_,
    (hwrite 0 true #[2] _ _ (Prod.ext hstuck rfl)).command⟩
  cases hadmitted : awaitingOther.admitWrite 0 0 #[2, 3] [0] with
  | ok operation =>
    rw [hadmitted] at hadmission
    exact nomatch hadmission
  | error refusal =>
    exact ((hwrite 0 true #[2, 3] _ _ (Prod.ext hlong rfl)).refused refusal hadmitted).2

end Offload.Host.State
