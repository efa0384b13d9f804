import Mathlib.Logic.Function.Iterate
import Offload.Proofs.Host.Moves

/-!
# Timestamps

A command that completes is stamped with two readings of the clock, taken one right after the other.
A clock that never runs backwards (`Clock.Steady`) so gives stamps with a duration, unless the
device counts backwards: then the stamps have none (`State.Timed.profiling`). One is added to a
reading of such a device, so its clock must not reach the last number that there is. Nothing happens
to a clock but that it is read, whatever is asked (`State.answer_later`), so it stays steady.
-/

namespace Offload

namespace Clock

variable {κ : Type} [Clock Id κ]

/-- The present reading of a clock. -/
def reading (clock : κ) : UInt64 := (Clock.read (m := Id) clock).1

/-- The clock after the present reading. -/
def tick (clock : κ) : κ := (Clock.read (m := Id) clock).2

/-- The readings of a clock never decrease and, where a device counts backwards from them, never
    reach the last number. -/
structure Steady (backwards : Bool) (clock : κ) : Prop where
  mono : ∀ n, reading (tick^[n] clock) ≤ reading (tick^[n + 1] clock)
  bounded : backwards → ∀ n, reading (tick^[n] clock) < 18446744073709551615

theorem Steady.tick {backwards : Bool} {clock : κ} (h : Steady backwards clock) :
    Steady backwards (tick clock) :=
  ⟨fun n => h.mono (n + 1), fun hbackwards n => h.bounded hbackwards (n + 1)⟩

/-- The stamps of a command that starts now, on a device that counts forwards or backwards. -/
def stamps (backwards : Bool) (clock : κ) : Stamps :=
  let stamps : Stamps := ⟨reading clock, reading (tick clock)⟩
  if backwards then stamps.reversed else stamps

/-- One clock is the other one after some readings. -/
def Later (clock clock' : κ) : Prop := ∃ n, clock' = tick^[n] clock

theorem Later.refl (clock : κ) : Later clock clock := ⟨0, rfl⟩

theorem Later.trans {clock clock' clock'' : κ} (h : Later clock clock')
    (h' : Later clock' clock'') : Later clock clock'' := by
  obtain ⟨n, rfl⟩ := h
  obtain ⟨n', rfl⟩ := h'
  exact ⟨n' + n, (Function.iterate_add_apply tick n' n clock).symm⟩

/-- A clock that is steady stays so. -/
theorem Steady.later {backwards : Bool} {clock clock' : κ} (h : Steady backwards clock)
    (hlater : Later clock clock') : Steady backwards clock' := by
  obtain ⟨n, rfl⟩ := hlater
  induction n generalizing clock with
  | zero => exact h
  | succ n ih => exact ih h.tick

end Clock

/-- The readings of a clock are those given in advance. -/
theorem Readings.reading_iterate_tick (reading : Nat → UInt64) (taken n : Nat) :
    Clock.reading (Clock.tick^[n] (⟨reading, taken⟩ : Readings)) = reading (taken + n) := by
  induction n generalizing taken with
  | zero => rfl
  | succ n ih =>
    rw [Function.iterate_succ_apply]
    exact (ih (taken + 1)).trans (congrArg reading (by omega))

theorem Readings.steady {reading : Nat → UInt64} (hmono : ∀ n, reading n ≤ reading (n + 1))
    {backwards : Bool} (hbounded : backwards → ∀ n, reading n < 18446744073709551615) :
    Clock.Steady backwards (.ofFunction reading : Readings) := by
  refine ⟨fun n => ?_, fun hbackwards n => ?_⟩ <;>
    simp only [ofFunction, reading_iterate_tick, Nat.zero_add]
  · exact hmono n
  · exact hbounded hbackwards n

namespace Stamps

theorem elapsed?_eq_none_iff {stamps : Stamps} :
    stamps.elapsed? = none ↔ stamps.stop < stamps.start := by
  simp [elapsed?]

theorem elapsed?_reversed {start stop : UInt64} (hle : start ≤ stop)
    (hlt : stop < 18446744073709551615) : (reversed ⟨start, stop⟩).elapsed? = none := by
  rw [elapsed?_eq_none_iff, reversed, UInt64.lt_iff_toNat_lt, UInt64.toNat_add]
  rw [UInt64.le_iff_toNat_le] at hle
  rw [UInt64.lt_iff_toNat_lt] at hlt
  simp at hlt ⊢
  omega

end Stamps

/-- Stamps taken from a steady clock have no duration exactly where the device counts backwards. -/
theorem Clock.Steady.elapsed?_stamps {κ : Type} [Clock Id κ] {backwards : Bool} {clock : κ}
    (h : Steady backwards clock) :
    (stamps backwards clock).elapsed? = none ↔ backwards = true := by
  have hle : reading clock ≤ reading (Clock.tick clock) := h.mono 0
  cases backwards with
  | false => simpa [stamps, Stamps.elapsed?_eq_none_iff] using hle
  | true => simpa [stamps] using Stamps.elapsed?_reversed hle (h.bounded rfl 1)

namespace Host

open Clock

/-- The event is timed, and if its command has completed, its stamps have no duration exactly where
    the device counts backwards. -/
structure Stamped (backwards : Bool) (entry : Event) : Prop where
  profiling : entry.profiling = true
  elapsed : ∀ stamps, entry.status = .complete stamps →
    (stamps.elapsed? = none ↔ backwards = true)

variable {κ : Type} [Clock Id κ]

omit [Clock Id κ] in
theorem Store.stamped_resolve {backwards : Bool} {store : Store κ} {target : EventId}
    {status : EventStatus} {fetched : Array Int32}
    (hstatus : ∀ stamps, status = .complete stamps → (stamps.elapsed? = none ↔ backwards = true))
    {event : EventId} {entry : Event}
    (h : (store.resolve target status fetched).events[event]? = some entry) :
    ∃ old, store.events[event]? = some old ∧ (Stamped backwards old → Stamped backwards entry) := by
  rw [resolve, Array.getElem?_modify] at h
  split at h
  · obtain ⟨old, hold, rfl⟩ := Option.map_eq_some_iff.1 h
    exact ⟨old, hold, fun hstamped => ⟨hstamped.profiling, hstatus⟩⟩
  · exact ⟨entry, h, id⟩

omit [Clock Id κ] in
theorem Store.clock_perform (store : Store κ) (operation : Operation) :
    (store.perform operation).2.clock = store.clock := by
  cases operation with
  | write | read =>
    rw [perform]
    split <;> rfl
  | kernel =>
    rw [perform]
    split
    · rfl
    · simp only []
      split <;> rfl

/-- Running a command, with all that is read of the clock: it is read before and after the
    operation, unless the wait-list keeps the command from running. -/
theorem Queue.execute_id (queue : Queue) (command : Command) (store : Store κ) :
    queue.execute (m := Id) command store =
      if command.wait.any store.hasFailed then
        let status := Status.execStatusErrorForEventsInWaitList
        (some status, store.resolve command.event (.failed status))
      else
        let (outcome, done) := { store with clock := tick store.clock }.perform command.operation
        let done := { done with clock := tick (tick store.clock) }
        match outcome with
        | .ok fetched =>
          let stamps := Clock.stamps queue.backwardsClock store.clock
          (none, done.resolve command.event (.complete stamps) fetched)
        | .error status =>
          let done := done.note (.commandFailed command.operation.kind.label status)
          (some status, done.resolve command.event (.failed status)) := by
  rw [execute]
  split
  · rfl
  · have hclock := Store.clock_perform { store with clock := tick store.clock } command.operation
    rcases hperform : Store.perform { store with clock := tick store.clock } command.operation
      with ⟨outcome, done⟩
    rw [hperform] at hclock
    -- the second reading is that of the clock after the first
    have hread : Clock.read (m := Id) store.clock = (reading store.clock, tick store.clock) := rfl
    have hread' : Clock.read (m := Id) done.clock =
        (reading (tick store.clock), tick (tick store.clock)) := by
      rw [show done.clock = tick store.clock from hclock]
      rfl
    simp only [bind, pure, hread, hperform, hread', Clock.stamps]
    cases outcome <;> rfl

/-- A command reads the clock at most twice. -/
theorem Queue.execute_later (queue : Queue) {command : Command} {store after : Store κ}
    {failure : Option Status} (h : queue.execute (m := Id) command store = (failure, after)) :
    Later store.clock after.clock := by
  rw [execute_id] at h
  split at h
  · obtain rfl := (Prod.mk.inj h).2
    exact .refl _
  · simp only [] at h
    split at h
    · obtain rfl := (Prod.mk.inj h).2
      exact ⟨2, rfl⟩
    · obtain rfl := (Prod.mk.inj h).2
      exact ⟨2, rfl⟩

/-- A command stamps its own event only. -/
theorem Queue.execute_stamped (queue : Queue) {command : Command} {store after : Store κ}
    {failure : Option Status} (h : queue.execute (m := Id) command store = (failure, after))
    (hsteady : Steady queue.backwardsClock store.clock) {event : EventId} {entry : Event}
    (hentry : after.events[event]? = some entry) :
    ∃ old, store.events[event]? = some old ∧
      (Stamped queue.backwardsClock old → Stamped queue.backwardsClock entry) := by
  have hevents :=
    (Store.perform_eq { store with clock := tick store.clock } command.operation).2.2.2
  rw [execute_id] at h
  split at h
  · obtain rfl := (Prod.mk.inj h).2
    exact Store.stamped_resolve (by simp) hentry
  · simp only [] at h
    split at h
    · obtain rfl := (Prod.mk.inj h).2
      have hstatus : ∀ stamps,
          EventStatus.complete (Clock.stamps queue.backwardsClock store.clock) = .complete stamps →
          (stamps.elapsed? = none ↔ queue.backwardsClock = true) := by
        rintro _ ⟨⟩
        exact hsteady.elapsed?_stamps
      obtain ⟨old, hold, hstamped⟩ := Store.stamped_resolve hstatus hentry
      exact ⟨old, hevents ▸ hold, hstamped⟩
    · obtain rfl := (Prod.mk.inj h).2
      obtain ⟨old, hold, hstamped⟩ := Store.stamped_resolve (by simp) hentry
      exact ⟨old, hevents ▸ hold, hstamped⟩

namespace State

variable {state state' : State κ} {queue : QueueId} {backwards : Bool} {base : Nat}

/-- A queue that takes timestamps, and since there were so many events the stamps have been those of
    its device. -/
structure Timed (queue : QueueId) (backwards : Bool) (base : Nat) (state : State κ) : Prop where
  steady : Steady backwards state.store.clock
  flags : ∃ q, state.queues[queue]? = some q ∧ q.profiling = true ∧ q.backwardsClock = backwards
  stamped : ∀ event entry, base ≤ event → state.store.events[event]? = some entry →
    Stamped backwards entry

/-- What does not run commands does not read the clock. -/
theorem clock_answer {request : Request handles} (hquiet : quiet request) (state : State κ) :
    (Host.answer (m := Id) request state).state.store.clock = state.store.clock := by
  cases request with
  | platforms | createContext | buildLog | waitEvents | profiling => rfl
  | createBuffer | createProgram | createKernel | setKernelArg =>
    simp only [Host.answer, createBuffer, createProgram, createKernel, setKernelArg]
    repeat' split
    all_goals rfl
  | buildProgram =>
    simp only [Host.answer, buildProgram]
    split
    · rfl
    · split <;> rfl
  | createQueue | enqueueWrite | enqueueKernel | enqueueRead | finish =>
    exact absurd hquiet Bool.false_ne_true

theorem Step.later {command : Command} {failure : Option Status}
    (h : Step queue state command failure state') : Later state.store.clock state'.store.clock := by
  obtain ⟨-, -, hexecute⟩ := h
  rename_i q rest store
  exact q.execute_later hexecute

theorem Steps.later {log : List (Command × Option Status)} (h : Steps queue state log state') :
    Later state.store.clock state'.store.clock := by
  induction h with
  | refl => exact .refl _
  | step hstep _ ih => exact hstep.later.trans ih

theorem drive_later (state : State κ) (queue : QueueId) (target : Option EventId) :
    Later state.store.clock (state.drive (m := Id) queue target).2.store.clock := by
  rcases Nat.lt_or_ge queue state.queues.size with hqueue | hqueue
  · obtain ⟨log, hsteps, -⟩ := drive_steps hqueue rfl
    exact hsteps.later
  · rw [drive_of_size_le hqueue]
    exact .refl _

/-- Whatever is asked, the clock has only been read. -/
theorem answer_later (request : Request handles) (state : State κ) :
    Later state.store.clock (Host.answer (m := Id) request state).state.store.clock := by
  cases hquiet : quiet request with
  | true => exact clock_answer hquiet state ▸ .refl _
  | false =>
    cases request with
    | createQueue context device profiling =>
      change Later _ (state.createQueue context device profiling).2.store.clock
      rw [createQueue]
      split
      · exact .refl _
      · split <;> exact .refl _
    | enqueueWrite queue buffer blocking data wait =>
      change Later _
        (state.enqueueWrite (m := Id) queue buffer blocking data wait).2.store.clock
      rw [enqueueWrite_snd]
      split
      · exact .refl _
      · split
        · exact drive_later (state.submit queue _ wait).2 queue _
        · exact .refl _
    | enqueueKernel queue kernel size wait =>
      change Later _ (state.enqueueKernel queue kernel size wait).2.store.clock
      rw [enqueueKernel_eq]
      split <;> exact .refl _
    | enqueueRead queue buffer blocking out wait =>
      change Later _ (state.enqueueRead (m := Id) queue buffer out wait).2.store.clock
      rw [enqueueRead_snd]
      split
      · exact .refl _
      · exact drive_later (state.submit queue _ wait).2 queue _
    | finish queue => exact drive_later state queue none
    | _ => exact absurd hquiet.symm Bool.false_ne_true

namespace Timed

theorem of_same (h : Timed queue backwards base state) (hqueues : state'.queues = state.queues)
    (hevents : state'.store.events = state.store.events)
    (hclock : state'.store.clock = state.store.clock) : Timed queue backwards base state' :=
  ⟨hclock ▸ h.steady, hqueues ▸ h.flags, hevents ▸ h.stamped⟩

theorem submit (h : Timed queue backwards base state) (operation : Operation)
    (wait : List EventId) :
    Timed queue backwards base (state.submit queue operation wait).2 := by
  obtain ⟨q, hq, hprofiling, hbackwards⟩ := h.flags
  let command : Command := ⟨operation, wait, state.store.events.size⟩
  refine ⟨h.steady, ⟨{ q with pending := q.pending ++ [command] }, ?_, hprofiling, hbackwards⟩, ?_⟩
  · simp only [State.submit, Array.getElem?_modify, if_true, hq]
    rfl
  · intro event entry hle hentry
    simp only [State.submit, Array.getElem?_push] at hentry
    split at hentry
    · obtain rfl := Option.some.inj hentry
      exact ⟨by simp [takesStamps, hq, hprofiling], by simp⟩
    · exact h.stamped event entry hle hentry

theorem step {command : Command} {failure : Option Status}
    (h : Timed queue backwards base state) (hstep : Step queue state command failure state') :
    Timed queue backwards base state' := by
  obtain ⟨hq, hnext, hexecute⟩ := hstep
  rename_i q rest store
  obtain ⟨q', hq', hprofiling, hbackwards⟩ := h.flags
  obtain rfl := Option.some.inj (hq.symm.trans hq')
  obtain ⟨before, after, -, rfl, -⟩ := Queue.next?_eq_some hnext
  refine ⟨h.steady.later (q.execute_later hexecute),
    ⟨{ q with pending := before ++ after }, ?_, hprofiling, hbackwards⟩, ?_⟩
  · exact Array.getElem?_setIfInBounds_self_of_lt (Array.getElem?_eq_some_iff.1 hq).1
  · intro event entry hle hentry
    obtain ⟨old, hold, hstamp⟩ := q.execute_stamped hexecute (hbackwards ▸ h.steady) hentry
    rw [hbackwards] at hstamp
    exact hstamp (h.stamped event old hle hold)

theorem steps {log : List (Command × Option Status)} (h : Timed queue backwards base state)
    (hsteps : Steps queue state log state') : Timed queue backwards base state' := by
  induction hsteps with
  | refl => exact h
  | step hstep _ ih => exact ih (h.step hstep)

/-- An event that has completed has stamps, with a duration or without. -/
theorem profiling (h : Timed queue backwards base state) {event : EventId} (hle : base ≤ event)
    (hcomplete : ∃ stamps, state.store.status event = .complete stamps) :
    ∃ stamps, state.profiling event = .ok stamps ∧ (stamps.elapsed? = none ↔ backwards = true) := by
  obtain ⟨stamps, hstatus⟩ := hcomplete
  rw [Store.status] at hstatus
  cases hentry : state.store.events[event]? with
  | none =>
    rw [hentry] at hstatus
    cases hstatus
  | some entry =>
    rw [hentry] at hstatus
    obtain ⟨hprofiling, helapsed⟩ := h.stamped event entry hle hentry
    refine ⟨stamps, ?_, helapsed stamps hstatus⟩
    obtain ⟨kind, timed, status, fetched⟩ := entry
    obtain rfl : timed = true := hprofiling
    obtain rfl : status = .complete stamps := hstatus
    rw [State.profiling, hentry]

end Timed

end State

end Host

end Offload
