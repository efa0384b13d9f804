import Mathlib.Algebra.Order.BigOperators.Group.List
import Mathlib.Algebra.Order.Ring.Nat
import Offload.Proofs.Host.Blocked
import Offload.Proofs.Host.Reordering

/-!
# Queues cannot deadlock

Wait-lists may lead from queue to queue and back, and in order a command holds up all those behind
it. Still the pending commands never wait for each other in a circle, because whatever holds a
command up was submitted before it: the *earliest* of all pending commands is never blocked
(`State.WellFormed.not_blocked_of_earliest`). So wherever a command is pending, there is a queue
that runs one when it is finished.

A *round* finishes every queue, in any order, and maybe some queues more than once. It runs at
least the command that is the earliest when it begins. So as many rounds as there are pending
commands are enough to run them all (`State.Reachable.finish_progresses`).
-/

namespace Offload.Host.State

variable {κ : Type} {state state' state'' : State κ} {queue : QueueId} {c : Command}

/-! ### The earliest command -/

/-- A pending command with none submitted before it still pending, on any queue. -/
def Earliest (state : State κ) (queue : QueueId) (c : Command) : Prop :=
  c ∈ state.pending queue ∧ ∀ queue', ∀ other ∈ state.pending queue', c.event ≤ other.event

theorem exists_earliest (hc : c ∈ state.pending queue) : ∃ queue c, Earliest state queue c := by
  induction hn : c.event using Nat.strongRecOn generalizing queue c with
  | ind n ih =>
    by_cases hearlier : ∃ queue', ∃ other ∈ state.pending queue', other.event < c.event
    · obtain ⟨queue', other, hother, hlt⟩ := hearlier
      exact ih _ (hn ▸ hlt) hother rfl
    · refine ⟨queue, c, hc, fun queue' other hother => Nat.le_of_not_lt fun hlt => ?_⟩
      exact hearlier ⟨queue', other, hother, hlt⟩

/-- All that could block a command was submitted before it. -/
theorem WellFormed.not_blocked_of_earliest (h : state.WellFormed)
    (hearliest : Earliest state queue c) : ¬Blocked state queue c := by
  obtain ⟨hc, hle⟩ := hearliest
  rintro (⟨-, hwait, -, hother⟩ | ⟨-, -, hwait, hother⟩ | ⟨-, -, hlt, hother⟩)
  · exact absurd (h.wait_lt queue c hc _ hwait) (Nat.not_lt_of_le (hle _ _ hother))
  · exact absurd (h.wait_lt queue c hc _ hwait) (Nat.not_lt_of_le (hle _ _ hother.mem))
  · exact absurd hlt (Nat.not_lt_of_le (hle _ _ hother.mem))

theorem lt_size_of_mem_pending (hc : c ∈ state.pending queue) : queue < state.queues.size := by
  by_contra hsize
  rw [pending, Array.getElem?_eq_none (Nat.le_of_not_lt hsize)] at hc
  exact List.not_mem_nil hc

/-! ### What finishing queues leaves -/

/-- The second state comes from the first by running commands: none is added to any queue, and no
    event is given out. -/
structure Remains (state state' : State κ) : Prop where
  wellFormed : state'.WellFormed
  sublist : ∀ queue, (state'.pending queue).Sublist (state.pending queue)
  size_queues : state'.queues.size = state.queues.size
  size_events : state'.store.events.size = state.store.events.size

theorem Remains.refl (h : state.WellFormed) : Remains state state :=
  ⟨h, fun _ => List.Sublist.refl _, rfl, rfl⟩

theorem Remains.trans (h : Remains state state') (h' : Remains state' state'') :
    Remains state state'' :=
  ⟨h'.wellFormed, fun queue => (h'.sublist queue).trans (h.sublist queue),
    h'.size_queues.trans h.size_queues, h'.size_events.trans h.size_events⟩

/-- The earliest command stays the earliest as long as it is pending. -/
theorem Remains.earliest (h : Remains state state') (hearliest : Earliest state queue c)
    (hc : c ∈ state'.pending queue) : Earliest state' queue c :=
  ⟨hc, fun queue' other hother => hearliest.2 queue' other ((h.sublist queue').subset hother)⟩

/-- How many commands are pending on all queues. -/
def backlog (state : State κ) : Nat :=
  ((List.range state.queues.size).map state.pendingCount).sum

theorem Remains.pendingCount_le (h : Remains state state') (queue : QueueId) :
    state'.pendingCount queue ≤ state.pendingCount queue := by
  rw [pendingCount_eq, pendingCount_eq]
  exact (h.sublist queue).length_le

/-- With a command less on some queue the backlog is smaller. -/
theorem Remains.backlog_lt (h : Remains state state') (hc : c ∈ state.pending queue)
    (hc' : c ∉ state'.pending queue) : state'.backlog < state.backlog := by
  rw [backlog, backlog, h.size_queues]
  refine List.sum_lt_sum _ _ (fun other _ => h.pendingCount_le other) ⟨queue, ?_, ?_⟩
  · exact List.mem_range.2 (lt_size_of_mem_pending hc)
  · rw [pendingCount_eq, pendingCount_eq]
    refine Nat.lt_of_le_of_ne (h.sublist queue).length_le fun hlength => ?_
    exact hc' ((h.sublist queue).eq_of_length hlength ▸ hc)

theorem backlog_eq_zero_iff : state.backlog = 0 ↔ ∀ queue, state.pending queue = [] := by
  rw [backlog, List.sum_eq_zero_iff, List.forall_mem_map]
  refine ⟨fun h queue => ?_, fun h queue _ => by rw [pendingCount_eq, h queue, List.length_nil]⟩
  refine List.eq_nil_iff_forall_not_mem.2 fun c hc => ?_
  have hzero := h queue (List.mem_range.2 (lt_size_of_mem_pending hc))
  rw [pendingCount_eq, List.length_eq_zero_iff] at hzero
  exact List.ne_nil_of_mem hc hzero

variable [Clock Id κ]

/-- Finishing a queue runs its commands, so far as they are not blocked. -/
theorem WellFormed.finish_remains (h : state.WellFormed) (queue : QueueId) :
    Remains state (Host.answer (m := Id) (.finish queue) state).state := by
  rcases Nat.lt_or_ge queue state.queues.size with hqueue | hqueue
  · rcases hdrive : state.drive (m := Id) queue none with ⟨answer, after⟩
    obtain ⟨log, -, hran, -⟩ := h.drive hqueue hdrive
    have hafter : (Host.answer (m := Id) (.finish queue) state).state = after.takeNotices.2 :=
      congrArg (fun driven => driven.2.takeNotices.2) hdrive
    rw [hafter]
    refine ⟨hran.wellFormed.of_same rfl rfl, fun other => ?_, hran.size_queues, hran.size_events⟩
    rcases eq_or_ne other queue with rfl | hne
    · exact hran.sublist
    · exact (hran.others other hne) ▸ List.Sublist.refl _
  · simp only [Host.answer, State.finish, drive_of_size_le hqueue]
    exact ⟨h.of_same rfl rfl, fun _ => List.Sublist.refl _, rfl, rfl⟩

/-- Finishing its queue runs the earliest command. -/
theorem WellFormed.finish_earliest (h : state.WellFormed) (hearliest : Earliest state queue c) :
    ∃ log, (∃ failure, (c, failure) ∈ log) ∧
      Steps queue state log (state.finish (m := Id) queue).2 ∧
      c ∉ (state.finish (m := Id) queue).2.pending queue := by
  rcases hdrive : state.drive (m := Id) queue none with ⟨answer, after⟩
  obtain ⟨log, hsteps, hran, hpending, -⟩ := h.drain (lt_size_of_mem_pending hearliest.1) hdrive
  have hafter : c ∉ after.pending queue := by
    intro hc
    rw [hpending] at hc
    exact h.not_blocked_of_earliest hearliest (by simpa using (List.mem_filter.1 hc).2)
  rw [State.finish, hdrive]
  refine ⟨log, ?_, hsteps, hafter⟩
  obtain ⟨entry, hentry, heq⟩ := List.mem_map.1
    ((List.mem_append.1 (hran.perm.subset hearliest.1)).resolve_right hafter)
  exact ⟨entry.2, heq ▸ hentry⟩

/-! ### Rounds -/

/-- The state after finishing queues one after the other. -/
def finishAll (state : State κ) (queues : List QueueId) : State κ :=
  state.serve (queues.map fun queue => .finish queue)

theorem finishAll_cons (queue : QueueId) (queues : List QueueId) :
    state.finishAll (queue :: queues) =
      (Host.answer (m := Id) (.finish queue) state).state.finishAll queues :=
  rfl

theorem finishAll_append (queues queues' : List QueueId) :
    state.finishAll (queues ++ queues') = (state.finishAll queues).finishAll queues' := by
  rw [finishAll, List.map_append, serve, List.foldl_append]
  rfl

theorem WellFormed.finishAll_remains (h : state.WellFormed) (queues : List QueueId) :
    Remains state (state.finishAll queues) := by
  induction queues generalizing state with
  | nil => exact .refl h
  | cons queue queues ih =>
    have hfinish := h.finish_remains queue
    exact hfinish.trans (ih hfinish.wellFormed)

/-- Finishing several queues runs the earliest command if its queue is among them. -/
theorem WellFormed.finishAll_earliest (h : state.WellFormed) (hearliest : Earliest state queue c)
    {queues : List QueueId} (hqueue : queue ∈ queues) :
    c ∉ (state.finishAll queues).pending queue := by
  obtain ⟨before, after, rfl⟩ := List.append_of_mem hqueue
  have hbefore := h.finishAll_remains before
  have hturn := hbefore.wellFormed.finish_remains queue
  have hafter := hturn.wellFormed.finishAll_remains after
  rw [finishAll_append, finishAll_cons]
  intro hc
  -- if it is still pending when its turn comes, it is still the earliest
  have hrun := (hafter.sublist queue).subset hc
  have hpending := (hturn.sublist queue).subset hrun
  obtain ⟨-, -, -, hfinished⟩ :=
    hbefore.wellFormed.finish_earliest (hbefore.earliest hearliest hpending)
  exact hfinished hrun

/-- A round finishes every queue. -/
def IsRound (state : State κ) (round : List QueueId) : Prop :=
  ∀ queue < state.queues.size, queue ∈ round

/-- A round makes the backlog smaller, unless there is none. -/
theorem WellFormed.backlog_round (h : state.WellFormed) {round : List QueueId}
    (hround : IsRound state round) :
    (state.finishAll round).backlog ≤ state.backlog - 1 := by
  have hremains := h.finishAll_remains round
  by_cases hidle : ∀ queue, state.pending queue = []
  · have hafter : (state.finishAll round).backlog = 0 := by
      refine backlog_eq_zero_iff.2 fun queue => List.sublist_nil.1 ?_
      exact hidle queue ▸ hremains.sublist queue
    exact hafter ▸ Nat.zero_le _
  · obtain ⟨queue, hqueue⟩ := not_forall.1 hidle
    obtain ⟨c, hc⟩ := List.exists_mem_of_ne_nil _ hqueue
    obtain ⟨queue, c, hearliest⟩ := exists_earliest hc
    have hrun := h.finishAll_earliest hearliest
      (hround queue (lt_size_of_mem_pending hearliest.1))
    exact Nat.le_sub_one_of_lt (hremains.backlog_lt hearliest.1 hrun)

/-- As many rounds as there are pending commands run all of them. -/
theorem WellFormed.backlog_rounds (h : state.WellFormed) {rounds : List (List QueueId)}
    (hrounds : ∀ round ∈ rounds, IsRound state round) :
    (state.finishAll rounds.flatten).backlog ≤ state.backlog - rounds.length := by
  induction rounds generalizing state with
  | nil => exact Nat.le_refl _
  | cons round rounds ih =>
    obtain ⟨hround, hrest⟩ := List.forall_mem_cons.1 hrounds
    have hremains := h.finishAll_remains round
    have hfirst := h.backlog_round hround
    have hlater := ih hremains.wellFormed fun round' hround' queue hqueue =>
      hrest round' hround' queue (hremains.size_queues ▸ hqueue)
    rw [List.flatten_cons, finishAll_append, List.length_cons]
    omega

/-- Queues do not deadlock: where a command is pending, finishing some queue runs one. So finishing
    all queues round after round, in any order within a round, runs everything in at most as many
    rounds as there are pending commands. -/
theorem Reachable.finish_progresses (h : Reachable state) :
    ((∃ queue, state.pending queue ≠ []) →
      ∃ queue < state.queues.size, ∃ log ≠ [],
        Steps queue state log (state.finish (m := Id) queue).2) ∧
    ∀ rounds : List (List QueueId), (∀ round ∈ rounds, IsRound state round) →
      state.backlog ≤ rounds.length →
      (∀ queue, (state.finishAll rounds.flatten).pending queue = []) ∧
      ∀ event < state.store.events.size,
        (state.finishAll rounds.flatten).store.isResolved event := by
  have hwf := h.wellFormed
  refine ⟨?_, fun rounds hrounds hbacklog => ?_⟩
  · rintro ⟨queue, hqueue⟩
    obtain ⟨c, hc⟩ := List.exists_mem_of_ne_nil _ hqueue
    obtain ⟨queue, c, hearliest⟩ := exists_earliest hc
    obtain ⟨log, ⟨failure, hmem⟩, hsteps, -⟩ := hwf.finish_earliest hearliest
    exact ⟨queue, lt_size_of_mem_pending hearliest.1, log, List.ne_nil_of_mem hmem, hsteps⟩
  · have hremains := hwf.finishAll_remains rounds.flatten
    have hzero : (state.finishAll rounds.flatten).backlog = 0 := by
      have hle := hwf.backlog_rounds hrounds
      omega
    have hempty := backlog_eq_zero_iff.1 hzero
    refine ⟨hempty, fun event hevent => ?_⟩
    rw [hremains.wellFormed.isResolved_iff (hremains.size_events ▸ hevent)]
    intro queue c hc
    exact absurd (hempty queue) (List.ne_nil_of_mem hc)

/-- Two queues whose commands wait for each other in turn, the first in order and the second out of
    order. Finishing the first one alone gets stuck, and so does the second after one command. -/
theorem finish_progresses_of_crossed_queues :
    let strict : Device := { name := "strict", kind := .cpu }
    let free : Device := { name := "free", kind := .cpu, order := .outOfOrder }
    let state : State Readings := (State.initial (.ofFunction fun _ => 0)).serve
      [.createQueue ⟨strict⟩ strict true, .createQueue ⟨free⟩ free true,
        .createBuffer ⟨strict⟩ 0 .input 1, .enqueueWrite 1 0 false #[1] [],
        .enqueueWrite 0 0 false #[2] [0], .enqueueWrite 1 0 false #[3] [1]]
    let after := state.finishAll [0, 1, 0, 1, 0, 1]
    state.Reachable ∧ (state.finish (m := Id) 0).1 = .error .invalidEventWaitList ∧
      (state.finish (m := Id) 1).1 = .error .invalidEventWaitList ∧
      (∃ queue < state.queues.size, ∃ log ≠ [],
        Steps queue state log (state.finish (m := Id) queue).2) ∧
      (∀ queue, after.pending queue = []) ∧ after.store.isResolved 2 := by
  intro strict free state after
  have hreachable : state.Reachable := (reachable_initial _).serve _
  have hsize : state.queues.size = 2 := by decide +kernel
  have hround : IsRound state [0, 1] := by
    intro queue hqueue
    rw [hsize] at hqueue
    simp only [List.mem_cons, List.not_mem_nil, or_false]
    omega
  have hbacklog : state.backlog = 3 := by decide +kernel
  have hpending : state.pending 0 ≠ [] := by
    have hcount : state.pendingCount 0 = 1 := by decide +kernel
    rw [pendingCount_eq] at hcount
    exact List.ne_nil_of_length_eq_add_one hcount
  obtain ⟨hprogress, hrounds⟩ := hreachable.finish_progresses
  obtain ⟨hempty, hresolved⟩ := hrounds [[0, 1], [0, 1], [0, 1]]
    (by simpa using hround) hbacklog.le
  exact ⟨hreachable, by decide +kernel, by decide +kernel, hprogress ⟨0, hpending⟩, hempty,
    hresolved 2 (by decide +kernel)⟩

end Offload.Host.State
