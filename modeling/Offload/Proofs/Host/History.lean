import Mathlib.Data.List.Nodup
import Offload.Proofs.Host.Changes
import Offload.Proofs.Host.Reordering

/-!
# Histories

A *history* of a state is the record of all that has happened to commands on the way there, from a
backend that has just been made (`State.History`): which commands were submitted, and which were
run. The state and its history account for each other (`State.Accounted`). Events number the
commands in the order of submission, what is pending on a queue is what was submitted to it and has
not run, in this order, and each command has run at most once, after everything that it waits for.
-/

namespace Offload.Host

/-! ### Records -/

/-- The command that is submitted, with its queue. -/
def Deed.submission? : Deed → Option (QueueId × Command)
  | submitted queue command => some (queue, command)
  | ran _ _ => none

/-- The event of the command that is run. -/
def Deed.event? : Deed → Option EventId
  | submitted _ _ => none
  | ran _ command => some command.event

/-- The commands submitted in a history, each with its queue, in the order of submission. -/
def submissions (deeds : List Deed) : List (QueueId × Command) :=
  deeds.filterMap Deed.submission?

/-- The events of the commands that were run, in the order in which they were. -/
def ranEvents (deeds : List Deed) : List EventId :=
  deeds.filterMap Deed.event?

/-- The commands submitted to a queue that were not run, in the order of submission. -/
def unfinished (deeds : List Deed) (queue : QueueId) : List Command :=
  ((submissions deeds).filter fun (target, c) => target = queue ∧ c.event ∉ ranEvents deeds).map
    Prod.snd

variable {deeds new : List Deed} {queue target : QueueId} {command : Command}

@[simp]
theorem submissions_append : submissions (deeds ++ new) = submissions deeds ++ submissions new :=
  List.filterMap_append

@[simp]
theorem ranEvents_append : ranEvents (deeds ++ new) = ranEvents deeds ++ ranEvents new :=
  List.filterMap_append

@[simp]
theorem submissions_submitted : submissions [.submitted queue command] = [(queue, command)] := rfl

@[simp]
theorem submissions_ran : submissions [.ran queue command] = [] := rfl

@[simp]
theorem ranEvents_submitted : ranEvents [.submitted queue command] = [] := rfl

@[simp]
theorem ranEvents_ran : ranEvents [.ran queue command] = [command.event] := rfl

theorem mem_unfinished {c : Command} :
    c ∈ unfinished deeds queue ↔ (queue, c) ∈ submissions deeds ∧ c.event ∉ ranEvents deeds := by
  simp only [unfinished, List.mem_map, List.mem_filter, decide_eq_true_eq, Prod.exists]
  constructor
  · rintro ⟨_, _, ⟨hmem, rfl, hran⟩, rfl⟩
    exact ⟨hmem, hran⟩
  · rintro ⟨hmem, hran⟩
    exact ⟨_, _, ⟨hmem, rfl, hran⟩, rfl⟩

theorem unfinished_submitted (h : command.event ∉ ranEvents deeds) :
    unfinished (deeds ++ [.submitted target command]) queue =
      unfinished deeds queue ++ if target = queue then [command] else [] := by
  simp only [unfinished, submissions_append, ranEvents_append, submissions_submitted,
    ranEvents_submitted, List.append_nil, List.filter_append, List.map_append]
  congr 1
  split <;> rename_i heq <;> simp [heq, h]

theorem unfinished_ran :
    unfinished (deeds ++ [.ran target command]) queue =
      (unfinished deeds queue).filter (·.event ≠ command.event) := by
  simp only [unfinished, submissions_append, ranEvents_append, submissions_ran, ranEvents_ran,
    List.append_nil, List.filter_map, List.filter_filter]
  congr 2
  funext ⟨queue', c⟩
  simp [and_comm, Bool.and_left_comm]

namespace State

variable {κ : Type} {state state' : State κ}

/-- A history accounts for a state. -/
structure Accounted (deeds : List Deed) (state : State κ) : Prop where
  wellFormed : state.WellFormed
  /-- Events number the submissions. -/
  numbered : (submissions deeds).map (·.2.event) = List.range state.store.events.size
  /-- The commands are as they were when they were submitted. -/
  fits : ∀ submission ∈ submissions deeds, submission.2.operation.Fits state.store.shape ∧
    ∀ event ∈ submission.2.wait, event < submission.2.event
  pending : ∀ queue, state.pending queue = unfinished deeds queue
  resolved : ∀ event, state.store.isResolved event ↔ event ∈ ranEvents deeds
  /-- No command runs twice. -/
  once : (ranEvents deeds).Nodup
  /-- A command runs on the queue to which it was submitted, after all that it waits for. -/
  inTime : ∀ before queue c after, deeds = before ++ .ran queue c :: after →
    (queue, c) ∈ submissions before ∧ ∀ event ∈ c.wait, event ∈ ranEvents before

/-! ### What moves add to the account -/

theorem Stepped.pending_eq {failure : Option Status}
    (hstep : Stepped queue state command failure state') (h : state.WellFormed) (q : QueueId) :
    state'.pending q = (state.pending q).filter (·.event ≠ command.event) := by
  have hkept : (state'.pending q).filter (·.event ≠ command.event) = state'.pending q :=
    List.filter_eq_self.2 fun c hc => by simpa using hstep.event_ne h hc
  rw [← hkept]
  rcases eq_or_ne q queue with rfl | hne
  · obtain ⟨before, after, hpending, hpending', -⟩ := hstep.pending
    rw [hpending, hpending', List.filter_append, List.filter_append,
      List.filter_cons_of_neg (by simp)]
  · rw [hstep.others q hne]

/-- The last deed of a record is the one looked at, or it comes after this. -/
theorem eq_concat_split {before after : List Deed} {last deed : Deed}
    (h : deeds ++ [last] = before ++ deed :: after) :
    before = deeds ∧ deed = last ∨ ∃ after', deeds = before ++ deed :: after' := by
  rcases List.eq_nil_or_concat after with rfl | ⟨after', other, rfl⟩
  · obtain ⟨hbefore, hlast⟩ := List.append_inj' h rfl
    exact .inl ⟨hbefore.symm, (List.cons.inj hlast).1.symm⟩
  · rw [List.concat_eq_append, ← List.cons_append, ← List.append_assoc] at h
    exact .inr ⟨after', (List.append_inj' h rfl).1⟩

namespace Accounted

theorem rest (h : Accounted deeds state) (hrest : Undisturbed state state') :
    Accounted deeds state' := by
  have hresolved : state'.store.isResolved = state.store.isResolved := by
    funext event
    simp only [Store.isResolved, Store.status, hrest.events]
  exact ⟨h.wellFormed.of_same hrest.pending hrest.events, hrest.events ▸ h.numbered,
    fun submission hmem => (h.fits submission hmem).imp_left (·.mono hrest.shape),
    hrest.pending ▸ h.pending, hresolved ▸ h.resolved, h.once, h.inTime⟩

variable {operation : Operation} {wait : List EventId}

theorem submit (h : Accounted deeds state) (hcheck : state.checkSubmission queue wait = .ok ())
    (hfits : operation.Fits state.store.shape) :
    Accounted (deeds ++ [.submitted queue ⟨operation, wait, state.store.events.size⟩])
      (state.submit queue operation wait).2 := by
  have ⟨hqueue, hwait⟩ := checkSubmission_eq_ok_iff.1 hcheck
  -- the event of the new command has not been given out before
  have hfresh : state.store.events.size ∉ ranEvents deeds := by
    rw [← h.resolved, isResolved_of_size_le (Nat.le_refl _)]
    exact Bool.false_ne_true
  refine ⟨h.wellFormed.submit_of_checked _ hcheck, ?_, ?_, fun target => ?_, fun event => ?_, ?_,
    fun before target c after hsplit => ?_⟩
  · rw [size_events_submit, List.range_succ, submissions_append, List.map_append, h.numbered]
    rfl
  · intro submission hmem
    rw [submissions_append] at hmem
    rcases List.mem_append.1 hmem with hmem | hmem
    · exact h.fits submission hmem
    · obtain rfl := List.mem_singleton.1 hmem
      exact ⟨hfits, hwait⟩
  · rw [unfinished_submitted hfresh, pending_submit operation wait hqueue, ← h.pending target]
    rcases eq_or_ne target queue with rfl | hne
    · simp
    · simp [hne, hne.symm]
  · rw [isResolved_submit, h.resolved, ranEvents_append, ranEvents_submitted, List.append_nil]
  · rw [ranEvents_append, ranEvents_submitted, List.append_nil]
    exact h.once
  · rcases eq_concat_split hsplit with ⟨-, heq⟩ | ⟨after', hsplit⟩
    · exact nomatch heq
    · exact h.inTime before target c after' hsplit

theorem run {failure : Option Status} (h : Accounted deeds state)
    (hstep : Stepped queue state command failure state') :
    Accounted (deeds ++ [.ran queue command]) state' := by
  have hexecuted := hstep.executes h.wellFormed
  have hmem := mem_unfinished.1 (h.pending queue ▸ hstep.mem)
  refine ⟨hstep.wellFormed h.wellFormed, ?_, ?_, fun target => ?_, fun event => ?_, ?_,
    fun before target c after hsplit => ?_⟩
  · rw [submissions_append, submissions_ran, List.append_nil, hexecuted.size_events]
    exact h.numbered
  · rw [submissions_append, submissions_ran, List.append_nil, hexecuted.shape]
    exact h.fits
  · rw [unfinished_ran, hstep.pending_eq h.wellFormed, h.pending target]
  · rw [hexecuted.isResolved_iff, h.resolved, ranEvents_append, ranEvents_ran, List.mem_append,
      List.mem_singleton, or_comm]
  · rw [ranEvents_append, ranEvents_ran, List.nodup_append_comm]
    exact List.nodup_cons.2 ⟨hmem.2, h.once⟩
  · rcases eq_concat_split hsplit with ⟨rfl, heq⟩ | ⟨after', hsplit⟩
    · cases heq
      exact ⟨hmem.1, fun event hevent =>
        (h.resolved event).1 (List.all_eq_true.1 hstep.ready event hevent)⟩
    · exact h.inTime before target c after' hsplit

end Accounted

/-! ### Histories of states -/

variable [Clock Id κ]

/-- The deeds are all that has happened to commands from the start to this state. -/
def History (deeds : List Deed) (state : State κ) : Prop :=
  ∃ clock platforms fault,
    Moves { State.initial clock platforms with enumerationFault := fault } deeds state

theorem accounted_initial {clock : κ} {platforms : List Platform} {fault : Option Status} :
    Accounted [] { State.initial clock platforms with enumerationFault := fault } := by
  refine ⟨Reachable.initial.wellFormed, rfl, nofun, fun queue => ?_, fun event => ?_,
    List.nodup_nil, ?_⟩
  · simp [State.pending, State.initial, unfinished, submissions]
  · simp [State.initial, Store.isResolved, Store.status, ranEvents]
  · simp

/-- What holds at the start, and after every move of a state whose history is known, holds of all
    histories. -/
@[elab_as_elim]
theorem History.induct {motive : List Deed → State κ → Prop}
    (initial : ∀ clock platforms fault,
      motive [] { State.initial clock platforms with enumerationFault := fault })
    (move : ∀ deeds new state state', History deeds state → motive deeds state →
      Move state new state' → motive (deeds ++ new) state')
    (h : History deeds state) : motive deeds state := by
  obtain ⟨clock, platforms, fault, hmoves⟩ := h
  induction hmoves with
  | refl => exact initial clock platforms fault
  | move hmoves hmove ih => exact move _ _ _ _ ⟨clock, platforms, fault, hmoves⟩ ih hmove

theorem History.accounted (h : History deeds state) : Accounted deeds state := by
  refine h.induct (fun _ _ _ => accounted_initial) fun deeds new state state' _ ih hmove => ?_
  cases hmove with
  | rest hrest => exact (List.append_nil _).symm ▸ ih.rest hrest
  | submit hcheck hfits => exact ih.submit hcheck hfits
  | run hstep => exact ih.run hstep.spec

theorem Reachable.exists_history (h : Reachable state) : ∃ deeds, History deeds state := by
  induction h with
  | initial => exact ⟨[], _, _, _, .refl⟩
  | answer request hreachable ih =>
    obtain ⟨deeds, clock, platforms, fault, hmoves⟩ := ih
    obtain ⟨new, hanswer⟩ := hreachable.known.answer_moves request
    exact ⟨_, _, _, _, hmoves.trans hanswer⟩

/-! ### States and their events -/

omit [Clock Id κ] in
/-- An event is queued exactly while its command is pending, once and on one queue. -/
theorem WellFormed.queued_iff (h : state.WellFormed) {event : EventId}
    (hlt : event < state.store.events.size) :
    state.store.status event = .queued ↔
      ∃ queue, ((state.pending queue).map (·.event)).count event = 1 ∧
        ∀ other ≠ queue, event ∉ (state.pending other).map (·.event) := by
  have hstatus : state.store.status event = .queued ↔ state.store.isResolved event = false := by
    rw [Store.isResolved]
    cases state.store.status event <;> simp
  rw [hstatus]
  constructor
  · intro hqueued
    obtain ⟨queue, c, hc, rfl⟩ := h.owned event hlt hqueued
    have hnodup : ((state.pending queue).map (·.event)).Nodup :=
      List.pairwise_map.2 ((h.sorted queue).imp Nat.ne_of_lt)
    refine ⟨queue, List.count_eq_one_of_mem hnodup (List.mem_map_of_mem hc),
      fun other hne hmem => ?_⟩
    obtain ⟨c', hc', heq⟩ := List.mem_map.1 hmem
    exact hne (h.unique other c' hc' queue c hc heq)
  · rintro ⟨queue, hcount, -⟩
    obtain ⟨c, hc, rfl⟩ := List.mem_map.1 (List.count_pos_iff.1 (hcount ▸ Nat.one_pos))
    exact (h.unresolved queue c hc).2

omit [Clock Id κ] in
/-- An earlier command of the same queue stands before. -/
theorem WellFormed.sublist_pair (h : state.WellFormed) {c other : Command}
    (hc : c ∈ state.pending queue) (hother : other ∈ state.pending queue)
    (hlt : other.event < c.event) : [other, c].Sublist (state.pending queue) := by
  obtain ⟨before, after, hpending⟩ := List.append_of_mem hc
  have hsorted := h.sorted queue
  rw [hpending] at hsorted hother ⊢
  have hafter := (List.pairwise_cons.1 (List.pairwise_append.1 hsorted).2.1).1
  rcases List.mem_append.1 hother with hother | hother
  · exact (List.singleton_sublist.2 hother).append ((List.nil_sublist after).cons_cons c)
  · rcases List.mem_cons.1 hother with rfl | hother
    · exact absurd hlt (Nat.lt_irrefl _)
    · exact absurd hlt (Nat.lt_asymm (hafter other hother))

omit [Clock Id κ] in
/-- What a pending command waits for has resolved, or is pending and was submitted before. -/
theorem WellFormed.waits_for (h : state.WellFormed) {c : Command} (hc : c ∈ state.pending queue)
    {event : EventId} (hevent : event ∈ c.wait) :
    state.store.isResolved event ∨
      ∃ queue', ∃ other ∈ state.pending queue', other.event = event ∧ event < c.event ∧
        (queue' = queue → [other, c].Sublist (state.pending queue)) := by
  have hlt := h.wait_lt queue c hc event hevent
  refine Decidable.or_iff_not_imp_left.2 fun hqueued => ?_
  obtain ⟨queue', other, hother, rfl⟩ := h.owned event
    (Nat.lt_trans hlt (h.unresolved queue c hc).1) (Bool.eq_false_iff.2 hqueued)
  exact ⟨queue', other, hother, rfl, hlt, fun heq => h.sublist_pair hc (heq ▸ hother) hlt⟩

theorem Reachable.events_serve (h : Reachable state) {event : EventId}
    (hresolved : state.store.isResolved event) (requests : List (Request handles)) :
    (state.serve requests).store.events[event]? = state.store.events[event]? := by
  induction requests generalizing state with
  | nil => rfl
  | cons request requests ih =>
    obtain ⟨deeds, hmoves⟩ := h.known.answer_moves request
    have hsame := (hmoves.events_eq h.wellFormed hresolved).2
    have hafter : (Host.answer (m := Id) request state).state.store.isResolved event := by
      rwa [Store.isResolved, Store.status, hsame]
    exact (ih (.answer request h) hafter).trans hsame

/-- Every state that requests lead to has a history, requests add to it move by move, and every
    history accounts for its state. An event is queued exactly while its command is pending, once
    and on one queue. Pending lists are in the order of submission, and what their commands wait for
    has resolved or was submitted before. An event that has resolved never changes, whatever is
    asked. -/
theorem Reachable.runs_each_once (h : Reachable state) :
    (∃ deeds, History deeds state) ∧
      (∀ request, ∃ new, Moves state new (Host.answer (m := Id) request state).state) ∧
      (∀ deeds, History deeds state → Accounted deeds state) ∧
      (∀ event < state.store.events.size, state.store.status event = .queued ↔
        ∃ queue, ((state.pending queue).map (·.event)).count event = 1 ∧
          ∀ other ≠ queue, event ∉ (state.pending other).map (·.event)) ∧
      (∀ queue, (state.pending queue).Pairwise (·.event < ·.event)) ∧
      (∀ queue, ∀ c ∈ state.pending queue, ∀ event ∈ c.wait, state.store.isResolved event ∨
        ∃ queue', ∃ other ∈ state.pending queue', other.event = event ∧ event < c.event ∧
          (queue' = queue → [other, c].Sublist (state.pending queue))) ∧
      ∀ event, state.store.isResolved event → ∀ requests : List (Request handles),
        (state.serve requests).store.events[event]? = state.store.events[event]? := by
  have hwf := h.wellFormed
  exact ⟨h.exists_history, h.known.answer_moves, fun deeds hhistory => hhistory.accounted,
    fun event hlt => hwf.queued_iff hlt, hwf.sorted,
    fun queue c hc event hevent => hwf.waits_for hc hevent,
    fun event hresolved requests => h.events_serve hresolved requests⟩

/-- A command that waits for one of another queue is pending once, on its own queue. -/
theorem runs_each_once_of_crossed_queues :
    let clock := Readings.ofFunction fun _ => 0
    let state : State Readings :=
      { store :=
          { clock, buffers := #[⟨.input, #[freshElement]⟩],
            events := #[⟨.write, true, .queued, #[]⟩, ⟨.write, true, .queued, #[]⟩] }
        queues := #[⟨.inOrder, true, false, [⟨.write 0 #[2], [0], 1⟩]⟩,
          ⟨.inOrder, true, false, [⟨.write 0 #[1], [], 0⟩]⟩] }
    state.Reachable ∧ (∃ deeds, History deeds state ∧ Accounted deeds state) ∧
      ∃ queue, ((state.pending queue).map (·.event)).count 1 = 1 ∧
        ∀ other ≠ queue, 1 ∉ (state.pending other).map (·.event) := by
  intro clock state
  have hreachable : state.Reachable := by
    let device : Device := { name := "", kind := .cpu }
    have hinitial : Reachable { initial clock with enumerationFault := none } := .initial
    have hqueues := hinitial.answer (.createQueue ⟨device⟩ device true)
      |>.answer (.createQueue ⟨device⟩ device true)
    have hbuffer := hqueues.answer (.createBuffer ⟨device⟩ 0 .input 1)
    exact hbuffer.answer (.enqueueWrite 1 0 false #[1] [])
      |>.answer (.enqueueWrite 0 0 false #[2] [0])
  obtain ⟨⟨deeds, hhistory⟩, -, haccounted, hqueued, -⟩ := hreachable.runs_each_once
  exact ⟨hreachable, ⟨deeds, hhistory, haccounted deeds hhistory⟩, (hqueued 1 Nat.one_lt_two).1 rfl⟩

end State

end Offload.Host
