import Offload.Proofs.Host.Settled

/-!
# Commands in flight

A caller knows the events of the commands that it has submitted to a queue. The commands *in flight*
are those of them that are still pending; `State.InFlight` says that since there were so many events
no other commands have been submitted, and that the queue is alone. Once all events that the caller
knows have resolved, so have all that there have been since (`State.SettledSince`).
-/

namespace Offload.Host.State

variable {κ : Type} {state state' : State κ} {queue : QueueId} {base : Nat}
  {events : List EventId} {operation : Operation} {wait : List EventId}

/-- What has been pending since there were so many events belongs to a queue that is alone, and to
    events from a list. -/
structure InFlight (queue : QueueId) (base : Nat) (events : List EventId) (state : State κ) :
    Prop where
  alone : Alone queue state
  le_size : base ≤ state.store.events.size
  issued : ∀ event ∈ events, base ≤ event ∧ event < state.store.events.size
  pending : ∀ queue', ∀ c ∈ state.pending queue', base ≤ c.event →
    queue' = queue ∧ c.event ∈ events

/-- No command submitted since there were so many events is pending, and their events have
    resolved. -/
structure SettledSince (base : Nat) (state : State κ) : Prop where
  resolved : ∀ event, base ≤ event → event < state.store.events.size →
    state.store.isResolved event
  pending : ∀ queue, ∀ c ∈ state.pending queue, c.event < base

theorem Alone.inFlight (h : Alone queue state) :
    InFlight queue state.store.events.size [] state := by
  refine ⟨h, Nat.le_refl _, nofun, fun queue' c hc hle => ?_⟩
  exact absurd (h.wellFormed.unresolved queue' c hc).1 (Nat.not_lt.2 hle)

namespace InFlight

theorem of_same (h : InFlight queue base events state) (hqueues : state'.queues = state.queues)
    (hevents : state'.store.events = state.store.events) : InFlight queue base events state' := by
  have hpending := pending_congr hqueues
  obtain ⟨halone, hle, hissued, hflight⟩ := h
  refine ⟨halone.of_same hqueues hevents, hevents ▸ hle, hevents ▸ hissued, ?_⟩
  rw [hpending]
  exact hflight

/-- Settled is what has nothing in flight. -/
theorem settledSince (h : InFlight queue base events state)
    (hresolved : ∀ event ∈ events, state.store.isResolved event) : SettledSince base state := by
  have hpending : ∀ queue, ∀ c ∈ state.pending queue, c.event < base := by
    intro queue' c hc
    by_contra hle
    obtain ⟨rfl, hevent⟩ := h.pending queue' c hc (Nat.le_of_not_lt hle)
    have hqueued := (h.alone.wellFormed.unresolved queue' c hc).2
    exact Bool.false_ne_true (hqueued.symm.trans (hresolved _ hevent))
  refine ⟨fun event hle hlt => ?_, hpending⟩
  refine (h.alone.wellFormed.isResolved_iff hlt).2 fun queue' c hc => ?_
  rintro rfl
  exact Nat.not_lt.2 hle (hpending queue' c hc)

theorem settledSince_of_idle (h : InFlight queue base events state)
    (hidle : state.pending queue = []) : SettledSince base state := by
  refine h.settledSince fun event hevent => ?_
  obtain ⟨hle, hlt⟩ := h.issued event hevent
  refine (h.alone.wellFormed.isResolved_iff hlt).2 fun queue' c hc => ?_
  rintro rfl
  obtain ⟨rfl, -⟩ := h.pending queue' c hc hle
  rw [hidle] at hc
  exact nomatch hc

/-- Events that have resolved need not be remembered. -/
theorem of_resolved {event : EventId} (h : InFlight queue base (events ++ [event]) state)
    (hresolved : state.store.isResolved event) : InFlight queue base events state := by
  refine ⟨h.alone, h.le_size, fun other hother => h.issued other (List.mem_append_left _ hother),
    fun queue' c hc hle => ?_⟩
  obtain ⟨rfl, hevent⟩ := h.pending queue' c hc hle
  refine ⟨rfl, (List.mem_append.1 hevent).resolve_right fun hlast => ?_⟩
  obtain rfl := List.mem_singleton.1 hlast
  exact Bool.false_ne_true
    ((h.alone.wellFormed.unresolved queue' c hc).2.symm.trans hresolved)

/-! ### Submission and drives -/

theorem submit (h : InFlight queue base events state) (hwait : ∀ event ∈ wait, event ∈ events) :
    InFlight queue base (events ++ [state.store.events.size])
      (state.submit queue operation wait).2 := by
  have hsize : (state.submit queue operation wait).2.store.events.size =
      state.store.events.size + 1 := size_events_submit operation wait
  refine ⟨h.alone.submit fun event hevent => ?_, hsize ▸ Nat.le_succ_of_le h.le_size, ?_, ?_⟩
  · obtain ⟨hle, hlt⟩ := h.issued event (hwait event hevent)
    refine ⟨hlt, fun queue' hne other hother => ?_⟩
    rintro rfl
    exact hne (h.pending queue' other hother hle).1
  · rw [hsize]
    intro event hevent
    rcases List.mem_append.1 hevent with hevent | hevent
    · exact ⟨(h.issued event hevent).1, Nat.lt_succ_of_lt (h.issued event hevent).2⟩
    · obtain rfl := List.mem_singleton.1 hevent
      exact ⟨h.le_size, Nat.lt_succ_self _⟩
  · intro queue' c hc hle
    rw [pending_submit operation wait h.alone.lt_size] at hc
    split at hc
    · rename_i hqueue
      rcases List.mem_append.1 hc with hc | hc
      · exact ⟨hqueue, List.mem_append_left _ (h.pending queue c hc hle).2⟩
      · obtain rfl := List.mem_singleton.1 hc
        exact ⟨hqueue, List.mem_append_right _ (List.mem_singleton_self _)⟩
    · obtain ⟨hqueue, hevent⟩ := h.pending queue' c hc hle
      exact ⟨hqueue, List.mem_append_left _ hevent⟩

theorem of_ran {log : List (Command × Option Status)} (h : InFlight queue base events state)
    (hran : Ran queue state log state') : InFlight queue base events state' := by
  refine ⟨hran.alone h.alone, hran.size_events ▸ h.le_size, hran.size_events ▸ h.issued,
    fun queue' c hc hle => ?_⟩
  rcases eq_or_ne queue' queue with rfl | hne
  · exact h.pending queue' c (hran.sublist.subset hc) hle
  · exact h.pending queue' c (hran.others queue' hne ▸ hc) hle

variable [Clock Id κ]

theorem drive {target : Option EventId} {answer : Except Status Unit}
    (h : InFlight queue base events state)
    (hdrive : state.drive (m := Id) queue target = (answer, state')) :
    InFlight queue base events state' := by
  obtain ⟨log, -, hran, -⟩ := h.alone.wellFormed.drive h.alone.lt_size hdrive
  exact h.of_ran hran

/-! ### Calls -/

theorem setKernelArg {kernel : KernelId} {index : Nat} {arg : Argument BufferId}
    (h : InFlight queue base events state) :
    InFlight queue base events
      (Host.answer (m := Id) (.setKernelArg kernel index arg) state).state := by
  have hquiet : quiet (.setKernelArg kernel index arg : Request handles) := rfl
  have huntouched := untouched_answer hquiet state
  exact h.of_same huntouched.queues huntouched.events

theorem enqueueWrite {buffer : BufferId} {data : Array Int32} (h : InFlight queue base events state)
    (hwait : ∀ event ∈ wait, event ∈ events) :
    let result := state.enqueueWrite (m := Id) queue buffer false data wait
    InFlight queue base (events ++ result.1.toOption.toList) result.2 := by
  rw [enqueueWrite_eq]
  cases state.admitWrite queue buffer data wait with
  | error status => rwa [← List.append_nil events] at h
  | ok operation => exact h.submit hwait

omit [Clock Id κ] in
theorem enqueueKernel {kernel : KernelId} {size : UInt64} (h : InFlight queue base events state)
    (hwait : ∀ event ∈ wait, event ∈ events) :
    let result := state.enqueueKernel queue kernel size wait
    InFlight queue base (events ++ result.1.toOption.toList) result.2 := by
  rw [enqueueKernel_eq]
  cases state.admitKernel queue kernel size wait with
  | error status => rwa [← List.append_nil events] at h
  | ok operation => exact h.submit hwait

/-- A download that is refused has not been admitted, or its own command has failed. -/
theorem enqueueRead {buffer : BufferId} {out : Array Int32} (h : InFlight queue base events state)
    (hwait : ∀ event ∈ wait, event ∈ events) :
    let result := state.enqueueRead (m := Id) queue buffer out wait
    InFlight queue base (events ++ result.1.1.toOption.toList) result.2 := by
  cases hadmitted : state.admitRead queue buffer out.size wait with
  | error status =>
    rw [enqueueRead_eq, hadmitted]
    rwa [← List.append_nil events] at h
  | ok operation =>
    have hsubmit : InFlight queue base (events ++ [state.store.events.size])
        (state.submit queue operation wait).2 := h.submit hwait
    have hown : ⟨operation, wait, state.store.events.size⟩ ∈
        (state.submit queue operation wait).2.pending queue := by
      rw [pending_submit operation wait h.alone.lt_size, if_pos rfl]
      exact List.mem_append_right _ (List.mem_singleton_self _)
    rcases hdrive : (state.submit queue operation wait).2.drive (m := Id) queue
      (some state.store.events.size) with ⟨driven, after⟩
    obtain ⟨-, hsettles⟩ :=
      hsubmit.alone.wellFormed.await hsubmit.alone.lt_size hown hdrive
    obtain ⟨outcome, houtcome, -⟩ := hsettles (hsubmit.alone.not_blocked _)
    rw [enqueueRead_of_outcome hadmitted hdrive houtcome]
    have hafter := hsubmit.drive hdrive
    cases outcome with
    | ok fetched => exact hafter
    | error status =>
      have hresolved : after.store.isResolved state.store.events.size := by
        rw [Store.isResolved_eq, houtcome, Option.isSome_some]
      have hflight := hafter.of_resolved hresolved
      rwa [← List.append_nil events] at hflight

end InFlight

/-- What has been waited for with success has completed. -/
theorem isResolved_of_waitEvents (h : state.waitEvents events = .ok ()) :
    ∀ event ∈ events, state.store.isResolved event := by
  induction events with
  | nil => exact fun event hevent => absurd hevent List.not_mem_nil
  | cons first events ih =>
    rw [waitEvents] at h
    cases hstatus : state.store.status first with
    | complete stamps =>
      rw [hstatus] at h
      refine List.forall_mem_cons.2 ⟨?_, ih h⟩
      rw [Store.isResolved, hstatus]
    | failed status =>
      rw [hstatus] at h
      contradiction
    | queued =>
      rw [hstatus] at h
      contradiction

end Offload.Host.State
