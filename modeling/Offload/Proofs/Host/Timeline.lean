import Offload.Proofs.Host.Sessions
import Offload.Proofs.Host.Verdicts

/-!
# The timeline of a session

All queues of a backend read one clock, and each command that completes takes two readings in a row.
So the commands of a session have *moments* (`State.Dated`): the number of readings taken before
each of them. Moments grow in the order in which commands run, by two at least, so the times from
start to end of two commands do not overlap, on whatever queues they ran, and what waits for a
command starts after it.
-/

namespace Offload

namespace Clock

variable {κ : Type} [Clock Id κ] {clock : κ}

theorem Steady.reading_le {backwards : Bool} (h : Steady backwards clock) {n n' : Nat}
    (hle : n ≤ n') : reading (Clock.tick^[n] clock) ≤ reading (Clock.tick^[n'] clock) := by
  induction hle with
  | refl => exact UInt64.le_refl _
  | step _ ih => exact UInt64.le_trans ih (h.mono _)

theorem stamps_iterate (backwards : Bool) (clock : κ) (n : Nat) :
    stamps backwards (tick^[n] clock) =
      let stamps : Stamps := ⟨reading (tick^[n] clock), reading (tick^[n + 1] clock)⟩
      if backwards then stamps.reversed else stamps := by
  rw [stamps, Function.iterate_succ_apply']

/-- Of two commands the one that reads the clock later starts after the end of the other one,
    whichever way their devices count. -/
theorem Steady.stop_le_start {backwards backwards' : Bool} (h : Steady backwards' clock)
    {n n' : Nat} (hle : n + 2 ≤ n') :
    (stamps backwards (Clock.tick^[n] clock)).stop ≤
      (stamps backwards' (Clock.tick^[n'] clock)).start := by
  -- the end is one of the first two readings
  have hstop : (stamps backwards (Clock.tick^[n] clock)).stop ≤
      reading (Clock.tick^[n'] clock) := by
    rw [stamps_iterate]
    cases backwards with
    | false => exact h.reading_le (by omega)
    | true => exact h.reading_le (by omega)
  refine UInt64.le_trans hstop ?_
  rw [stamps_iterate]
  cases backwards' with
  | false => exact UInt64.le_refl _
  | true =>
    -- the start is one more than a later reading, which is not the last number
    have hmono := h.mono n'
    have hbounded := h.bounded rfl (n' + 1)
    generalize reading (Clock.tick^[n' + 1] clock) = last at hmono hbounded ⊢
    rw [UInt64.le_iff_toNat_le] at hmono
    rw [UInt64.lt_iff_toNat_lt] at hbounded
    simp only [if_true, Stamps.reversed]
    rw [UInt64.le_iff_toNat_le, UInt64.toNat_add]
    simp at hbounded ⊢
    omega

end Clock

namespace Host

open Clock Function

namespace Store

variable {κ : Type} {store : Store κ} {event : EventId}

/-- Whether an event takes timestamps, if there is such an event. -/
def timed (store : Store κ) (event : EventId) : Option Bool :=
  store.events[event]?.map (·.profiling)

theorem status_resolve (h : event < store.events.size) (status : EventStatus)
    (fetched : Array Int32) : (store.resolve event status fetched).status event = status := by
  simp only [resolve, Store.status, Array.getElem?_modify, if_true, Array.getElem?_eq_getElem h,
    Option.map_some]

theorem timed_resolve (target : EventId) (status : EventStatus) (fetched : Array Int32) :
    (store.resolve target status fetched).timed = store.timed := by
  funext event
  simp only [resolve, timed, Array.getElem?_modify]
  split
  · rw [Option.map_map]
    rfl
  · rfl

end Store

/-- All that a queue does to the clock and the timestamps when it runs a command: it reads the clock
    twice if the command completes, and whether events take timestamps stays. -/
theorem Queue.execute_reads {κ : Type} [Clock Id κ] (queue : Queue) {command : Command}
    {store after : Store κ} {failure : Option Status} (hevent : command.event < store.events.size)
    (h : queue.execute (m := Id) command store = (failure, after)) :
    after.timed = store.timed ∧ ∃ n, after.clock = tick^[n] store.clock ∧
      ∀ stamps, after.status command.event = .complete stamps →
        n = 2 ∧ stamps = Clock.stamps queue.backwardsClock store.clock := by
  have hevents :=
    (Store.perform_eq { store with clock := tick store.clock } command.operation).2.2.2
  have hsize := congrArg Array.size hevents
  have htimed : (Store.perform { store with clock := tick store.clock } command.operation).2.timed =
      store.timed := by
    funext event
    rw [Store.timed, hevents, Store.timed]
  rw [execute_id] at h
  split at h
  · obtain rfl := (Prod.mk.inj h).2
    refine ⟨Store.timed_resolve _ _ _, 0, rfl, fun stamps hstamps => ?_⟩
    rw [Store.status_resolve hevent] at hstamps
    exact nomatch hstamps
  · simp only [] at h
    split at h
    · obtain rfl := (Prod.mk.inj h).2
      refine ⟨(Store.timed_resolve _ _ _).trans htimed, 2, rfl, fun stamps hstamps => ?_⟩
      rw [Store.status_resolve (hsize.symm ▸ hevent)] at hstamps
      exact ⟨rfl, (EventStatus.complete.inj hstamps).symm⟩
    · obtain rfl := (Prod.mk.inj h).2
      refine ⟨(Store.timed_resolve _ _ _).trans htimed, 2, rfl, fun stamps hstamps => ?_⟩
      rw [Store.status_resolve (hsize.symm ▸ hevent)] at hstamps
      exact nomatch hstamps

namespace State

variable {κ : Type} {clock : κ} {state state' : State κ} {deeds : List Deed} {queue : QueueId}
  {command : Command} {moment : EventId → Nat}

theorem status_submit (operation : Operation) (wait : List EventId) :
    (state.submit queue operation wait).2.store.status = state.store.status := by
  funext event
  simp only [submit, Store.status, Array.getElem?_push]
  rcases eq_or_ne event state.store.events.size with rfl | hne
  · rw [if_pos rfl, Array.getElem?_eq_none (Nat.le_refl _)]
  · rw [if_neg hne]

theorem traits_submit (operation : Operation) (wait : List EventId) :
    (state.submit queue operation wait).2.traits = state.traits := by
  funext target
  simp only [State.traits, State.submit, Array.getElem?_modify]
  split
  · cases state.queues[target]? <;> rfl
  · rfl

/-- The command of an event has completed. -/
def Completed (state : State κ) (event : EventId) : Prop :=
  ∃ stamps, state.store.status event = .complete stamps

theorem Completed.isResolved {event : EventId} (h : state.Completed event) :
    state.store.isResolved event := by
  obtain ⟨stamps, hstatus⟩ := h
  rw [Store.isResolved, hstatus]

/-! ### Queues and their events -/

/-- Every command was submitted to a queue that there is, and its event takes timestamps if the
    queue does. -/
def Labelled (deeds : List Deed) (state : State κ) : Prop :=
  ∀ submission ∈ submissions deeds, ∃ profiling backwards,
    state.traits submission.1 = some (profiling, backwards) ∧
      state.store.timed submission.2.event = some profiling

namespace Labelled

theorem of_same (h : Labelled deeds state) (htimed : state'.store.timed = state.store.timed)
    (htraits : ∀ queue found, state.traits queue = some found →
      state'.traits queue = some found) : Labelled deeds state' := by
  intro submission hmem
  obtain ⟨profiling, backwards, hqueue, hevent⟩ := h submission hmem
  exact ⟨profiling, backwards, htraits _ _ hqueue, htimed ▸ hevent⟩

theorem submit (h : Labelled deeds state) (operation : Operation) (wait : List EventId)
    (hqueue : queue < state.queues.size) :
    Labelled (deeds ++ [.submitted queue ⟨operation, wait, state.store.events.size⟩])
      (state.submit queue operation wait).2 := by
  intro submission hmem
  rw [traits_submit]
  rw [submissions_append] at hmem
  rcases List.mem_append.1 hmem with hmem | hmem
  · obtain ⟨profiling, backwards, hqueue, hevent⟩ := h submission hmem
    obtain ⟨entry, hentry, rfl⟩ := Option.map_eq_some_iff.1 hevent
    have hlt := (Array.getElem?_eq_some_iff.1 hentry).1
    refine ⟨_, backwards, hqueue, ?_⟩
    simp only [Store.timed, State.submit, Array.getElem?_push_lt hlt]
    rw [← Array.getElem?_eq_getElem hlt, hentry, Option.map_some]
  · obtain rfl := List.mem_singleton.1 hmem
    refine ⟨state.queues[queue].profiling, state.queues[queue].backwardsClock, ?_, ?_⟩
    · rw [State.traits, Array.getElem?_eq_getElem hqueue, Option.map_some]
    · simp [Store.timed, State.submit, takesStamps, Array.getElem?_eq_getElem hqueue]

end Labelled

variable [Clock Id κ]

theorem Step.reads {failure : Option Status} (h : Step queue state command failure state')
    (hwf : state.WellFormed) :
    state'.store.timed = state.store.timed ∧
      ∃ n, state'.store.clock = tick^[n] state.store.clock ∧
        ∀ profiling backwards stamps, state.traits queue = some (profiling, backwards) →
          state'.store.status command.event = .complete stamps →
          n = 2 ∧ stamps = Clock.stamps backwards state.store.clock := by
  have hevent := (hwf.unresolved _ _ h.spec.mem).1
  obtain ⟨hq, hnext, hexecute⟩ := h
  rename_i q rest store
  obtain ⟨htimed, n, hclock, hstamps⟩ := q.execute_reads hevent hexecute
  refine ⟨htimed, n, hclock, fun profiling backwards stamps htraits hcomplete => ?_⟩
  rw [State.traits, hq, Option.map_some] at htraits
  obtain ⟨rfl, rfl⟩ := Prod.mk.inj (Option.some.inj htraits)
  exact hstamps stamps hcomplete

theorem Session.labelled (h : Session clock deeds state) : Labelled deeds state := by
  refine h.induct (fun _ _ => nofun) fun deeds new state state' hsession ih hchange => ?_
  have htraits (queue : QueueId) (found : Bool × Bool) (hfound : state.traits queue = some found) :
      state'.traits queue = some found := hchange.traits hfound
  cases hchange with
  | rest hrest =>
    rw [List.append_nil]
    exact ih.of_same (funext fun event => by rw [Store.timed, hrest.events, Store.timed]) htraits
  | submit hcheck _ _ => exact ih.submit _ _ (checkSubmission_eq_ok_iff.1 hcheck).1
  | run hstep =>
    intro submission hmem
    rw [submissions_append, submissions_ran, List.append_nil] at hmem
    exact ih.of_same (hstep.reads hsession.history.accounted.wellFormed).1 htraits submission hmem

/-! ### Moments -/

/-- The commands that have completed took their stamps at these moments, all of them past, and at
    later moments the later they ran. -/
structure Dated (clock : κ) (moment : EventId → Nat) (deeds : List Deed) (state : State κ) :
    Prop where
  past : ∃ now, state.store.clock = tick^[now] clock ∧
    ∀ event, state.Completed event → moment event + 2 ≤ now
  stamps : ∀ queue c profiling backwards stamps, (queue, c) ∈ submissions deeds →
    state.traits queue = some (profiling, backwards) →
    state.store.status c.event = .complete stamps →
    stamps = Clock.stamps backwards (tick^[moment c.event] clock)
  order : (ranEvents deeds).Pairwise fun x y =>
    state.Completed x → state.Completed y → moment x + 2 ≤ moment y

namespace Dated

theorem of_same (h : Dated clock moment deeds state) (hlabelled : Labelled deeds state)
    (hclock : state'.store.clock = state.store.clock)
    (hstatus : state'.store.status = state.store.status)
    (htraits : ∀ queue found, state.traits queue = some found →
      state'.traits queue = some found) : Dated clock moment deeds state' := by
  have hcompleted : state'.Completed = state.Completed := by
    funext event
    rw [Completed, hstatus, Completed]
  refine ⟨hclock ▸ hcompleted ▸ h.past, ?_, hcompleted ▸ h.order⟩
  intro queue c profiling backwards stamps hmem hqueue hcomplete
  obtain ⟨profiling', backwards', hqueue', -⟩ := hlabelled _ hmem
  obtain ⟨rfl, rfl⟩ := Prod.mk.inj (Option.some.inj ((htraits _ _ hqueue').symm.trans hqueue))
  exact h.stamps queue c _ _ stamps hmem hqueue' (hstatus ▸ hcomplete)


/-- A queue that runs a command dates it by the readings taken so far. -/
theorem run {failure : Option Status} (h : Dated clock moment deeds state)
    (haccounted : Accounted deeds state) (hlabelled : Labelled deeds state)
    (hstep : Step queue state command failure state') :
    ∃ moment', Dated clock moment' (deeds ++ [.ran queue command]) state' := by
  obtain ⟨now, hnow, hpast⟩ := h.past
  obtain ⟨-, n, hclock, hreads⟩ := hstep.reads haccounted.wellFormed
  have hmem := mem_unfinished.1 (haccounted.pending queue ▸ hstep.spec.mem)
  obtain ⟨profiling, backwards, hqueue, -⟩ := hlabelled _ hmem.1
  have hstatus {event : EventId} (hne : event ≠ command.event) :
      state'.store.status event = state.store.status event := by
    rw [Store.status, Store.status, hstep.events_eq hne]
  have hcompleted {event : EventId} (hne : event ≠ command.event)
      (hcomplete : state'.Completed event) : state.Completed event :=
    hcomplete.imp fun stamps heq => (hstatus hne).symm.trans heq
  refine ⟨update moment command.event now, ⟨n + now, ?_, fun event hcomplete => ?_⟩, ?_, ?_⟩
  · rw [hclock, hnow, iterate_add_apply]
  · rcases eq_or_ne event command.event with rfl | hne
    · obtain ⟨stamps, heq⟩ := hcomplete
      obtain ⟨rfl, -⟩ := hreads _ _ _ hqueue heq
      rw [update_self]
      exact Nat.le_of_eq (Nat.add_comm now 2)
    · rw [update_of_ne hne]
      exact Nat.le_add_left_of_le (hpast event (hcompleted hne hcomplete))
  · intro target c profiling' backwards' stamps hsubmitted htarget hcomplete
    rw [submissions_append, submissions_ran, List.append_nil] at hsubmitted
    obtain ⟨_, _, htarget', -⟩ := hlabelled _ hsubmitted
    have hsame := ((Change.run hstep).traits htarget').symm.trans htarget
    obtain ⟨rfl, rfl⟩ := Prod.mk.inj (Option.some.inj hsame)
    by_cases heq : c.event = command.event
    · obtain ⟨rfl, rfl⟩ := Prod.mk.inj (haccounted.eq_of_event_eq hsubmitted hmem.1 heq)
      rw [update_self, ← hnow]
      exact (hreads _ _ _ htarget' hcomplete).2
    · rw [update_of_ne heq]
      exact h.stamps target c _ _ stamps hsubmitted htarget' (hstatus heq ▸ hcomplete)
  · have hne {event : EventId} (hevent : event ∈ ranEvents deeds) : event ≠ command.event :=
      fun heq => hmem.2 (heq ▸ hevent)
    rw [ranEvents_append, ranEvents_ran]
    refine List.pairwise_append.2 ⟨?_, List.pairwise_singleton _ _, ?_⟩
    · refine h.order.imp_of_mem fun {x y} hx hy hle hcomplete hcomplete' => ?_
      rw [update_of_ne (hne hx), update_of_ne (hne hy)]
      exact hle (hcompleted (hne hx) hcomplete) (hcompleted (hne hy) hcomplete')
    · intro x hx y hy hcomplete _
      obtain rfl := List.mem_singleton.1 hy
      rw [update_of_ne (hne hx), update_self]
      exact hpast x (hcompleted (hne hx) hcomplete)

end Dated

theorem Session.dated (h : Session clock deeds state) :
    ∃ moment, Dated clock moment deeds state := by
  refine h.induct (fun platforms fault => ?_) fun deeds new state state' hsession ih hchange => ?_
  · have hstatus (event : EventId) :
        (fresh clock platforms fault).store.status event = .queued := rfl
    refine ⟨fun _ => 0, ⟨0, rfl, ?_⟩, ?_, List.Pairwise.nil⟩
    · rintro event ⟨stamps, heq⟩
      cases (hstatus event).symm.trans heq
    · intro _ _ _ _ _ hmem
      exact absurd hmem List.not_mem_nil
  · obtain ⟨moment, ih⟩ := ih
    have hlabelled := hsession.labelled
    have htraits (queue : QueueId) (found : Bool × Bool)
        (hfound : state.traits queue = some found) : state'.traits queue = some found :=
      hchange.traits hfound
    cases hchange with
    | rest hrest =>
      have hstatus : state'.store.status = state.store.status := by
        funext event
        rw [Store.status, hrest.events, Store.status]
      rw [List.append_nil]
      exact ⟨moment, ih.of_same hlabelled hrest.clock hstatus htraits⟩
    | submit =>
      rename_i target operation wait _ _ _
      have hsame : Dated clock moment deeds (state.submit target operation wait).2 :=
        ih.of_same hlabelled rfl (status_submit operation wait) htraits
      refine ⟨moment, hsame.past, fun queue c profiling backwards stamps hmem => ?_, ?_⟩
      · rw [submissions_append] at hmem
        rcases List.mem_append.1 hmem with hmem | hmem
        · exact hsame.stamps queue c profiling backwards stamps hmem
        · -- the new command has not completed
          obtain ⟨rfl, rfl⟩ := Prod.mk.inj (List.mem_singleton.1 hmem)
          intro _ hcomplete
          rw [status_submit, Store.status, Array.getElem?_eq_none (Nat.le_refl _)] at hcomplete
          cases hcomplete
      · rw [ranEvents_append, ranEvents_submitted, List.append_nil]
        exact hsame.order
    | run hstep => exact ih.run hsession.history.accounted hlabelled hstep

/-! ### Stamps of a session -/

/-- Of two commands of a session the first one ran before the second. -/
def RanBefore (deeds : List Deed) (x y : EventId) : Prop :=
  [x, y].Sublist (ranEvents deeds)

omit [Clock Id κ] in
theorem ranBefore_or {x y : EventId} (hx : x ∈ ranEvents deeds) (hy : y ∈ ranEvents deeds)
    (hne : x ≠ y) : RanBefore deeds x y ∨ RanBefore deeds y x := by
  obtain ⟨before, after, hsplit⟩ := List.append_of_mem hx
  rw [RanBefore, RanBefore, hsplit]
  rw [hsplit, List.mem_append, List.mem_cons] at hy
  rcases hy with hy | rfl | hy
  · exact .inr ((List.singleton_sublist.2 hy).append ((List.nil_sublist after).cons_cons x))
  · exact absurd rfl hne
  · exact .inl (((List.singleton_sublist.2 hy).cons_cons x).trans (List.sublist_append_right _ _))

omit [Clock Id κ] in
/-- What a command waited for ran before it. -/
theorem Accounted.ranBefore (h : Accounted deeds state)
    (hmem : (queue, command) ∈ submissions deeds)
    (hresolved : state.store.isResolved command.event) {event : EventId}
    (hevent : event ∈ command.wait) : RanBefore deeds event command.event := by
  obtain ⟨before, after, hsplit, hwait⟩ := h.ran_split hmem hresolved
  have hlast : [command.event].Sublist (ranEvents (.ran queue command :: after)) :=
    (List.nil_sublist _).cons_cons _
  rw [RanBefore, hsplit, ranEvents_append]
  exact (List.singleton_sublist.2 (hwait event hevent)).append hlast

theorem Dated.le_of_ranBefore (h : Dated clock moment deeds state) {x y : EventId}
    (hbefore : RanBefore deeds x y) (hx : state.Completed x) (hy : state.Completed y) :
    moment x + 2 ≤ moment y :=
  List.rel_of_pairwise_cons (h.order.sublist hbefore) (List.mem_singleton_self y) hx hy

/-- A command of a session has completed with these stamps, on a queue of a device that counts
    forwards or backwards. -/
structure Finished (deeds : List Deed) (state : State κ) (backwards : Bool) (c : Command)
    (stamps : Stamps) : Prop where
  submitted : ∃ queue profiling, (queue, c) ∈ submissions deeds ∧
    state.traits queue = some (profiling, backwards)
  complete : state.store.status c.event = .complete stamps

omit [Clock Id κ] in
theorem profiling_eq_ok_iff {event : EventId} {stamps : Stamps} :
    state.profiling event = .ok stamps ↔
      state.store.timed event = some true ∧ state.store.status event = .complete stamps := by
  rw [profiling, Store.timed, Store.status]
  rcases state.store.events[event]? with _ | ⟨kind, _ | _, _ | _ | _, fetched⟩ <;> simp

variable {backwards backwards' : Bool} {c c' : Command} {stamps stamps' : Stamps}

namespace Finished

omit [Clock Id κ] in
theorem completed (h : Finished deeds state backwards c stamps) : state.Completed c.event :=
  ⟨stamps, h.complete⟩

theorem stamps_eq (h : Finished deeds state backwards c stamps)
    (hdated : Dated clock moment deeds state) :
    stamps = Clock.stamps backwards (tick^[moment c.event] clock) :=
  let ⟨queue, profiling, hmem, htraits⟩ := h.submitted
  hdated.stamps queue c profiling backwards stamps hmem htraits h.complete

theorem le_of_ranBefore (h : Finished deeds state backwards c stamps)
    (h' : Finished deeds state backwards' c' stamps') (hdated : Dated clock moment deeds state)
    (hsteady : Steady backwards' clock) (hbefore : RanBefore deeds c.event c'.event) :
    stamps.stop ≤ stamps'.start := by
  rw [h.stamps_eq hdated, h'.stamps_eq hdated]
  exact hsteady.stop_le_start (hdated.le_of_ranBefore hbefore h.completed h'.completed)

end Finished

/-- In a session with a clock whose readings never decrease, commands are stamped in the order in
    which they run. Of any two that completed on devices that count forwards, the one that ran first
    ended before the other one started; each of them started before it ended; and what waited for a
    command started after this had ended, on whatever queue. On a device that counts backwards a
    command ends before it starts, provided that no reading is the last number. The stamps of a
    command are handed out exactly if it has completed and its queue was made with timestamps. -/
theorem stamps_by_execution (clock : κ) (hsteady : Steady false clock) (platforms : List Platform)
    (fault : Option Status) :
    let start : State κ := fresh clock platforms fault
    (∀ requests, ∃ deeds, Changes start deeds (start.serve requests)) ∧
      (∀ before context device profiling after queue,
        ((start.serve before).createQueue context device profiling).1 = .ok queue →
        (start.serve (before ++ .createQueue context device profiling :: after)).traits queue =
          some (profiling, device.backwardsClock)) ∧
      ∀ deeds state, Changes start deeds state →
        (∀ event stamps, state.store.status event = .complete stamps →
          ∃ backwards c, c.event = event ∧ Finished deeds state backwards c stamps) ∧
        (∀ c c' stamps stamps', Finished deeds state false c stamps →
          Finished deeds state false c' stamps' → c.event ≠ c'.event →
          RanBefore deeds c.event c'.event ∧ stamps.stop ≤ stamps'.start ∨
            RanBefore deeds c'.event c.event ∧ stamps'.stop ≤ stamps.start) ∧
        (∀ c stamps, Finished deeds state false c stamps → stamps.start ≤ stamps.stop) ∧
        (∀ backwards backwards' c c' stamps stamps', Finished deeds state backwards c stamps →
          Finished deeds state backwards' c' stamps' → c.event ∈ c'.wait →
          Steady backwards' clock → stamps.stop ≤ stamps'.start) ∧
        (∀ c stamps, Finished deeds state true c stamps → Steady true clock →
          stamps.stop < stamps.start) ∧
        ∀ event stamps, state.profiling event = .ok stamps ↔
          state.store.status event = .complete stamps ∧
            ∃ queue c backwards, (queue, c) ∈ submissions deeds ∧ c.event = event ∧
              state.traits queue = some (true, backwards) := by
  intro start
  refine ⟨serve_fresh_changes clock platforms fault, fun before context device profiling after queue
    hmade => ?_, fun deeds state hchanges => ?_⟩
  · rw [serve_append]
    exact traits_serve ((reachable_fresh clock platforms fault).serve before) hmade after
  have hsession : Session clock deeds state := ⟨platforms, fault, hchanges⟩
  have haccounted := hsession.history.accounted
  have hlabelled := hsession.labelled
  obtain ⟨moment, hdated⟩ := hsession.dated
  have hran {backwards : Bool} {c : Command} {stamps : Stamps}
      (h : Finished deeds state backwards c stamps) : c.event ∈ ranEvents deeds :=
    (haccounted.resolved _).1 h.completed.isResolved
  refine ⟨fun event stamps hcomplete => ?_, fun c c' stamps stamps' h h' hne => ?_,
    fun c stamps h => ?_, fun backwards backwards' c c' stamps stamps' h h' hwait hsteady' => ?_,
    fun c stamps h hsteady' => ?_, fun event stamps => ?_⟩
  · obtain ⟨⟨queue, c⟩, hmem, rfl⟩ :=
      haccounted.exists_submission (Completed.isResolved ⟨stamps, hcomplete⟩)
    obtain ⟨profiling, backwards, htraits, -⟩ := hlabelled _ hmem
    exact ⟨backwards, c, rfl, ⟨queue, profiling, hmem, htraits⟩, hcomplete⟩
  · exact (ranBefore_or (hran h) (hran h') hne).imp
      (fun hbefore => ⟨hbefore, h.le_of_ranBefore h' hdated hsteady hbefore⟩)
      fun hbefore => ⟨hbefore, h'.le_of_ranBefore h hdated hsteady hbefore⟩
  · rw [h.stamps_eq hdated, stamps_iterate]
    exact hsteady.mono _
  · obtain ⟨queue, profiling, hmem, -⟩ := h'.submitted
    exact h.le_of_ranBefore h' hdated hsteady'
      (haccounted.ranBefore hmem h'.completed.isResolved hwait)
  · rw [h.stamps_eq hdated, ← Stamps.elapsed?_eq_none_iff]
    exact (hsteady'.later ⟨_, rfl⟩).elapsed?_stamps.2 rfl
  · rw [profiling_eq_ok_iff]
    constructor
    · rintro ⟨htimed, hcomplete⟩
      obtain ⟨⟨queue, c⟩, hmem, rfl⟩ :=
        haccounted.exists_submission (Completed.isResolved ⟨stamps, hcomplete⟩)
      obtain ⟨profiling, backwards, htraits, hevent⟩ := hlabelled _ hmem
      obtain rfl := Option.some.inj (hevent.symm.trans htimed)
      exact ⟨hcomplete, queue, c, backwards, hmem, rfl, htraits⟩
    · rintro ⟨hcomplete, queue, c, backwards, hmem, rfl, htraits⟩
      obtain ⟨profiling, backwards', htraits', hevent⟩ := hlabelled _ hmem
      obtain ⟨rfl, -⟩ := Prod.mk.inj (Option.some.inj (htraits'.symm.trans htraits))
      exact ⟨hevent, hcomplete⟩

/-- Two uploads on two queues, of which the second waits for the first. -/
theorem stamps_by_execution_of_crossed_queues :
    let clock := Readings.ofFunction fun n => UInt64.ofNat (min n 9)
    let device : Device := { name := "", kind := .cpu }
    let start : State Readings := fresh clock [] none
    let state := start.serve
      [.createQueue ⟨device⟩ device true, .createQueue ⟨device⟩ device true,
        .createBuffer ⟨device⟩ 0 .input 1, .enqueueWrite 0 0 false #[1] [],
        .enqueueWrite 1 0 false #[2] [0], .finish 0, .finish 1]
    Steady false clock ∧ state.store.status 0 = .complete ⟨0, 1⟩ ∧
      state.store.status 1 = .complete ⟨2, 3⟩ ∧ state.profiling 1 = .ok ⟨2, 3⟩ ∧
      ∃ deeds, Changes start deeds state ∧
        (RanBefore deeds 0 1 ∧ (1 : UInt64) ≤ 2 ∨ RanBefore deeds 1 0 ∧ (3 : UInt64) ≤ 0) := by
  intro clock device start state
  have hsteady : Steady false clock := by
    refine Readings.steady (fun n => ?_) nofun
    rw [UInt64.le_iff_toNat_le, UInt64.toNat_ofNat', UInt64.toNat_ofNat']
    omega
  have hfirst : state.store.status 0 = .complete ⟨0, 1⟩ := by decide +kernel
  have hsecond : state.store.status 1 = .complete ⟨2, 3⟩ := by decide +kernel
  have hprofiling : state.profiling 1 = .ok ⟨2, 3⟩ := by decide +kernel
  obtain ⟨hserve, -, hstamps⟩ := stamps_by_execution clock hsteady [] none
  obtain ⟨deeds, hchanges⟩ := hserve _
  obtain ⟨hfinished, hordered, -⟩ := hstamps deeds state hchanges
  -- both queues belong to a device that counts forwards
  have hforwards {backwards : Bool} {c : Command} {stamps : Stamps}
      (h : Finished deeds state backwards c stamps) : backwards = false := by
    obtain ⟨queue, profiling, -, htraits⟩ := h.submitted
    obtain ⟨q, hq, heq⟩ := Option.map_eq_some_iff.1 htraits
    have hall : ∀ q ∈ state.queues, q.backwardsClock = false := by decide +kernel
    exact (Prod.mk.inj heq).2.symm.trans (hall q (Array.mem_of_getElem? hq))
  obtain ⟨backwards, c, hevent, h⟩ := hfinished 0 _ hfirst
  obtain ⟨backwards', c', hevent', h'⟩ := hfinished 1 _ hsecond
  obtain rfl := hforwards h
  obtain rfl := hforwards h'
  have hdecided := hordered c c' _ _ h h' (by rw [hevent, hevent']; decide)
  rw [hevent, hevent'] at hdecided
  exact ⟨hsteady, hfirst, hsecond, hprofiling, deeds, hchanges, hdecided⟩

end State

end Host

end Offload
