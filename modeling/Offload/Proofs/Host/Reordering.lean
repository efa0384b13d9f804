import Offload.Proofs.Host.Settled
import Offload.Proofs.Recording

/-!
# Queues in order and out of order

A sequence of requests on one queue is *free of races* if each command that is submitted waits,
maybe through others, for every command that is still pending then and conflicts with it
(`State.RaceFree`). Then it does not matter whether the queue runs in order or out of order
(`State.Reachable.exchanges_reorder`): the answers to all requests are the same, except that calls
which finish the queue may find another failure first, and once the queue has been finished all
events have the same outcomes and all buffers the same elements.

The proof compares what the two queues come to (`State.Alike`): submitting a command adds it to
both, and however far one of them is driven meanwhile, it comes to the same.
-/

namespace Offload.Host.State

open Relation

variable {κ : Type} {start state state' : State κ} {queue : QueueId}

/-! ### Requests on one queue -/

/-- A request that concerns only this queue, and waits for no command that another queue still has
    pending. -/
def OnQueue (state : State κ) (queue : QueueId) : Request handles → Prop
  | .enqueueWrite target _ _ _ wait | .enqueueKernel target _ _ wait
  | .enqueueRead target _ _ _ wait =>
    target = queue ∧ ∀ event ∈ wait, ∀ queue' ≠ queue, ∀ other ∈ state.pending queue',
      other.event ≠ event
  | .setKernelArg _ _ _ => True
  | .finish target => target = queue
  | _ => False

/-- The command that a request submits, if it is one that does and is admitted. -/
def submission? (state : State κ) : Request handles → Option Command
  | .enqueueWrite queue buffer _ data wait =>
    (state.admitWrite queue buffer data wait).toOption.map (⟨·, wait, state.store.events.size⟩)
  | .enqueueKernel queue kernel size wait =>
    (state.admitKernel queue kernel size wait).toOption.map (⟨·, wait, state.store.events.size⟩)
  | .enqueueRead queue buffer _ out wait =>
    (state.admitRead queue buffer out.size wait).toOption.map (⟨·, wait, state.store.events.size⟩)
  | _ => none

/-- A command waits, maybe through others, for all pending commands with which it conflicts. -/
def AwaitsConflicts (queue : QueueId) (state : State κ) (own : Command) : Prop :=
  ∀ other ∈ state.pending queue, own.operation.Conflicts other.operation →
    TransGen (WaitsAmong (state.pending queue)) own other

/-- A queue with another order. -/
def reorder (state : State κ) (queue : QueueId) (order : QueueOrder) : State κ :=
  { state with queues := state.queues.modify queue fun q => { q with order } }

/-- The request finishes a queue. -/
def finishes : Request handles → Bool
  | .finish _ => true
  | _ => false

variable [Clock Id κ]

/-- All commands that requests submit, one after the other, wait for those with which they
    conflict. -/
def RaceFree (queue : QueueId) : State κ → List (Request handles) → Prop
  | _, [] => True
  | state, request :: requests =>
    (∀ own ∈ state.submission? request, AwaitsConflicts queue state own) ∧
      RaceFree queue (Host.answer (m := Id) request state).state requests

/-- Requests with their answers, one after the other. -/
def exchanges : State κ → List (Request handles) → List (Exchange handles)
  | _, [] => []
  | state, request :: requests =>
    let reply := Host.answer (m := Id) request state
    ⟨request, reply.answer⟩ :: exchanges reply.state requests

/-- The state after requests. -/
def serve (state : State κ) (requests : List (Request handles)) : State κ :=
  requests.foldl (fun state request => (Host.answer (m := Id) request state).state) state

theorem Reachable.serve (h : Reachable state) (requests : List (Request handles)) :
    Reachable (state.serve requests) := by
  induction requests generalizing state with
  | nil => exact h
  | cons request _ ih => exact ih (.answer request h)

/-! ### One queue -/

omit [Clock Id κ] in
theorem Alike.checkSubmission (h : Alike queue state state') (target : QueueId)
    (wait : List EventId) :
    state.checkSubmission target wait = state'.checkSubmission target wait := by
  rw [State.checkSubmission, State.checkSubmission, h.size_queues, h.size_events]

/-- A queue that is alone and ordered, amid other queues as they were at the start. -/
structure Serving (start : State κ) (queue : QueueId) (state : State κ) : Prop where
  alone : Alone queue state
  ordered : Ordered queue state
  order : state.order? = start.order?
  others : ∀ other ≠ queue, state.pending other = start.pending other

omit [Clock Id κ] in
theorem Serving.of_same (h : Serving start queue state) (hqueues : state'.queues = state.queues)
    (hevents : state'.store.events = state.store.events) : Serving start queue state' := by
  have hpending := pending_congr hqueues
  have horder : state'.order? = state.order? := by
    funext other
    rw [order?, order?, hqueues]
  refine ⟨h.alone.of_same hqueues hevents, ?_, horder.trans h.order, ?_⟩
  · rw [Ordered, horder, hpending]
    exact h.ordered
  · rw [hpending]
    exact h.others

omit [Clock Id κ] in
theorem Serving.setKernelArg (h : Serving start queue state) (kernel : KernelId) (index : Nat)
    (arg : Argument BufferId) :
    Serving start queue (state.setKernelArg kernel index arg).2 := by
  rw [State.setKernelArg]
  split
  · exact h
  · split
    · exact h
    · split
      · exact h.of_same rfl rfl
      · exact h

/-- A command that may be submitted: it waits for no command that another queue had pending at the
    start and, unless the queue is in order, for all commands with which it conflicts. -/
def Fits (start : State κ) (queue : QueueId) (state : State κ) (own : Command) : Prop :=
  (∀ event ∈ own.wait, ∀ queue' ≠ queue, ∀ other ∈ start.pending queue', other.event ≠ event) ∧
    (start.order? queue = some .inOrder ∨ AwaitsConflicts queue state own)

variable {operation : Operation} {wait : List EventId}

omit [Clock Id κ] in
theorem Serving.submit (h : Serving start queue state)
    (hcheck : state.checkSubmission queue wait = .ok ())
    (hfits : Fits start queue state ⟨operation, wait, state.store.events.size⟩) :
    Serving start queue (state.submit queue operation wait).2 := by
  have hqueue := h.alone.lt_size
  obtain ⟨hwait, hrace⟩ := hfits
  refine ⟨h.alone.submit fun event hevent =>
      ⟨(checkSubmission_eq_ok_iff.1 hcheck).2 event hevent, fun queue' hne => ?_⟩,
    h.ordered.submit h.alone.wellFormed hqueue (hrace.imp_left fun hin => h.order ▸ hin),
    order?_submit.trans h.order, fun other hne => ?_⟩
  · rw [h.others queue' hne]
    exact hwait event hevent queue' hne
  · rw [pending_submit operation wait hqueue, if_neg hne]
    exact h.others other hne

theorem Serving.drive (h : Serving start queue state) (target : Option EventId) :
    Serving start queue (state.drive (m := Id) queue target).2 ∧
      Alike queue state (state.drive (m := Id) queue target).2 := by
  obtain ⟨halone, hordered, halike, horder, hothers⟩ := h.alone.drive h.ordered target
  exact ⟨⟨halone, hordered, horder.trans h.order,
    fun other hne => (hothers other hne).trans (h.others other hne)⟩, halike⟩

/-! ### Two queues that come to the same -/

/-- Two queues that come to the same, each amid other queues as they were at its start. -/
structure Paired (start start' : State κ) (queue : QueueId) (state state' : State κ) : Prop where
  left : Serving start queue state
  right : Serving start' queue state'
  alike : Alike queue state state'

variable {start' : State κ}

omit [Clock Id κ] in
theorem Paired.takeNotices (h : Paired start start' queue state state') :
    Paired start start' queue state.takeNotices.2 state'.takeNotices.2 :=
  ⟨h.left.of_same rfl rfl, h.right.of_same rfl rfl,
    ⟨h.alike.settled, h.alike.shape, h.alike.kernels, h.alike.size_events, h.alike.size_queues⟩⟩

omit [Clock Id κ] in
theorem Paired.submit (h : Paired start start' queue state state')
    (hcheck : state.checkSubmission queue wait = .ok ())
    (hfits : Fits start queue state ⟨operation, wait, state.store.events.size⟩)
    (hfits' : Fits start' queue state' ⟨operation, wait, state'.store.events.size⟩) :
    Paired start start' queue (state.submit queue operation wait).2
      (state'.submit queue operation wait).2 :=
  ⟨h.left.submit hcheck hfits, h.right.submit (h.alike.checkSubmission queue wait ▸ hcheck) hfits',
    h.alike.submit h.left.alone.lt_size⟩

theorem Paired.drive (h : Paired start start' queue state state')
    (target target' : Option EventId) :
    Paired start start' queue (state.drive (m := Id) queue target).2
      (state'.drive (m := Id) queue target').2 := by
  obtain ⟨hleft, halike⟩ := h.left.drive target
  obtain ⟨hright, halike'⟩ := h.right.drive target'
  exact ⟨hleft, hright, halike.symm.trans (h.alike.trans halike')⟩

/-- Submitting the same command to both queues and waiting for it gives the same outcome. -/
theorem Paired.await (h : Paired start start' queue state state')
    (hcheck : state.checkSubmission queue wait = .ok ())
    (hfits : Fits start queue state ⟨operation, wait, state.store.events.size⟩)
    (hfits' : Fits start' queue state' ⟨operation, wait, state'.store.events.size⟩) :
    ∃ outcome driven driven' after after',
      (state.submit queue operation wait).2.drive (m := Id) queue
        (some state.store.events.size) = (driven, after) ∧
      (state'.submit queue operation wait).2.drive (m := Id) queue
        (some state'.store.events.size) = (driven', after') ∧
      after.store.outcome? state.store.events.size = some outcome ∧
      after'.store.outcome? state'.store.events.size = some outcome ∧
      Paired start start' queue after after' := by
  have hsubmit := h.submit hcheck hfits hfits'
  -- each of the two commands resolves, with the outcome that it has in the settled ledger
  have hmem {u : State κ} (hqueue : queue < u.queues.size) :
      ⟨operation, wait, u.store.events.size⟩ ∈ (u.submit queue operation wait).2.pending queue := by
    simp [pending_submit operation wait hqueue]
  obtain ⟨outcome, hsettled, houtcome⟩ :=
    hsubmit.left.alone.await hsubmit.left.ordered (hmem h.left.alone.lt_size)
  obtain ⟨outcome', hsettled', houtcome'⟩ :=
    hsubmit.right.alone.await hsubmit.right.ordered (hmem h.right.alone.lt_size)
  obtain rfl : outcome = outcome' := by
    rw [hsubmit.alike.settled] at hsettled
    exact Option.some.inj (hsettled.symm.trans (h.alike.size_events ▸ hsettled'))
  exact ⟨outcome, _, _, _, _, rfl, rfl, houtcome, houtcome', hsubmit.drive _ _⟩

/-! ### Requests to both queues -/

omit [Clock Id κ] in
theorem Alike.admitWrite (h : Alike queue state state') (buffer : BufferId) (data : Array Int32)
    (wait : List EventId) :
    state.admitWrite queue buffer data wait = state'.admitWrite queue buffer data wait := by
  rw [admitWrite_eq, admitWrite_eq, h.checkSubmission, h.shape]

omit [Clock Id κ] in
theorem Alike.admitKernel (h : Alike queue state state') (kernel : KernelId) (size : UInt64)
    (wait : List EventId) :
    state.admitKernel queue kernel size wait = state'.admitKernel queue kernel size wait := by
  rw [admitKernel_eq, admitKernel_eq, h.checkSubmission, h.kernels, h.shape]

omit [Clock Id κ] in
theorem Alike.admitRead (h : Alike queue state state') (buffer : BufferId) (count : Nat)
    (wait : List EventId) :
    state.admitRead queue buffer count wait = state'.admitRead queue buffer count wait := by
  rw [admitRead_eq, admitRead_eq, h.checkSubmission, h.shape]

omit [Clock Id κ] in
theorem Paired.setKernelArg (h : Paired start start' queue state state') (kernel : KernelId)
    (index : Nat) (arg : Argument BufferId) :
    (state.setKernelArg kernel index arg).1 = (state'.setKernelArg kernel index arg).1 ∧
      Paired start start' queue (state.setKernelArg kernel index arg).2
        (state'.setKernelArg kernel index arg).2 := by
  have hleft := h.left.setKernelArg kernel index arg
  have hright := h.right.setKernelArg kernel index arg
  have hkernels := h.alike.kernels
  have hbuffer : state'.hasBuffer arg = state.hasBuffer arg := by
    rw [hasBuffer_eq, hasBuffer_eq, h.alike.shape]
  simp only [State.setKernelArg, ← hkernels, hbuffer] at hleft hright ⊢
  split
  · exact ⟨rfl, h⟩
  · rename_i old hold
    simp only [hold] at hleft hright
    split
    · exact ⟨rfl, h⟩
    · rename_i new hnew
      simp only [hnew] at hleft hright
      split
      · rename_i hhas
        simp only [hhas, if_true] at hleft hright
        exact ⟨rfl, hleft, hright, h.alike.settled, h.alike.shape, rfl, h.alike.size_events,
          h.alike.size_queues⟩
      · exact ⟨rfl, h⟩

/-- Queues that come to the same answer requests in the same way, but that finishing them may fail
    differently, and come to the same afterwards. -/
theorem Paired.answer (h : Paired start start' queue state state') {request : Request handles}
    (hon : OnQueue start queue request)
    (hfits : ∀ own ∈ state.submission? request, Fits start queue state own)
    (hfits' : ∀ own ∈ state'.submission? request, Fits start' queue state' own) :
    Paired start start' queue (Host.answer (m := Id) request state).state
        (Host.answer (m := Id) request state').state ∧
      (finishes request = false → (Host.answer (m := Id) request state).answer =
        (Host.answer (m := Id) request state').answer) := by
  cases request with
  | setKernelArg kernel index arg =>
    obtain ⟨hanswer, hpaired⟩ := h.setKernelArg kernel index arg
    exact ⟨hpaired.takeNotices, fun _ => hanswer⟩
  | enqueueWrite target buffer blocking data wait =>
    obtain ⟨rfl, -⟩ := hon
    have hsame := h.alike.admitWrite buffer data wait
    simp only [submission?, ← hsame] at hfits hfits'
    cases hadmitted : state.admitWrite target buffer data wait with
    | error status =>
      simp only [Host.answer, enqueueWrite_eq, ← hsame, hadmitted]
      exact ⟨h.takeNotices, fun _ => rfl⟩
    | ok operation =>
      have hfits := hfits ⟨operation, wait, state.store.events.size⟩ (by rw [hadmitted]; rfl)
      have hfits' := hfits' ⟨operation, wait, state'.store.events.size⟩ (by rw [hadmitted]; rfl)
      have hcheck := (admitWrite_eq_ok hadmitted).1
      cases blocking with
      | false =>
        simp only [Host.answer, enqueueWrite_eq, ← hsame, hadmitted]
        exact ⟨(h.submit hcheck hfits hfits').takeNotices,
          fun _ => congrArg Except.ok h.alike.size_events⟩
      | true =>
        obtain ⟨outcome, driven, driven', after, after', hdrive, hdrive', houtcome, houtcome',
          hafter⟩ := h.await hcheck hfits hfits'
        simp only [Host.answer, enqueueWrite_of_outcome hadmitted hdrive houtcome,
          enqueueWrite_of_outcome (hsame.symm.trans hadmitted) hdrive' houtcome',
          h.alike.size_events]
        exact ⟨hafter.takeNotices, fun _ => rfl⟩
  | enqueueKernel target kernel size wait =>
    obtain ⟨rfl, -⟩ := hon
    have hsame := h.alike.admitKernel kernel size wait
    simp only [submission?, ← hsame] at hfits hfits'
    simp only [Host.answer, enqueueKernel_eq, ← hsame]
    cases hadmitted : state.admitKernel target kernel size wait with
    | error status => exact ⟨h.takeNotices, fun _ => rfl⟩
    | ok operation =>
      have hfits := hfits ⟨operation, wait, state.store.events.size⟩ (by rw [hadmitted]; rfl)
      have hfits' := hfits' ⟨operation, wait, state'.store.events.size⟩ (by rw [hadmitted]; rfl)
      exact ⟨(h.submit (admitKernel_eq_ok hadmitted).1 hfits hfits').takeNotices,
        fun _ => congrArg Except.ok h.alike.size_events⟩
  | enqueueRead target buffer blocking out wait =>
    obtain ⟨rfl, -⟩ := hon
    have hsame := h.alike.admitRead buffer out.size wait
    simp only [submission?, ← hsame] at hfits hfits'
    cases hadmitted : state.admitRead target buffer out.size wait with
    | error status =>
      simp only [Host.answer, enqueueRead_eq, ← hsame, hadmitted]
      exact ⟨h.takeNotices, fun _ => rfl⟩
    | ok operation =>
      have hfits := hfits ⟨operation, wait, state.store.events.size⟩ (by rw [hadmitted]; rfl)
      have hfits' := hfits' ⟨operation, wait, state'.store.events.size⟩ (by rw [hadmitted]; rfl)
      obtain ⟨outcome, driven, driven', after, after', hdrive, hdrive', houtcome, houtcome',
        hafter⟩ := h.await (admitRead_eq_ok hadmitted).1 hfits hfits'
      simp only [Host.answer, enqueueRead_of_outcome hadmitted hdrive houtcome,
        enqueueRead_of_outcome (hsame.symm.trans hadmitted) hdrive' houtcome', h.alike.size_events]
      exact ⟨hafter.takeNotices, fun _ => rfl⟩
  | finish target =>
    obtain rfl := hon
    exact ⟨(h.drive none none).takeNotices, by simp [finishes]⟩
  | _ => exact hon.elim

omit [Clock Id κ] in
theorem onQueue_congr (h : state.pending = state'.pending) (request : Request handles) :
    OnQueue state queue request ↔ OnQueue state' queue request := by
  cases request <;> simp only [OnQueue, h]

omit [Clock Id κ] in
/-- What a request on a queue submits fits, if it waits for all with which it conflicts. -/
theorem OnQueue.fits {request : Request handles} (hon : OnQueue start queue request)
    (hrace : start.order? queue = some .inOrder ∨
      ∀ own ∈ state.submission? request, AwaitsConflicts queue state own) :
    ∀ own ∈ state.submission? request, Fits start queue state own := by
  intro own hown
  refine ⟨?_, hrace.imp_right fun h => h own hown⟩
  cases request with
  | enqueueWrite | enqueueKernel | enqueueRead =>
    obtain ⟨operation, -, rfl⟩ := Option.map_eq_some_iff.1 hown
    exact hon.2
  | _ => exact nomatch hown

theorem Paired.serve (h : Paired start start' queue state state')
    (hin : start'.order? queue = some .inOrder) {requests : List (Request handles)}
    (hon : ∀ request ∈ requests, OnQueue start queue request ∧ OnQueue start' queue request)
    (hrace : RaceFree queue state requests) :
    Paired start start' queue (state.serve requests) (state'.serve requests) ∧
      (state.exchanges requests).filter (!finishes ·.1) =
        (state'.exchanges requests).filter (!finishes ·.1) := by
  induction requests generalizing state state' with
  | nil => exact ⟨h, rfl⟩
  | cons request requests ih =>
    obtain ⟨hfirst, hrest⟩ := List.forall_mem_cons.1 hon
    obtain ⟨hpaired, hanswer⟩ :=
      h.answer hfirst.1 (hfirst.1.fits (.inr hrace.1)) (hfirst.2.fits (.inl hin))
    obtain ⟨hserve, hexchanges⟩ := ih hpaired hrest hrace.2
    refine ⟨hserve, ?_⟩
    rw [exchanges, exchanges]
    -- only the answers of requests that finish a queue may differ, and these are left out
    cases hfinishes : finishes request with
    | true => simpa [hfinishes] using hexchanges
    | false => simp [hfinishes, hexchanges, hanswer hfinishes]

omit [Clock Id κ] in
theorem pending_reorder (order : QueueOrder) :
    (state.reorder queue order).pending = state.pending := by
  funext other
  simp only [pending, reorder, Array.getElem?_modify]
  rcases eq_or_ne queue other with rfl | hne
  · rw [if_pos rfl]
    cases state.queues[queue]? <;> rfl
  · rw [if_neg hne]

omit [Clock Id κ] in
theorem order?_reorder (hqueue : queue < state.queues.size) (order : QueueOrder) :
    (state.reorder queue order).order? queue = some order := by
  simp only [order?, reorder, Array.getElem?_modify, if_true, Array.getElem?_eq_getElem hqueue,
    Option.map_some]

omit [Clock Id κ] in
theorem Serving.reorder (h : state.WellFormed) (hqueue : queue < state.queues.size)
    (hidle : state.pending queue = []) (order : QueueOrder) :
    Serving (state.reorder queue order) queue (state.reorder queue order) := by
  have hempty : (state.reorder queue order).pending queue = [] :=
    (congrFun (pending_reorder order) queue).trans hidle
  refine ⟨⟨h.of_same (pending_reorder order) rfl, ?_, ?_⟩, .inr ?_, rfl, fun _ _ => rfl⟩
  · rwa [State.reorder, Array.size_modify]
  · simp [hempty]
  · simp [hempty]

/-- A sequence of requests on one queue that is free of races when the queue is out of order gets
    the same answers when it is in order, but for calls that finish the queue. Once the queue has
    been finished at the end, no command is pending, every event has the same outcome and every
    buffer has the same elements. -/
theorem Reachable.exchanges_reorder (h : Reachable state) (hqueue : queue < state.queues.size)
    (hidle : state.pending queue = []) {requests : List (Request handles)}
    (hon : ∀ request ∈ requests, OnQueue state queue request)
    (hrace : RaceFree queue (state.reorder queue .outOfOrder) requests) :
    let free := state.reorder queue .outOfOrder
    let strict := state.reorder queue .inOrder
    let freeEnd := ((free.serve requests).finish (m := Id) queue).2
    let strictEnd := ((strict.serve requests).finish (m := Id) queue).2
    (free.exchanges requests).filter (!finishes ·.1) =
        (strict.exchanges requests).filter (!finishes ·.1) ∧
      freeEnd.pending queue = [] ∧ strictEnd.pending queue = [] ∧
      (∀ event, freeEnd.store.outcome? event = strictEnd.store.outcome? event) ∧
      ∀ buffer, freeEnd.store.memory buffer = strictEnd.store.memory buffer := by
  intro free strict freeEnd strictEnd
  -- with no commands pending, both queues come to what they are already
  have hpending (order : QueueOrder) : (state.reorder queue order).pending = state.pending :=
    pending_reorder order
  have hstart : Paired free strict queue free strict :=
    ⟨.reorder h.wellFormed hqueue hidle _, .reorder h.wellFormed hqueue hidle _, by
      refine ⟨?_, rfl, rfl, rfl, ?_⟩
      · rw [settled, settled, hpending, hpending]
        rfl
      · simp only [free, strict, reorder, Array.size_modify]⟩
  have hboth : ∀ request ∈ requests,
      OnQueue free queue request ∧ OnQueue strict queue request := fun request hrequest =>
    ⟨(onQueue_congr (hpending _) request).2 (hon request hrequest),
      (onQueue_congr (hpending _) request).2 (hon request hrequest)⟩
  obtain ⟨hpaired, hexchanges⟩ := hstart.serve (order?_reorder hqueue _) hboth hrace
  obtain ⟨hempty, hledger⟩ := hpaired.left.alone.finish hpaired.left.ordered
  obtain ⟨hempty', hledger'⟩ := hpaired.right.alone.finish hpaired.right.ordered
  have hsame : freeEnd.store.ledger = strictEnd.store.ledger :=
    hledger.trans (hpaired.alike.settled.trans hledger'.symm)
  refine ⟨hexchanges, hempty, hempty', fun event => ?_, fun buffer => ?_⟩
  · exact congrFun (congrArg Ledger.outcome hsame) event
  · exact congrFun (congrArg Ledger.memory hsame) buffer

/-- Two uploads and a download that waits for the first: out of order the second upload runs before
    the first. -/
theorem exchanges_reorder_of_two_uploads :
    let clock := Readings.ofFunction fun _ => 0
    let buffer : Buffer := ⟨⟨.readOnly, .readWrite⟩, #[freshElement]⟩
    let state : State Readings :=
      { store := { clock, buffers := #[buffer, buffer] }, queues := #[⟨.inOrder, true, false, []⟩] }
    let requests : List (Request handles) :=
      [.enqueueWrite 0 0 false #[1] [], .enqueueWrite 0 1 false #[2] [],
        .enqueueRead 0 0 true #[0] [0]]
    RaceFree 0 (state.reorder 0 .outOfOrder) requests ∧
      ((state.reorder 0 .outOfOrder).exchanges requests).filter (!finishes ·.1) =
        ((state.reorder 0 .inOrder).exchanges requests).filter (!finishes ·.1) := by
  intro clock buffer state requests
  have hreachable : state.Reachable := by
    let device : Device := { name := "", kind := .cpu }
    have hinitial : Reachable { initial clock with enumerationFault := none } := .initial
    exact .answer (.createBuffer ⟨device⟩ 0 buffer.access 1)
      (.answer (.createBuffer ⟨device⟩ 0 buffer.access 1)
        (.answer (.createQueue ⟨device⟩ device true) hinitial))
  have hrace : RaceFree 0 (state.reorder 0 .outOfOrder) requests := by
    refine ⟨fun own hown => ?_, fun own hown => ?_, fun own hown => ?_, trivial⟩
    · exact fun other hother => nomatch hother
    · obtain rfl : _ = own := Option.some.inj hown
      intro other hother hconflict
      obtain rfl : other = ⟨.write 0 #[1], [], 0⟩ := List.mem_singleton.1 hother
      obtain ⟨buffer, hown, hother, -⟩ := hconflict
      exact absurd ((List.mem_singleton.1 hown).symm.trans (List.mem_singleton.1 hother)) nofun
    · obtain rfl : _ = own := Option.some.inj hown
      intro other hother hconflict
      have hother : other ∈ [⟨.write 0 #[1], [], 0⟩, ⟨.write 1 #[2], [], 1⟩] := hother
      rcases List.mem_cons.1 hother with rfl | hother
      · exact .single ⟨List.mem_cons_self, List.mem_cons_self⟩
      · obtain rfl := List.mem_singleton.1 hother
        obtain ⟨buffer, hown, hother, -⟩ := hconflict
        exact absurd ((List.mem_singleton.1 hown).symm.trans (List.mem_singleton.1 hother)) nofun
  refine ⟨hrace, (hreachable.exchanges_reorder (by decide) rfl ?_ hrace).1⟩
  -- there is no other queue for which a request could wait
  have hidle (queue : QueueId) (hne : queue ≠ 0) : state.pending queue = [] := by
    simp [pending, state, hne]
  simp +contextual [requests, OnQueue, hidle]

end Offload.Host.State
