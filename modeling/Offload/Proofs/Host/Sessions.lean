import Offload.Proofs.Host.History

/-!
# Sessions

A *session* is all that has changed since a backend was made with some clock (`State.Session`).
Serving requests leads from session to session (`State.serve_changes`), and what is proved of every
change holds of all sessions (`State.Session.induct`). Queues and buffers stay what they were made
as, whatever is asked later (`State.traits_serve`, `State.shape_serve`), and programs and kernels
are the same until one of the few requests comes that are about them (`State.objects_answer`).
-/

namespace Offload.Host.State

variable {κ : Type} [Clock Id κ] {clock : κ} {state state' : State κ} {deeds new : List Deed}
  {queue : QueueId} {buffer : BufferId}

/-- A backend that has just been made, with its platforms and its fault. -/
def fresh (clock : κ) (platforms : List Platform) (fault : Option Status) : State κ :=
  { State.initial clock platforms with enumerationFault := fault }

/-- The deeds are all that has happened to commands since a backend was made with this clock. -/
def Session (clock : κ) (deeds : List Deed) (state : State κ) : Prop :=
  ∃ platforms fault, Changes (fresh clock platforms fault) deeds state

theorem Session.history (h : Session clock deeds state) : History deeds state :=
  let ⟨platforms, fault, hchanges⟩ := h
  ⟨clock, platforms, fault, hchanges.moves⟩

/-- What holds at the start, and after every change of a state whose session is known, holds of all
    sessions. -/
@[elab_as_elim]
theorem Session.induct {motive : List Deed → State κ → Prop}
    (fresh : ∀ platforms fault, motive [] (State.fresh clock platforms fault))
    (change : ∀ deeds new state state', Session clock deeds state → motive deeds state →
      Change state new state' → motive (deeds ++ new) state')
    (h : Session clock deeds state) : motive deeds state := by
  obtain ⟨platforms, fault, hchanges⟩ := h
  induction hchanges with
  | refl => exact fresh platforms fault
  | change hchanges hchange ih => exact change _ _ _ _ ⟨platforms, fault, hchanges⟩ ih hchange

theorem serve_changes (h : state.WellFormed) (hknown : state.Known)
    (requests : List (Request handles)) :
    ∃ deeds, Changes state deeds (state.serve requests) := by
  induction requests generalizing state with
  | nil => exact ⟨[], .refl⟩
  | cons request requests ih =>
    obtain ⟨deeds, hanswer⟩ := hknown.answer_changes request
    obtain ⟨hafter, hknown⟩ := hanswer.moves.keep h hknown
    obtain ⟨more, hserve⟩ := ih hafter hknown
    exact ⟨_, hanswer.trans hserve⟩

theorem reachable_fresh (clock : κ) (platforms : List Platform) (fault : Option Status) :
    (fresh clock platforms fault).Reachable := .initial

/-- Requests take the backend that has just been made through a session. -/
theorem serve_fresh_changes (clock : κ) (platforms : List Platform) (fault : Option Status)
    (requests : List (Request handles)) :
    ∃ deeds, Changes (fresh clock platforms fault) deeds
      ((fresh clock platforms fault).serve requests) :=
  let h := reachable_fresh clock platforms fault
  serve_changes h.wellFormed h.known requests

/-! ### Queues and buffers last -/

theorem Change.traits (h : Change state new state') {found : Bool × Bool}
    (hfound : state.traits queue = some found) : state'.traits queue = some found := by
  cases h with
  | rest hrest => exact hrest.traits queue found hfound
  | submit =>
    rename_i target operation wait _ _ _
    obtain ⟨q, hq, rfl⟩ := Option.map_eq_some_iff.1 hfound
    simp only [State.traits, State.submit, Array.getElem?_modify, hq]
    split <;> rfl
  | run hstep =>
    obtain ⟨hq, hnext, -⟩ := hstep
    rename_i target command failure q rest store
    obtain ⟨before, after, -, rfl, -⟩ := Queue.next?_eq_some hnext
    have hlt := (Array.getElem?_eq_some_iff.1 hq).1
    rw [← hfound, State.traits, State.traits]
    rcases eq_or_ne target queue with rfl | hne
    · simp only [Array.getElem?_setIfInBounds_self_of_lt hlt, hq, Option.map_some]
    · simp only [Array.getElem?_setIfInBounds_ne hne]

theorem Changes.traits (h : Changes state deeds state') {found : Bool × Bool}
    (hfound : state.traits queue = some found) : state'.traits queue = some found := by
  induction h with
  | refl => exact hfound
  | change _ hchange ih => exact hchange.traits ih

theorem Changes.shape (h : Changes state deeds state') (hwf : state.WellFormed)
    (hknown : state.Known) {found : Access × Nat}
    (hfound : state.store.shape buffer = some found) :
    state'.store.shape buffer = some found := by
  induction h with
  | refl => exact hfound
  | change hchanges hchange ih => exact hchange.move.shape (hchanges.moves.keep hwf hknown).1 ih

omit [Clock Id κ] in
theorem traits_createQueue {context : Context} {device : Device} {profiling : Bool}
    {after : State κ} (h : state.createQueue context device profiling = (.ok queue, after)) :
    after.traits queue = some (profiling, device.backwardsClock) := by
  rw [createQueue] at h
  split at h
  · cases h
  · split at h
    · cases h
    · cases h
      simp [State.traits]

omit [Clock Id κ] in
theorem shape_of_createBuffer {context : Context} {access : Access} {size : UInt64}
    {after : State κ} (h : state.createBuffer context access size = (.ok buffer, after)) :
    after.store.shape buffer = some (access, size.toNat) := by
  rw [createBuffer] at h
  split at h
  · cases h
    simp [Store.shape]
  · cases h

theorem serve_append (state : State κ) (before after : List (Request handles)) :
    state.serve (before ++ after) = (state.serve before).serve after :=
  List.foldl_append

/-- A queue stays what it was made as. -/
theorem traits_serve (h : state.Reachable) {context : Context} {device : Device}
    {profiling : Bool}
    (hmade : (state.createQueue context device profiling).1 = .ok queue)
    (requests : List (Request handles)) :
    (state.serve (.createQueue context device profiling :: requests)).traits queue =
      some (profiling, device.backwardsClock) := by
  have hreachable := h.answer (.createQueue context device profiling)
  obtain ⟨deeds, hserve⟩ := serve_changes hreachable.wellFormed hreachable.known requests
  have htraits : (state.createQueue context device profiling).2.traits queue =
      some (profiling, device.backwardsClock) := traits_createQueue (Prod.ext hmade rfl)
  exact hserve.traits htraits

/-- A buffer keeps the hints and the size with which it was made. -/
theorem shape_serve (h : state.Reachable) {context : Context} {access : Access} {size : UInt64}
    (target : QueueId) (hmade : (state.createBuffer context access size).1 = .ok buffer)
    (requests : List (Request handles)) :
    (state.serve (.createBuffer context target access size :: requests)).store.shape buffer =
      some (access, size.toNat) := by
  have hreachable := h.answer (.createBuffer context target access size)
  obtain ⟨deeds, hserve⟩ := serve_changes hreachable.wellFormed hreachable.known requests
  have hshape : (state.createBuffer context access size).2.store.shape buffer =
      some (access, size.toNat) := shape_of_createBuffer (Prod.ext hmade rfl)
  exact hserve.shape hreachable.wellFormed hreachable.known hshape

/-! ### Programs and kernels -/

theorem objects_drive (state : State κ) (queue : QueueId) (target : Option EventId) :
    (state.drive (m := Id) queue target).2.programs = state.programs ∧
      (state.drive (m := Id) queue target).2.kernels = state.kernels := by
  rw [drive]
  split <;> exact ⟨rfl, rfl⟩

/-- The request neither makes nor changes a program or a kernel. -/
def sparesObjects : Request handles → Bool
  | .createProgram _ _ | .buildProgram _ _ | .createKernel _ _ _ _ | .setKernelArg _ _ _ => false
  | _ => true

theorem objects_answer {request : Request handles} (h : sparesObjects request) (state : State κ) :
    (Host.answer (m := Id) request state).state.programs = state.programs ∧
      (Host.answer (m := Id) request state).state.kernels = state.kernels := by
  cases request with
  | platforms | createContext | buildLog | waitEvents | profiling => exact ⟨rfl, rfl⟩
  | createQueue context device profiling =>
    simp only [Host.answer, createQueue]
    split
    · exact ⟨rfl, rfl⟩
    · split <;> exact ⟨rfl, rfl⟩
  | createBuffer context queue access size =>
    simp only [Host.answer, createBuffer]
    split <;> exact ⟨rfl, rfl⟩
  | enqueueWrite queue buffer blocking data wait =>
    change (state.enqueueWrite (m := Id) queue buffer blocking data wait).2.programs = _ ∧
      (state.enqueueWrite (m := Id) queue buffer blocking data wait).2.kernels = _
    rw [enqueueWrite_snd]
    split
    · exact ⟨rfl, rfl⟩
    · split
      · exact objects_drive _ _ _
      · exact ⟨rfl, rfl⟩
  | enqueueKernel queue kernel size wait =>
    change (state.enqueueKernel queue kernel size wait).2.programs = _ ∧
      (state.enqueueKernel queue kernel size wait).2.kernels = _
    rw [enqueueKernel_eq]
    split <;> exact ⟨rfl, rfl⟩
  | enqueueRead queue buffer blocking out wait =>
    change (state.enqueueRead (m := Id) queue buffer out wait).2.programs = _ ∧
      (state.enqueueRead (m := Id) queue buffer out wait).2.kernels = _
    rw [enqueueRead_snd]
    split
    · exact ⟨rfl, rfl⟩
    · exact objects_drive _ _ _
  | finish queue => exact objects_drive state queue none
  | createProgram | buildProgram | createKernel | setKernelArg => exact absurd h Bool.false_ne_true

end Offload.Host.State
