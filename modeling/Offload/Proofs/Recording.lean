import Offload.Proofs.Run.Likeness

/-!
# Recording backends

A backend can be made to record what it is asked and what it answers (`Backend.recorded`). Nobody
can tell: a run on the recording backend comes to the same result and the same world as on the
backend itself, once the record is forgotten (`Run.Tracks`). This is a likeness of runs
(`Run.Tracks.likeness`), and the exchanges of a run are those that it records (`Run.exchanges`).
-/

namespace Offload

/-- A request and its answer. -/
abbrev Exchange (H : Handles) := (request : Request H) × request.Answer

/-- A backend with a record of all its exchanges, in order. -/
def Backend.recorded {m : Type → Type} [Monad m] (B : Backend m) : Backend m where
  handles := B.handles
  State := B.State × List (Exchange B.handles)
  name := B.name
  answer request state := do
    let reply ← B.answer request state.1
    return ⟨reply.answer, reply.notices, (reply.state, state.2 ++ [⟨request, reply.answer⟩])⟩

namespace World

variable {m : Type → Type} [Monad m] {B : Backend m} {κ : Type}

/-- Starts a record. -/
def recording (world : World B κ) : World B.recorded κ :=
  ⟨(world.backend, []), world.clock, world.log⟩

/-- Leaves the record out. -/
def forget (world : World B.recorded κ) : World B κ :=
  ⟨world.backend.1, world.clock, world.log⟩

end World

namespace Run

variable {B : Backend Id} {κ : Type} {α β : Type}

/-- The exchanges of a run that starts in a world. -/
def exchanges (recorded : Run B.recorded κ α) (world : World B κ) : List (Exchange B.handles) :=
  (recorded world.recording).2.backend.2

/-- One run does on the recording backend what the other one does on the backend itself. -/
def Tracks (recorded : Run B.recorded κ α) (run : Run B κ α) : Prop :=
  ∀ world, (recorded world).1 = (run world.forget).1 ∧
    (recorded world).2.forget = (run world.forget).2

namespace Tracks

theorem pure {a : α} : Tracks (B := B) (κ := κ) (Pure.pure a) (Pure.pure a) :=
  fun _ => ⟨rfl, rfl⟩

theorem bind {recorded : Run B.recorded κ α} {run : Run B κ α}
    {recordedNext : α → Run B.recorded κ β} {next : α → Run B κ β} (h : Tracks recorded run)
    (hnext : ∀ a, Tracks (recordedNext a) (next a)) :
    Tracks (recorded >>= recordedNext) (run >>= next) := by
  intro world
  obtain ⟨hanswer, hworld⟩ := h world
  -- both go on with the same answer, from worlds that differ in the record only
  change (recordedNext (recorded world).1 (recorded world).2).1 =
      (next (run world.forget).1 (run world.forget).2).1 ∧
    (recordedNext (recorded world).1 (recorded world).2).2.forget =
      (next (run world.forget).1 (run world.forget).2).2
  rw [← hanswer, ← hworld]
  exact hnext _ _

theorem ask (request : Request B.handles) :
    Tracks (Run.ask (B := B.recorded) request : Run _ κ _) (Run.ask (B := B) request) :=
  fun _ => ⟨rfl, rfl⟩

theorem note (notice : Notice) :
    Tracks (Run.note (B := B.recorded) notice : Run _ κ _) (Run.note (B := B) notice) :=
  fun _ => ⟨rfl, rfl⟩

theorem now [Clock Id κ] : Tracks (Run.now (B := B.recorded) : Run _ κ _) (Run.now (B := B)) :=
  fun _ => ⟨rfl, rfl⟩

/-- Runs on the recording backend are like runs on the backend itself. -/
def likeness [Clock Id κ] : Likeness B κ B.recorded.answer where
  Like := Tracks
  pure _ := pure
  bind := bind
  ask := ask
  note := note
  now := now

/-- An execution does the same whether it is recorded or not. -/
theorem execute [Clock Id κ] (resources : Resources B.handles) (kernel : B.handles.Kernel)
    (buffers : Buffers B.handles) (vectors : Vectors) :
    Tracks (Run.execute (B := B.recorded) resources kernel buffers vectors : Run _ κ _)
      (Run.execute (B := B) resources kernel buffers vectors) :=
  likeness.execute resources kernel buffers vectors

/-- A run on a device does the same whether it is recorded or not. -/
theorem onDevice [Clock Id κ] (device : B.handles.Device) (config : Config) :
    Tracks (Run.onDevice (B := B.recorded) (κ := κ) device config).run
      (Run.onDevice (B := B) device config).run :=
  likeness.onDevice device config

end Tracks

end Run

end Offload
