import Offload.Backend
import Offload.Clock

/-!
# Runs on a backend

A run asks a backend for one thing after another, writes notices to the log and reads the clock of
the host. All that changes meanwhile is the *world* of the run: the state of the backend, the
clock and the log.
-/

namespace Offload

/-- What a run finds and leaves. -/
structure World {m : Type → Type} (B : Backend m) (κ : Type) where
  /-- The state of the backend. -/
  backend : B.State
  /-- The clock of the host. -/
  clock : κ
  /-- The notices so far, in order. -/
  log : List Notice := []

/-- A computation in a world. -/
abbrev Run {m : Type → Type} (B : Backend m) (κ : Type) := StateT (World B κ) m

/-- A computation in a world that may end with a failure. -/
abbrev Attempt {m : Type → Type} (B : Backend m) (κ : Type) := ExceptT Failure (Run B κ)

namespace Run

variable {m : Type → Type} [Monad m] {B : Backend m} {κ : Type}

/-- Asks the backend. -/
def ask (request : Request B.handles) : Run B κ request.Answer := fun world => do
  let reply ← B.answer request world.backend
  return (reply.answer, { world with backend := reply.state, log := world.log ++ reply.notices })

/-- Writes a notice to the log. -/
def note (notice : Notice) : Run B κ Unit :=
  modify fun world => { world with log := world.log ++ [notice] }

/-- Reads the clock of the host. -/
def now [Clock m κ] : Run B κ UInt64 := fun world => do
  let (reading, clock) ← Clock.read world.clock
  return (reading, { world with clock })

/-- Turns a refusal into a failure. -/
def orFail {α : Type} (run : Run B κ (Except Status α)) (failure : Status → Failure) :
    Attempt B κ α :=
  ExceptT.mk do
    match ← run with
    | .ok a => return .ok a
    | .error status => return .error (failure status)

/-- Does something that cannot fail on the way. -/
def always {α : Type} (run : Run B κ α) : Attempt B κ α :=
  ExceptT.lift run

end Run

end Offload
