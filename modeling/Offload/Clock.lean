/-!
# Clocks

Durations are differences of readings of a clock. A clock is a state that can be read in some
monad: a real one is read in `IO`, and `Readings` is a clock whose readings are all given in
advance, so that what is measured with it is a pure function.
-/

namespace Offload

/-- A clock that counts nanoseconds and is read in the monad `m`. -/
class Clock (m : Type → Type) (κ : Type) where
  /-- The present reading, and the clock after it. -/
  read : κ → m (UInt64 × κ)

/-- A clock whose readings are given in advance. -/
structure Readings where
  /-- The readings, in the order in which they are taken. -/
  reading : Nat → UInt64
  /-- How many have been taken. -/
  taken : Nat

namespace Readings

/-- A fresh clock with the given readings. -/
def ofFunction (reading : Nat → UInt64) : Readings := ⟨reading, 0⟩

instance {m : Type → Type} [Monad m] : Clock m Readings where
  read clock := pure (clock.reading clock.taken, { clock with taken := clock.taken + 1 })

end Readings

end Offload
