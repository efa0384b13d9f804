import Offload.Backend
import Offload.Host.Store

/-!
# Argument vectors

A kernel keeps what is bound to its parameters in a vector with one entry for each: a buffer as it
is, and an integer as its bytes. This vector is all that a kernel is given when it runs, so nothing
but what is checked when arguments are bound keeps entries of other kinds from it
(`Host.VectorAdd.arguments`).
-/

namespace Offload

/-- The kind of parameter that a value is for. -/
def Argument.kind {Buffer : Type} : Argument Buffer → ParamKind
  | buffer _ => .buffer
  | int _ => .int

namespace Host

/-- The bytes of an element, least significant first. -/
def elementBytes (element : Int32) : List UInt8 :=
  let word := element.toUInt32
  [word.toUInt8, (word >>> 8).toUInt8, (word >>> 16).toUInt8, (word >>> 24).toUInt8]

/-- The element in some bytes, least significant first. -/
def ofElementBytes (bytes : List UInt8) : Int32 :=
  (UInt32.ofNat (bytes.foldr (fun byte word => byte.toNat + 256 * word) 0)).toInt32

/-- An entry of an argument vector. -/
inductive Bound where
  /-- A buffer. -/
  | buffer (buffer : BufferId)
  /-- The bytes of a scalar. -/
  | scalar (bytes : List UInt8)
  deriving DecidableEq, Repr

/-- The entry for a value. -/
def Bound.of : Argument BufferId → Bound
  | .buffer id => .buffer id
  | .int value => .scalar (elementBytes value)

/-- The arguments of the vector addition. -/
structure Arguments where
  /-- The first input. -/
  a : BufferId
  /-- The second input. -/
  b : BufferId
  /-- The output. -/
  c : BufferId
  /-- The element count. -/
  count : Int32
  deriving DecidableEq, Repr

/-- The vector with these arguments. -/
def Arguments.vector (args : Arguments) : List Bound :=
  [.buffer args.a, .buffer args.b, .buffer args.c, .scalar (elementBytes args.count)]

end Host

end Offload
