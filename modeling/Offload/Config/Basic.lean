import Offload.Failure
import Offload.Text.Blank

/-!
# Configuration

What one sweep does on every device: how many elements it adds, what the inputs hold, how much of
the output is checked, and which kernel runs. `Config.validate` refuses what no device could run.
-/

namespace Offload

/-- How much of the output is compared with the expected sums. -/
inductive Sample where
  /-- The first elements, as many as given or as there are. -/
  | leading (count : UInt64)
  /-- Every element. -/
  | all
  deriving DecidableEq, Repr

namespace Sample

/-- The number of elements checked in an output of `n` elements. -/
def count : Sample → Nat → Nat
  | leading count, n => min count.toNat n
  | all, n => n

/-- Every element of the output is checked, whatever its length. -/
def isExhaustive : Sample → Bool
  | leading _ => false
  | all => true

end Sample

/-- The kernel that adds A and B into C, guarded by the element count. -/
def vectorAddSource : String :=
  "\n".intercalate
    ["",
     "__kernel void vecadd(",
     "    __global const int *A,",
     "    __global const int *B,",
     "    __global int *C,",
     "    const int N)",
     "\x7b",
     "    int id = get_global_id(0);",
     "    if (id < N) \x7b",
     "        C[id] = A[id] + B[id];",
     "    \x7d",
     "\x7d",
     ""]

/-- The name of that kernel. -/
def vectorAddName : String := "vecadd"

/-- The largest element count that the kernel's 32-bit count can hold. -/
def maxElements : UInt64 := 2147483647

/-- The bytes of so many 32-bit elements, as the 64-bit word in which sizes are counted. -/
def byteCount (elements : UInt64) : UInt64 := 4 * elements

/-- The configuration of a sweep. -/
structure Config where
  /-- The element count of all three arrays. -/
  elements : UInt64 := 1048576
  /-- Every element of A. -/
  fillA : Int32 := 1
  /-- Every element of B. -/
  fillB : Int32 := 2
  /-- How much of C is checked. -/
  sample : Sample := .leading 10
  /-- The program text that each device builds. -/
  kernelSource : String := vectorAddSource
  /-- The kernel of the program that runs. -/
  entryPoint : String := vectorAddName
  /-- A platform whose name contains this text is set off by a line. -/
  separatorMarker : String := "NVIDIA CUDA"
  deriving DecidableEq, Repr

/-- Refuses a configuration that no device could run: the count must fit the kernel's parameter,
    and there must be a kernel name and a kernel text. -/
def Config.validate (config : Config) : Except Failure Unit :=
  if maxElements < config.elements then
    .error (.invalidConfig ("element count " ++ toString config.elements.toNat
      ++ " exceeds the kernel's int range (" ++ toString maxElements.toNat ++ ")"))
  else if Text.isBlankText config.entryPoint then
    .error (.invalidConfig "kernel entry point name is empty")
  else if Text.isBlankText config.kernelSource then
    .error (.invalidConfig "kernel source is empty")
  else .ok ()

end Offload
