import Offload.Host.Arguments

/-!
# Vector addition on a device

The one kernel that the host backend can run: work item `i` puts `A[i] + B[i]` into `C[i]`, in
wrapping 32-bit arithmetic, provided that `i` is below the element count given to the kernel. Before
that, the kernel looks at its argument vector (`VectorAdd.arguments`). Work items run in order. The
first one that finds an element of a buffer missing ends the kernel; what earlier ones have written
stays.
-/

namespace Offload.Host.VectorAdd

/-- The arguments in a vector: three buffers and a scalar of four bytes come first. -/
def arguments : List Bound → Except Status Arguments
  | .buffer a :: .buffer b :: .buffer c :: .scalar count :: _ =>
    if count.length = 4 then .ok ⟨a, b, c, ofElementBytes count⟩ else .error .invalidArgValue
  | _ => .error .invalidKernelArgs

/-- The position of the buffer through which the kernel writes. -/
def output : Nat := 2

/-- How many work items have something to do: those below the element count. On a device items
    compare their numbers as signed words, which comes to the same for up to `2 ^ 63` items. -/
def activeItems (size : UInt64) (count : Int32) : Nat :=
  min size.toNat count.toNatClampNeg

/-- Runs the work items from `i` on, below the limit. A and B are as before the kernel started,
    also where one of them is the same buffer as C. -/
def runItems (a b : Array Int32) (limit i : Nat) (c : Array Int32) :
    Array Int32 × Option Status :=
  if i < limit then
    match a[i]?, b[i]? with
    | some x, some y =>
      if h : i < c.size then runItems a b limit (i + 1) (c.set i (x + y))
      else (c, some .outOfResources)
    | _, _ => (c, some .outOfResources)
  else (c, none)
termination_by limit - i

/-- Runs the whole kernel once its arguments have been found: the new content of C and the failure,
    if any. -/
def run (a b c : Array Int32) (size : UInt64) (count : Int32) : Array Int32 × Option Status :=
  runItems a b (activeItems size count) 0 c

end Offload.Host.VectorAdd
