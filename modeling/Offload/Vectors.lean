import Offload.Config.Basic

/-!
# The vectors of a run

On the host a run has three vectors of one length: the inputs A and B, and C that receives the
sums. `Vectors.verify` compares C with the sums of A and B, in order, up to the first difference.
-/

namespace Offload

/-- The host's vectors. All three have the length of A. -/
structure Vectors where
  /-- The first input. -/
  a : Array Int32
  /-- The second input. -/
  b : Array Int32
  /-- The output. -/
  c : Array Int32
  /-- B is as long as A. -/
  size_b : b.size = a.size
  /-- C is as long as A. -/
  size_c : c.size = a.size

/-- What the comparison of C with the expected sums found. -/
inductive Verdict where
  /-- No difference among the elements checked; these may be all there are. -/
  | passed (checked : Nat) (exhaustive : Bool)
  /-- The first difference. -/
  | failed (index : Nat) (expected actual : Int32)
  deriving DecidableEq, Repr

namespace Vectors

/-- The common length. -/
def size (vectors : Vectors) : Nat := vectors.a.size

/-- No elements at all. -/
def empty : Vectors := ⟨#[], #[], #[], rfl, rfl⟩

/-- Constant inputs and a zero output. -/
def filled (size : Nat) (fillA fillB : Int32) : Vectors where
  a := Array.replicate size fillA
  b := Array.replicate size fillB
  c := Array.replicate size 0
  size_b := by simp
  size_c := by simp

/-- Given inputs and a zero output. Inputs of different lengths are refused. -/
def ofInputs (a b : Array Int32) : Except Failure Vectors :=
  if h : b.size = a.size then
    .ok ⟨a, b, Array.replicate a.size 0, h, by simp⟩
  else
    .error (.invalidConfig ("input lengths differ: A has " ++ toString a.size ++ ", B has "
      ++ toString b.size))

/-- The same inputs with another output. -/
def withOutput (vectors : Vectors) (c : Vector Int32 vectors.c.size) : Vectors :=
  { vectors with c := c.toArray, size_c := by rw [c.size_toArray, vectors.size_c] }

/-- The first index from `i` on, below the limit, where C is not the sum of A and B. -/
def firstMismatch? (vectors : Vectors) (limit : Nat) (i : Nat) : Option Verdict :=
  if h : i < limit ∧ i < vectors.a.size then
    have hb : i < vectors.b.size := vectors.size_b ▸ h.2
    have hc : i < vectors.c.size := vectors.size_c ▸ h.2
    let expected := vectors.a[i] + vectors.b[i]
    let actual := vectors.c[i]
    if actual = expected then firstMismatch? vectors limit (i + 1)
    else some (.failed i expected actual)
  else none
termination_by limit - i

/-- Checks the sample of C. -/
def verify (vectors : Vectors) (sample : Sample) : Verdict :=
  let checked := sample.count vectors.size
  (firstMismatch? vectors checked 0).getD (.passed checked sample.isExhaustive)

end Vectors

end Offload
