/-!
# Access hints

A device buffer is created with two hints: how kernels may use it and how the host may use it
through transfers. The hints decide which commands a backend admits (`Access.hostCanWrite`,
`Access.hostCanRead`, `Access.deviceCanWrite`).
-/

namespace Offload

/-- What one side may do with a buffer. -/
inductive AccessMode where
  /-- Read it only. -/
  | readOnly
  /-- Write it only. -/
  | writeOnly
  /-- Read and write it. -/
  | readWrite
  deriving DecidableEq, Repr, Inhabited

/-- The word for a mode in logs and listings. -/
def AccessMode.label : AccessMode → String
  | .readOnly => "ReadOnly"
  | .writeOnly => "WriteOnly"
  | .readWrite => "ReadWrite"

/-- The hints of one buffer. -/
structure Access where
  /-- What kernels may do with the buffer. -/
  device : AccessMode
  /-- What the host may do with the buffer through transfers. -/
  host : AccessMode
  deriving DecidableEq, Repr, Inhabited

namespace Access

/-- A kernel input filled by the host. -/
def input : Access := ⟨.readOnly, .writeOnly⟩

/-- A kernel output fetched by the host. -/
def output : Access := ⟨.writeOnly, .readOnly⟩

/-- The host may upload into the buffer. -/
def hostCanWrite (access : Access) : Bool := access.host != .readOnly

/-- The host may download from the buffer. -/
def hostCanRead (access : Access) : Bool := access.host != .writeOnly

/-- Kernels may write the buffer. -/
def deviceCanWrite (access : Access) : Bool := access.device != .readOnly

/-- Both hints as text, the device's first. -/
def label (access : Access) : String :=
  access.device.label ++ "/" ++ access.host.label

end Access

end Offload
