/-!
# Status codes

Every call on a compute backend answers with a numeric status when it fails. The numbers are those
of the OpenCL headers; `Status.name` gives the symbolic name that messages show beside a number.
-/

namespace Offload

/-- A raw status code, any signed 32-bit number. Only some of them have a name. -/
structure Status where
  /-- The number itself. -/
  code : Int32
  deriving DecidableEq, Repr, Inhabited

namespace Status

/-- No failure. -/
def success : Status := ⟨0⟩
/-- No device matches the query. -/
def deviceNotFound : Status := ⟨-1⟩
/-- The device exists but cannot be used now. -/
def deviceNotAvailable : Status := ⟨-2⟩
/-- The device comes without a compiler. -/
def compilerNotAvailable : Status := ⟨-3⟩
/-- Device memory for an object could not be obtained. -/
def memObjectAllocationFailure : Status := ⟨-4⟩
/-- The device ran out of a resource while executing a command. -/
def outOfResources : Status := ⟨-5⟩
/-- The host ran out of memory. -/
def outOfHostMemory : Status := ⟨-6⟩
/-- No timestamps can be read from this event. -/
def profilingInfoNotAvailable : Status := ⟨-7⟩
/-- The program source was rejected. -/
def buildProgramFailure : Status := ⟨-11⟩
/-- A command waits on an event that failed. -/
def execStatusErrorForEventsInWaitList : Status := ⟨-14⟩
/-- An argument has an invalid value. -/
def invalidValue : Status := ⟨-30⟩
/-- The platform is not valid. -/
def invalidPlatform : Status := ⟨-32⟩
/-- The device is not valid in this context. -/
def invalidDevice : Status := ⟨-33⟩
/-- The context is not valid. -/
def invalidContext : Status := ⟨-34⟩
/-- The command queue is not valid. -/
def invalidCommandQueue : Status := ⟨-36⟩
/-- The memory object is not valid. -/
def invalidMemObject : Status := ⟨-38⟩
/-- The program is not valid. -/
def invalidProgram : Status := ⟨-44⟩
/-- The program has not been built. -/
def invalidProgramExecutable : Status := ⟨-45⟩
/-- No kernel of that name can be made from the program. -/
def invalidKernelName : Status := ⟨-46⟩
/-- The kernel's declaration does not match the requested parameters. -/
def invalidKernelDefinition : Status := ⟨-47⟩
/-- The kernel has no parameter at that position. -/
def invalidArgIndex : Status := ⟨-49⟩
/-- The argument does not fit the parameter at that position. -/
def invalidArgValue : Status := ⟨-50⟩
/-- Some parameter of the kernel has no argument of its kind. -/
def invalidKernelArgs : Status := ⟨-52⟩
/-- A wait-list names an event that can never resolve. -/
def invalidEventWaitList : Status := ⟨-57⟩
/-- The access hints of the buffer forbid the operation. -/
def invalidOperation : Status := ⟨-59⟩
/-- The buffer size is beyond what can be allocated. -/
def invalidBufferSize : Status := ⟨-61⟩
/-- The installable client driver loader found no platform. -/
def platformNotFoundKhr : Status := ⟨-1001⟩

/-- The codes that have a name, each with it. -/
def names : List (Status × String) :=
  [(success, "CL_SUCCESS"),
   (deviceNotFound, "CL_DEVICE_NOT_FOUND"),
   (deviceNotAvailable, "CL_DEVICE_NOT_AVAILABLE"),
   (compilerNotAvailable, "CL_COMPILER_NOT_AVAILABLE"),
   (memObjectAllocationFailure, "CL_MEM_OBJECT_ALLOCATION_FAILURE"),
   (outOfResources, "CL_OUT_OF_RESOURCES"),
   (outOfHostMemory, "CL_OUT_OF_HOST_MEMORY"),
   (profilingInfoNotAvailable, "CL_PROFILING_INFO_NOT_AVAILABLE"),
   (buildProgramFailure, "CL_BUILD_PROGRAM_FAILURE"),
   (execStatusErrorForEventsInWaitList, "CL_EXEC_STATUS_ERROR_FOR_EVENTS_IN_WAIT_LIST"),
   (invalidValue, "CL_INVALID_VALUE"),
   (invalidPlatform, "CL_INVALID_PLATFORM"),
   (invalidDevice, "CL_INVALID_DEVICE"),
   (invalidContext, "CL_INVALID_CONTEXT"),
   (invalidCommandQueue, "CL_INVALID_COMMAND_QUEUE"),
   (invalidMemObject, "CL_INVALID_MEM_OBJECT"),
   (invalidProgram, "CL_INVALID_PROGRAM"),
   (invalidProgramExecutable, "CL_INVALID_PROGRAM_EXECUTABLE"),
   (invalidKernelName, "CL_INVALID_KERNEL_NAME"),
   (invalidKernelDefinition, "CL_INVALID_KERNEL_DEFINITION"),
   (invalidArgIndex, "CL_INVALID_ARG_INDEX"),
   (invalidArgValue, "CL_INVALID_ARG_VALUE"),
   (invalidKernelArgs, "CL_INVALID_KERNEL_ARGS"),
   (invalidEventWaitList, "CL_INVALID_EVENT_WAIT_LIST"),
   (invalidOperation, "CL_INVALID_OPERATION"),
   (invalidBufferSize, "CL_INVALID_BUFFER_SIZE"),
   (platformNotFoundKhr, "CL_PLATFORM_NOT_FOUND_KHR")]

/-- The symbolic name of a status, or `UNKNOWN_STATUS` for a number without one. -/
def name (status : Status) : String :=
  (names.lookup status).getD "UNKNOWN_STATUS"

/-- The number as text, with a minus sign where it is negative. -/
def digits (status : Status) : String :=
  toString status.code.toInt

/-- How messages show a status: its name and, in parentheses, its number. -/
def label (status : Status) : String :=
  status.name ++ " (" ++ status.digits ++ ")"

end Status

end Offload
