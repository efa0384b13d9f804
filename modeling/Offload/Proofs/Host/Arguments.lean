import Offload.Host.Program

/-!
# Arguments of the right kinds

A kernel that runs is given a vector of arguments and checks it (`VectorAdd.arguments`). These
checks never fail, because arguments are bound to parameters of their own kind only. So what is
bound to a kernel is of the kinds of its parameters (`Kernel.Typed`), whatever is bound next
(`Kernel.Typed.bind`), a vector of such entries without gaps is the vector of some arguments
(`Kernel.Typed.exists_vector`), and these are what the checks find in it
(`VectorAdd.arguments_vector`).
-/

namespace Offload.Host

/-! ### Elements as bytes -/

theorem ofElementBytes_elementBytes (x : Int32) : ofElementBytes (elementBytes x) = x := by
  have hword : x.toUInt32.toNat < 4294967296 := x.toUInt32.toNat_lt
  have hsum : (elementBytes x).foldr (fun byte word => byte.toNat + 256 * word) 0 =
      x.toUInt32.toNat := by
    simp only [elementBytes, List.foldr_cons, List.foldr_nil, UInt32.toNat_toUInt8,
      UInt32.toNat_shiftRight, Nat.shiftRight_eq_div_pow, UInt32.toNat_ofNat, Nat.reduceMod,
      Nat.reducePow]
    omega
  rw [ofElementBytes, hsum, UInt32.ofNat_toNat, Int32.toInt32_toUInt32]

/-- Four bytes are the bytes of an element. -/
theorem elementBytes_ofElementBytes {bytes : List UInt8} (h : bytes.length = 4) :
    elementBytes (ofElementBytes bytes) = bytes := by
  match bytes with
  | [b₀, b₁, b₂, b₃] =>
    have h₀ := b₀.toNat_lt
    have h₁ := b₁.toNat_lt
    have h₂ := b₂.toNat_lt
    have h₃ := b₃.toNat_lt
    simp only [elementBytes, ofElementBytes, UInt32.toUInt32_toInt32, List.foldr_cons,
      List.foldr_nil, List.cons.injEq, and_true, ← UInt8.toNat_inj, UInt32.toNat_toUInt8,
      UInt32.toNat_shiftRight, UInt32.toNat_ofNat', UInt32.toNat_ofNat,
      Nat.shiftRight_eq_div_pow, Nat.reduceMod, Nat.reducePow]
    omega

/-! ### Checks -/

namespace VectorAdd

@[simp]
theorem arguments_vector (args : Arguments) : arguments args.vector = .ok args := by
  simp only [arguments, Arguments.vector, ofElementBytes_elementBytes]
  rfl

theorem status_of_arguments {args : List Bound} {status : Status}
    (h : arguments args = .error status) :
    status = .invalidKernelArgs ∨ status = .invalidArgValue := by
  rw [arguments.eq_def] at h
  split at h
  · split at h
    · cases h
    · exact .inr (Except.error.inj h).symm
  · exact .inl (Except.error.inj h).symm

end VectorAdd

example : VectorAdd.arguments [.scalar [], .buffer 0, .buffer 0, .scalar []] =
    .error .invalidKernelArgs := rfl

example : VectorAdd.arguments [.buffer 0, .buffer 0, .buffer 0, .scalar []] =
    .error .invalidArgValue := rfl

/-! ### Kinds of entries -/

namespace Bound

/-- The entry is of the kind of the parameter: a buffer, or the bytes of one integer. -/
def Matches : Bound → ParamKind → Prop
  | buffer _, .buffer => True
  | scalar bytes, .int => bytes.length = 4
  | _, _ => False

variable {bound : Bound}

theorem matches_of (arg : Argument BufferId) : (of arg).Matches arg.kind := by
  cases arg with
  | buffer => trivial
  | int => rfl

theorem Matches.exists_buffer (h : bound.Matches .buffer) : ∃ id, bound = buffer id := by
  cases bound with
  | buffer id => exact ⟨id, rfl⟩
  | scalar => exact h.elim

theorem Matches.exists_int (h : bound.Matches .int) :
    ∃ value, bound = scalar (elementBytes value) := by
  cases bound with
  | buffer => exact h.elim
  | scalar bytes => exact ⟨ofElementBytes bytes, by rw [elementBytes_ofElementBytes h]⟩

theorem of_injective {arg arg' : Argument BufferId} (h : of arg = of arg') : arg = arg' := by
  match arg, arg' with
  | .buffer _, .buffer _ => exact congrArg Argument.buffer (buffer.inj h)
  | .int value, .int value' =>
    have hbytes := congrArg ofElementBytes (scalar.inj h)
    rw [ofElementBytes_elementBytes, ofElementBytes_elementBytes] at hbytes
    exact congrArg Argument.int hbytes

end Bound

/-! ### Kernels -/

namespace Kernel

variable {kernel old new : Kernel} {index : Nat} {arg : Argument BufferId}

/-- What is bound to a position. -/
def bound? (kernel : Kernel) (index : Nat) : Option Bound :=
  kernel.args[index]?.join

/-- There is an entry for each parameter, and what is bound is of the kind of its parameter. -/
structure Typed (kernel : Kernel) : Prop where
  length : kernel.args.length = vectorAddParams.length
  kinds : ∀ index bound, kernel.bound? index = some bound →
    ∃ kind, vectorAddParams[index]? = some kind ∧ bound.Matches kind

/-- Nothing is bound to a kernel that has just been made. -/
theorem bound?_empty (index : Nat) : bound? {} index = none := by
  rw [bound?, List.getElem?_replicate]
  split <;> rfl

theorem typed_empty : Typed {} :=
  ⟨List.length_replicate, fun index _ h => nomatch (bound?_empty index).symm.trans h⟩

theorem bind_eq_ok_iff :
    old.bind index arg = .ok new ↔
      vectorAddParams[index]? = some arg.kind ∧ new = ⟨old.args.set index (some (.of arg))⟩ := by
  rw [bind]
  cases vectorAddParams[index]? with
  | none => simp
  | some kind => by_cases h : kind = arg.kind <;> simp [h, eq_comm]

/-- Binding an argument leaves what is bound to other positions. -/
theorem Typed.bound?_bind (h : old.Typed) (hbind : old.bind index arg = .ok new) (position : Nat) :
    new.bound? position = if index = position then some (.of arg) else old.bound? position := by
  obtain ⟨hkind, rfl⟩ := bind_eq_ok_iff.1 hbind
  have hlt : index < old.args.length := h.length ▸ (List.getElem?_eq_some_iff.1 hkind).1
  simp only [bound?, List.getElem?_set, hlt, if_true]
  split <;> rfl

/-- Whatever is bound, it is of the kind of its parameter. -/
theorem Typed.bind (h : old.Typed) (hbind : old.bind index arg = .ok new) : new.Typed := by
  obtain ⟨hkind, hnew⟩ := bind_eq_ok_iff.1 hbind
  refine ⟨by rw [hnew, List.length_set, h.length], fun position bound hbound => ?_⟩
  rw [h.bound?_bind hbind] at hbound
  split at hbound <;> rename_i hposition
  · subst hposition
    exact ⟨arg.kind, hkind, Option.some.inj hbound ▸ Bound.matches_of arg⟩
  · exact h.kinds position bound hbound

/-! ### Vectors without gaps -/

variable {entries : List Bound} {args : Arguments}

theorem mapM_id_eq_some_iff {α : Type} {entries : List (Option α)} {values : List α} :
    entries.mapM id = some values ↔ entries = values.map some := by
  induction entries generalizing values with
  | nil => cases values <;> simp
  | cons entry entries ih =>
    cases entry with
    | none => cases values <;> simp
    | some value =>
      cases values with
      | nil => simp [Option.bind_eq_some_iff]
      | cons => simpa [Option.bind_eq_some_iff, ih] using and_comm

theorem mapM_id_eq_none_iff {α : Type} {entries : List (Option α)} :
    entries.mapM id = none ↔ none ∈ entries := by
  induction entries with
  | nil => simp
  | cons entry entries ih =>
    cases entry with
    | none => simp
    | some value => cases hrest : entries.mapM id <;> simpa [hrest] using ih

theorem arguments?_eq_some_iff :
    kernel.arguments? = some entries ↔ kernel.args = entries.map some :=
  mapM_id_eq_some_iff

theorem bound?_of_arguments? (h : kernel.arguments? = some entries) (index : Nat) :
    kernel.bound? index = entries[index]? := by
  rw [bound?, arguments?_eq_some_iff.1 h, List.getElem?_map]
  cases entries[index]? <;> rfl

/-- A vector without gaps is the vector of some arguments. -/
theorem Typed.exists_vector (h : kernel.Typed) (hentries : kernel.arguments? = some entries) :
    ∃ args : Arguments, entries = args.vector := by
  have hlength : entries.length = 4 := by
    rw [← List.length_map (f := some), ← arguments?_eq_some_iff.1 hentries, h.length]
    rfl
  have hmatches (index : Nat) (kind : ParamKind) (bound : Bound)
      (hkind : vectorAddParams[index]? = some kind) (hbound : entries[index]? = some bound) :
      bound.Matches kind := by
    obtain ⟨_, hkind', hmatches⟩ :=
      h.kinds index bound ((bound?_of_arguments? hentries index).trans hbound)
    rwa [Option.some.inj (hkind.symm.trans hkind')]
  match entries with
  | [a, b, c, count] =>
    obtain ⟨a, rfl⟩ := (hmatches 0 .buffer a rfl rfl).exists_buffer
    obtain ⟨b, rfl⟩ := (hmatches 1 .buffer b rfl rfl).exists_buffer
    obtain ⟨c, rfl⟩ := (hmatches 2 .buffer c rfl rfl).exists_buffer
    obtain ⟨count, rfl⟩ := (hmatches 3 .int count rfl rfl).exists_int
    exact ⟨⟨a, b, c, count⟩, rfl⟩

/-- There are arguments unless nothing is bound to some parameter. -/
theorem Typed.arguments?_eq_none_iff (h : kernel.Typed) :
    kernel.arguments? = none ↔ ∃ index < 4, kernel.bound? index = none := by
  have hlength : kernel.args.length = 4 := h.length
  rw [arguments?, mapM_id_eq_none_iff, List.mem_iff_getElem?]
  refine exists_congr fun index => ?_
  rw [bound?]
  rcases Nat.lt_or_ge index 4 with hlt | hle
  · simp [hlt, List.getElem?_eq_getElem (hlength ▸ hlt)]
  · simp [Nat.not_lt.2 hle, List.getElem?_eq_none (hlength ▸ hle)]

end Kernel

/-! ### Binding in order -/

/-- The arguments in the order of the parameters. -/
def Arguments.list (args : Arguments) : List (Argument BufferId) :=
  [.buffer args.a, .buffer args.b, .buffer args.c, .int args.count]

/-- The first of the arguments have been bound. -/
structure Kernel.HasBound (args : Arguments) (index : Nat) (kernel : Kernel) : Prop where
  typed : kernel.Typed
  bound : ∀ position < index, kernel.bound? position = args.vector[position]?

namespace Kernel.HasBound

variable {kernel : Kernel} {args : Arguments} {index : Nat}

theorem zero (h : kernel.Typed) (args : Arguments) : kernel.HasBound args 0 :=
  ⟨h, fun _ hlt => absurd hlt (Nat.not_lt_zero _)⟩

/-- The next argument can be bound. -/
theorem bind {arg : Argument BufferId} (h : kernel.HasBound args index)
    (harg : args.list[index]? = some arg) :
    ∃ new, kernel.bind index arg = .ok new ∧ new.HasBound args (index + 1) := by
  have hkind : vectorAddParams[index]? = some arg.kind := by
    rw [show vectorAddParams = args.list.map Argument.kind from rfl, List.getElem?_map, harg]
    rfl
  have hentry : args.vector[index]? = some (.of arg) := by
    rw [show args.vector = args.list.map .of from rfl, List.getElem?_map, harg]
    rfl
  have hbind : kernel.bind index arg = .ok ⟨kernel.args.set index (some (.of arg))⟩ :=
    bind_eq_ok_iff.2 ⟨hkind, rfl⟩
  refine ⟨_, hbind, h.typed.bind hbind, fun position hlt => ?_⟩
  rw [h.typed.bound?_bind hbind]
  split <;> rename_i hposition
  · rw [← hposition, hentry]
  · exact h.bound position (by omega)

theorem arguments?_eq (h : kernel.HasBound args 4) : kernel.arguments? = some args.vector := by
  have hlength : kernel.args.length = 4 := h.typed.length
  refine arguments?_eq_some_iff.2 (List.ext_getElem? fun position => ?_)
  rw [List.getElem?_map]
  rcases Nat.lt_or_ge position 4 with hlt | hle
  · have hentry : args.vector[position]? = some args.vector[position] :=
      List.getElem?_eq_getElem hlt
    rw [hentry]
    exact Option.join_eq_some_iff.1 ((h.bound position hlt).trans hentry)
  · rw [List.getElem?_eq_none (hlength ▸ hle), List.getElem?_eq_none hle]
    rfl

end Kernel.HasBound

end Offload.Host
