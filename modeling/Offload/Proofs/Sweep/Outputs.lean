import Mathlib.Data.List.Basic
import Offload.Writer

/-!
# Outputs

What a sweep gives to its writer are texts and flushes, here called outputs. A writer takes outputs
one after the other until it refuses one (`Writer.giveAll`). Where it accepts bytes in order
(`Writer.Ordered`), what it has accepted after that is all the text, or, if it has refused an
output, the first bytes of it (`Writer.Ordered.giveAll`). A `Sink` is such a writer
(`Sink.ordered`).
-/

namespace Offload

/-- What is given to a writer. -/
inductive Output where
  /-- A text to be written. -/
  | text (text : String)
  /-- The request that all that was written arrives. -/
  | flush
  deriving DecidableEq, Repr

/-- The bytes of a text. -/
def textBytes (text : String) : List UInt8 :=
  text.toByteArray.data.toList

theorem textBytes_append (text text' : String) :
    textBytes (text ++ text') = textBytes text ++ textBytes text' := by
  simp [textBytes]

namespace Output

/-- The text of an output. A flush has none. -/
def toText : Output → String
  | .text content => content
  | flush => ""

/-- The text of outputs one after the other. -/
def textOf (outputs : List Output) : String :=
  String.join (outputs.map toText)

@[simp]
theorem textOf_nil : textOf [] = "" := rfl

@[simp]
theorem textOf_cons (output : Output) (outputs : List Output) :
    textOf (output :: outputs) = output.toText ++ textOf outputs := by
  simp [textOf]

@[simp]
theorem textOf_append (outputs outputs' : List Output) :
    textOf (outputs ++ outputs') = textOf outputs ++ textOf outputs' := by
  induction outputs with
  | nil => simp
  | cons output outputs ih => simp [ih, String.append_assoc]

end Output

namespace Writer

variable {ω : Type} [Writer Id ω]

/-- Gives one output to a writer. -/
def give : Output → ω → Except String Unit × ω
  | .text text, writer => Writer.write (m := Id) text writer
  | .flush, writer => Writer.flush (m := Id) writer

/-- Gives outputs to a writer, one after the other, until it refuses one. -/
def giveAll : List Output → ω → Except String Unit × ω
  | [], writer => (.ok (), writer)
  | output :: outputs, writer =>
    match give output writer with
    | (.ok (), writer) => giveAll outputs writer
    | (.error reason, writer) => (.error reason, writer)

/-- A writer that refuses nothing, whatever it is given. -/
def Unfailing (writer : ω) : Prop :=
  ∀ outputs, (giveAll outputs writer).1 = .ok ()

/-- The bytes that a writer has accepted are those that it was given, in order. Where it refuses a
    text, it may have accepted the first bytes of it. -/
structure Ordered (accepted : ω → List UInt8) : Prop where
  write : ∀ text writer after, Writer.write (m := Id) text writer = (.ok (), after) →
    accepted after = accepted writer ++ textBytes text
  refuse : ∀ text writer reason after, Writer.write (m := Id) text writer = (.error reason, after) →
    ∃ part, part <+: textBytes text ∧ accepted after = accepted writer ++ part
  flush : ∀ writer : ω, accepted (Writer.flush (m := Id) writer).2 = accepted writer

theorem giveAll_append (outputs outputs' : List Output) (writer : ω) :
    giveAll (outputs ++ outputs') writer =
      match giveAll outputs writer with
      | (.ok (), writer) => giveAll outputs' writer
      | (.error reason, writer) => (.error reason, writer) := by
  induction outputs generalizing writer with
  | nil => rfl
  | cons output outputs ih =>
    rw [List.cons_append, giveAll, giveAll]
    rcases give output writer with ⟨_ | _, after⟩
    · rfl
    · exact ih after

/-- Nothing is given after what was refused. -/
theorem giveAll_refused {outputs : List Output} {refused : Output} {writer middle last : ω}
    {reason : String} (hgiven : giveAll outputs writer = (.ok (), middle))
    (hrefused : give refused middle = (.error reason, last)) (others : List Output) :
    giveAll (outputs ++ refused :: others) writer = (.error reason, last) := by
  rw [giveAll_append, hgiven]
  simp only [giveAll, hrefused]

namespace Ordered

variable {accepted : ω → List UInt8}

theorem give (h : Ordered accepted) {output : Output} {writer after : ω}
    (hgive : give output writer = (.ok (), after)) :
    accepted after = accepted writer ++ textBytes output.toText := by
  cases output with
  | text text => exact h.write text writer after hgive
  | flush =>
    obtain rfl : (Writer.flush (m := Id) writer).2 = after := congrArg Prod.snd hgive
    simp [h.flush, Output.toText, textBytes]

theorem give_refused (h : Ordered accepted) {output : Output} {writer after : ω} {reason : String}
    (hgive : Writer.give output writer = (.error reason, after)) :
    ∃ part, part <+: textBytes output.toText ∧ accepted after = accepted writer ++ part := by
  cases output with
  | text text => exact h.refuse text writer reason after hgive
  | flush =>
    obtain rfl : (Writer.flush (m := Id) writer).2 = after := congrArg Prod.snd hgive
    exact ⟨[], List.nil_prefix, by simp [h.flush]⟩

/-- A writer has accepted all the text, or, if it has refused an output, the first bytes of it. -/
theorem giveAll (h : Ordered accepted) (outputs : List Output) (writer : ω) :
    ∃ part, accepted (giveAll outputs writer).2 = accepted writer ++ part ∧
      part <+: textBytes (Output.textOf outputs) ∧
      ((Writer.giveAll outputs writer).1 = .ok () → part = textBytes (Output.textOf outputs)) := by
  induction outputs generalizing writer with
  | nil => exact ⟨[], by simp [Writer.giveAll], List.nil_prefix, fun _ => rfl⟩
  | cons output outputs ih =>
    rw [Writer.giveAll, Output.textOf_cons, textBytes_append]
    rcases hgive : Writer.give output writer with ⟨_ | _, after⟩
    · obtain ⟨part, hpart, haccepted⟩ := h.give_refused hgive
      exact ⟨part, haccepted, hpart.trans (List.prefix_append _ _), nofun⟩
    · obtain ⟨part, haccepted, hpart, hall⟩ := ih after
      refine ⟨textBytes output.toText ++ part, ?_, List.prefix_append_right_inj _ |>.2 hpart,
        fun hok => by rw [hall hok]⟩
      rw [haccepted, h.give hgive, List.append_assoc]

/-- A writer that has refused nothing has accepted all the text. -/
theorem giveAll_ok (h : Ordered accepted) {outputs : List Output} {writer : ω}
    (hgiven : (Writer.giveAll outputs writer).1 = .ok ()) :
    accepted (Writer.giveAll outputs writer).2 =
      accepted writer ++ textBytes (Output.textOf outputs) := by
  obtain ⟨part, haccepted, -, hall⟩ := h.giveAll outputs writer
  rw [haccepted, hall hgiven]

end Ordered

end Writer

namespace Sink

theorem firstLines_isPrefix (count : Nat) (text : List Char) : firstLines count text <+: text := by
  fun_induction firstLines count text with
  | case1 => exact List.prefix_rfl
  | case2 => exact List.nil_prefix
  | case3 count c text ih => exact (List.prefix_cons_inj c).2 ih

theorem ordered : Writer.Ordered fun sink : Sink => textBytes sink.text := by
  have hbytes {part text : List Char} (h : part <+: text) :
      textBytes (String.ofList part) <+: textBytes (String.ofList text) := by
    obtain ⟨rest, rfl⟩ := h
    rw [String.ofList_append, textBytes_append]
    exact List.prefix_append _ _
  refine ⟨fun text sink after h => ?_, fun text sink reason after h => ?_, fun sink => ?_⟩
  · change sink.write text = _ at h
    rw [write] at h
    split at h
    · obtain rfl := (Prod.mk.inj h).2
      exact textBytes_append _ _
    · rename_i room _
      obtain ⟨houtcome, rfl⟩ := Prod.mk.inj h
      have hall : firstLines room text.toList = text.toList := by
        by_contra hpart
        rw [if_neg hpart] at houtcome
        exact nomatch houtcome
      simp only [hall, String.ofList_toList, textBytes_append]
  · change sink.write text = _ at h
    rw [write] at h
    split at h
    · exact nomatch (Prod.mk.inj h).1
    · rename_i room _
      obtain rfl := (Prod.mk.inj h).2
      refine ⟨_, ?_, textBytes_append _ _⟩
      have hprefix := hbytes (firstLines_isPrefix room text.toList)
      rwa [String.ofList_toList] at hprefix
  · change textBytes (sink.flush).2.text = _
    rw [flush]
    split <;> rfl

/-- A sink without limits refuses nothing. -/
theorem unfailing {sink : Sink} (hlines : sink.lines = none) (hflushes : sink.flushes = none) :
    Writer.Unfailing sink := by
  intro outputs
  induction outputs generalizing sink with
  | nil => rfl
  | cons output outputs ih =>
    rw [Writer.giveAll]
    cases output with
    | text text =>
      have hgive :
          Writer.give (.text text) sink = (.ok (), { sink with text := sink.text ++ text }) := by
        change sink.write text = _
        rw [write, hlines]
      rw [hgive]
      exact ih hlines hflushes
    | flush =>
      have hgive : Writer.give .flush sink = (.ok (), sink) := by
        change sink.flush = _
        rw [flush, hflushes]
      rw [hgive]
      exact ih hlines hflushes

end Sink

end Offload
