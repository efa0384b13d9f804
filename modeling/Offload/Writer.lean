/-!
# Writers

A writer is a state that text can be written to in some monad. It may refuse a text, or accept
only the first part of it. `Sink` is the writer that keeps what it accepts; it can be given a limit
on the lines and one on the flushes, so that a sweep can be made to fail at each of its writes.
-/

namespace Offload

/-- Something that takes text in the monad `m`. A failure comes with its reason. -/
class Writer (m : Type → Type) (ω : Type) where
  /-- Writes a text. -/
  write : String → ω → m (Except String Unit × ω)
  /-- Sees to it that all that was written has arrived. -/
  flush : ω → m (Except String Unit × ω)

/-- The first lines of a text, each with the newline at its end. -/
def firstLines : Nat → List Char → List Char
  | _, [] => []
  | 0, _ :: _ => []
  | count + 1, c :: text =>
    c :: firstLines (if c = '\n' then count else count + 1) text

/-- A writer that keeps the text. -/
structure Sink where
  /-- The text accepted so far. -/
  text : String := ""
  /-- How many more lines are accepted, if there is a limit. -/
  lines : Option Nat := none
  /-- How many more flushes are accepted, if there is a limit. -/
  flushes : Option Nat := none
  deriving DecidableEq, Repr

namespace Sink

/-- Accepts the lines that there is room for. Without room any text is refused but the empty
    one. -/
def write (text : String) (sink : Sink) : Except String Unit × Sink :=
  match sink.lines with
  | none => (.ok (), { sink with text := sink.text ++ text })
  | some room =>
    let accepted := firstLines room text.toList
    let sink :=
      { sink with
        text := sink.text ++ String.ofList accepted
        lines := some (room - accepted.count '\n') }
    (if accepted = text.toList then .ok () else .error "sink full", sink)

/-- Accepts a flush if there is room for one. -/
def flush (sink : Sink) : Except String Unit × Sink :=
  match sink.flushes with
  | none => (.ok (), sink)
  | some 0 => (.error "flush refused", sink)
  | some (room + 1) => (.ok (), { sink with flushes := some room })

instance {m : Type → Type} [Monad m] : Writer m Sink where
  write text sink := pure (sink.write text)
  flush sink := pure sink.flush

end Sink

end Offload
