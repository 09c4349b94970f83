import Overlay.Derive.Implementation
import Overlay.Merge.Slots

/-!
What the generated methods do when they run.  Taking a field out is destructive, so the order in
which a method takes fields could matter; running it keeps track of what is left in both records.
-/

namespace Overlay

/-- The two records that a method works on, in their present state. -/
structure Frame (V : Type) where
  receiver : Slots V
  override : Slots V

variable {V : Type}

namespace Frame

/-- Takes a field out of one of the records. -/
def take (source : Source) (field : Ident) (frame : Frame V) : Option V × Frame V :=
  match source with
  | .receiver =>
    let (held, rest) := frame.receiver.take field
    (held, { frame with receiver := rest })
  | .override =>
    let (held, rest) := frame.override.take field
    (held, { frame with override := rest })

end Frame

/-- Evaluates a content.  The second part of an `or` is evaluated even where it is not needed. -/
def Content.eval : Content → Frame V → Option V × Frame V
  | .take source field, frame => frame.take source field
  | .or first second, frame =>
    let (preferred, frame) := first.eval frame
    let (fallback, frame) := second.eval frame
    (preferred.or fallback, frame)

/-- Evaluates a record literal, one field after the other.  Markers hold nothing. -/
def Entry.evalAll : List Entry → Frame V → Slots V × Frame V
  | [], frame => ([], frame)
  | ⟨_, .marker⟩ :: rest, frame => evalAll rest frame
  | ⟨label, .content c⟩ :: rest, frame =>
    let (held, frame) := c.eval frame
    let (slots, frame) := evalAll rest frame
    ((label, held) :: slots, frame)

/-- Runs statements, and keeps the value that the last of them gave. -/
def Statement.runAll : List Statement → Frame V → Option (Slots V) → Frame V × Option (Slots V)
  | [], frame, value => (frame, value)
  | .ignore _ :: rest, frame, value => runAll rest frame value
  | .result entries :: rest, frame, _ =>
    let (slots, frame) := Entry.evalAll entries frame
    runAll rest frame (some slots)
  | .assign entries :: rest, frame, value =>
    let (slots, frame) := Entry.evalAll entries frame
    runAll rest { frame with receiver := slots } value

namespace Operation

/-- Runs a method on a receiver and an override. -/
def run (op : Operation) (receiver override : Slots V) : Frame V × Option (Slots V) :=
  Statement.runAll op.body ⟨receiver, override⟩ none

/-- The record that a method call leaves its caller with: the value that it returns, or else the
receiver that it was handed. -/
def apply (op : Operation) (receiver override : Slots V) : Slots V :=
  let (frame, value) := op.run receiver override
  if op.returnsSelf then value.getD frame.receiver else frame.receiver

end Operation

end Overlay
