import Overlay.Reader.Basic

/-!
Literals as the grammar sees them: a number may carry a minus sign, and `true` and `false` count.
-/

namespace Overlay

/-- A literal as spelled, with its place. -/
structure Literal where
  text : String
  span : Span

namespace Literal

/-- The code of a literal: a minus sign is a token of its own. -/
def code (l : Literal) : Code :=
  match l.text.toList with
  | '-' :: digits => [.punct '-', .literal (String.ofList digits)]
  | _ => if l.text = "true" || l.text = "false" then [.word l.text] else [.literal l.text]

end Literal

namespace Reader

/-- The stretch that a sequence of trees covers, from its first to its last token. -/
def coverOf (trees : List Tree) : Span :=
  match trees.head?, trees.getLast? with
  | some first, some last => first.span.cover last.span
  | _, _ => default

/-- A literal. -/
def literal : Reader Literal := do
  let (text, taken) ← recorded (take "literal" Cursor.signedLiteral?)
  return ⟨text, coverOf taken⟩

end Reader

end Overlay
