/-!
Places in a source text.  Lines count from one and columns from zero, in characters, so that a
place can be shown to a reader of the text.
-/

namespace Overlay

/-- A place between two characters of a text. -/
structure Position where
  line : Nat
  column : Nat
deriving DecidableEq, Repr, Inhabited

namespace Position

/-- Where a text begins. -/
def origin : Position := ⟨1, 0⟩

/-- The place behind one more character: a line feed opens the next line. -/
def after (p : Position) (c : Char) : Position :=
  if c = '\n' then ⟨p.line + 1, 0⟩ else ⟨p.line, p.column + 1⟩

/-- The place behind a stretch of characters. -/
def afterAll (p : Position) (cs : List Char) : Position := cs.foldl after p

end Position

/-- A stretch of a text, from `start` up to `stop`. -/
structure Span where
  start : Position
  stop : Position
deriving DecidableEq, Repr, Inhabited

namespace Span

/-- The stretch that begins where `a` begins and ends where `b` ends. -/
def cover (a b : Span) : Span := ⟨a.start, b.stop⟩

end Span

end Overlay
