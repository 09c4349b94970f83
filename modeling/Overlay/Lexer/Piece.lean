import Overlay.Lexer.Comment
import Overlay.Lexer.Literal
import Overlay.Source.Span

/-!
The flat sequence of pieces that a text consists of: atoms, brackets and documentation comments.
Blanks and other comments are dropped here.
-/

namespace Overlay.Lexer

/-- One piece of a text. -/
inductive Piece where
  | atom (atom : Atom)
  | open (delimiter : Delimiter)
  | close (delimiter : Delimiter)
  | doc (doc : Doc)
deriving DecidableEq, Repr

/-- What stands at the front of a text that is not empty. -/
inductive Front where
  | gap
  | piece (piece : Piece)
deriving DecidableEq, Repr

/-- The visible brackets. -/
def bracket? : Char → Option Piece
  | '(' => some (.open .parenthesis)
  | '[' => some (.open .bracket)
  | '\x7b' => some (.open .brace)
  | ')' => some (.close .parenthesis)
  | ']' => some (.close .bracket)
  | '\x7d' => some (.close .brace)
  | _ => none

/-- An atom at the front.  Literals go first: some of them begin with letters or an
apostrophe. -/
def atom? (cs : List Char) : Option (Atom × List Char × List Char) :=
  match literal cs with
  | some (taken, rest) => some (.literal (String.ofList taken), taken, rest)
  | none =>
    match punct? cs with
    | some (c, spacing, rest) => some (.punct c spacing, [c], rest)
    | none =>
      match word? cs with
      | some (name, rest) => some (.ident name, name.text.toList, rest)
      | none => none

/-- Splits the front of a text off: what it is, the characters it takes, and what follows. -/
def front? (cs : List Char) : Option (Front × List Char × List Char) :=
  match plainComment cs with
  | some (taken, rest) => some (.gap, taken, rest)
  | none =>
    match docComment? cs with
    | some (taken, doc, rest) => some (.piece (.doc doc), taken, rest)
    | none =>
      match cs with
      | [] => none
      | c :: rest =>
        if Unicode.isBlank c then some (.gap, [c], rest)
        else if errorMarker.isPrefixOf cs then
          some (.piece (.atom (.literal (String.ofList errorMarker))), errorMarker,
            cs.drop errorMarker.length)
        else
          match bracket? c with
          | some piece => some (.piece piece, [c], rest)
          | none =>
            match atom? cs with
            | some (atom, taken, rest) => some (.piece (.atom atom), taken, rest)
            | none => none

/-- The pieces of a text that begins at the given place.  Every round takes at least one character,
so as many rounds as there are characters are enough. -/
def piecesFrom : Nat → Position → List Char → Option (List (Piece × Span))
  | _, _, [] => some []
  | 0, _, _ :: _ => none
  | fuel + 1, start, cs@(_ :: _) => do
    let (front, taken, rest) ← front? cs
    let stop := start.afterAll taken
    let more ← piecesFrom fuel stop rest
    match front with
    | .gap => return more
    | .piece piece => return (piece, ⟨start, stop⟩) :: more

/-- The pieces of a whole text.  A byte order mark at its very beginning is passed over. -/
def pieces (cs : List Char) : Option (List (Piece × Span)) :=
  match cs with
  | [] => some []
  | c :: rest =>
    if c.toNat = 0xfeff then piecesFrom rest.length (Position.origin.after c) rest
    else piecesFrom cs.length Position.origin cs

end Overlay.Lexer
