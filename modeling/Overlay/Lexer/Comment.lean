import Overlay.Lexer.Scanner

/-!
Comments.  A documentation comment stands for an attribute and keeps its text; every other comment
separates tokens like a blank.
-/

namespace Overlay.Lexer

/-- A documentation comment: its text, and whether it documents what surrounds it. -/
structure Doc where
  text : List Char
  inner : Bool
deriving DecidableEq, Repr

/-- Splits off the rest of the line: its text, the carriage return that ends it if there is one, and
what follows from the line feed on. -/
def lineText : List Char → List Char × List Char × List Char
  | [] => ([], [], [])
  | '\n' :: cs => ([], [], '\n' :: cs)
  | '\r' :: '\n' :: cs => ([], ['\r'], '\n' :: cs)
  | c :: cs => (c :: (lineText cs).1, (lineText cs).2)

/-- A block comment from somewhere inside on, with so many comments open: block comments nest. -/
def blockComment : Nat → Scanner
  | _, [] => none
  | depth, '/' :: '*' :: cs => Scanner.cons '/' (Scanner.cons '*' (blockComment (depth + 1) cs))
  | depth, '*' :: '/' :: cs =>
    if depth ≤ 1 then some (['*', '/'], cs)
    else Scanner.cons '*' (Scanner.cons '/' (blockComment (depth - 1) cs))
  | depth, c :: cs => Scanner.cons c (blockComment depth cs)

/-- A comment that documents nothing.  Four slashes or three asterisks open such a comment, too. -/
def plainComment : Scanner
  | '/' :: '/' :: '!' :: _ => none
  | '/' :: '/' :: '/' :: '/' :: cs =>
    let (text, ending, rest) := lineText cs
    some ('/' :: '/' :: '/' :: '/' :: text ++ ending, rest)
  | '/' :: '/' :: '/' :: _ => none
  | '/' :: '/' :: cs =>
    let (text, ending, rest) := lineText cs
    some ('/' :: '/' :: text ++ ending, rest)
  | '/' :: '*' :: '*' :: '/' :: rest => some (['/', '*', '*', '/'], rest)
  | '/' :: '*' :: '*' :: '*' :: cs => blockComment 0 ('/' :: '*' :: '*' :: '*' :: cs)
  | '/' :: '*' :: '*' :: _ => none
  | '/' :: '*' :: '!' :: _ => none
  | '/' :: '*' :: cs => blockComment 0 ('/' :: '*' :: cs)
  | _ => none

/-- Every carriage return is followed by a line feed. -/
def carriagesPaired : List Char → Bool
  | [] => true
  | '\r' :: '\n' :: cs => carriagesPaired cs
  | c :: cs => c ≠ '\r' && carriagesPaired cs

/-- A documentation comment: the characters it is written with, what it says, and what follows. -/
def docComment? (cs : List Char) : Option (List Char × Doc × List Char) := do
  let (taken, doc, rest) ←
    match cs with
    | '/' :: '/' :: '!' :: rest =>
      let (text, ending, rest) := lineText rest
      some ('/' :: '/' :: '!' :: text ++ ending, (⟨text, true⟩ : Doc), rest)
    | '/' :: '*' :: '!' :: _ => do
      let (taken, rest) ← blockComment 0 cs
      some (taken, ⟨(taken.drop 3).take (taken.length - 5), true⟩, rest)
    | '/' :: '/' :: '/' :: rest =>
      if rest.head? = some '/' then none
      else
        let (text, ending, rest) := lineText rest
        some ('/' :: '/' :: '/' :: text ++ ending, ⟨text, false⟩, rest)
    | '/' :: '*' :: '*' :: rest =>
      if rest.head? = some '*' then none
      else do
        let (taken, rest) ← blockComment 0 cs
        some (taken, ⟨(taken.drop 3).take (taken.length - 5), false⟩, rest)
    | _ => none
  if carriagesPaired doc.text then some (taken, doc, rest) else none

end Overlay.Lexer
