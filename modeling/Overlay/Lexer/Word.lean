import Overlay.Lexer.Scanner
import Overlay.Token.Basic
import Overlay.Unicode.Classes

/-!
Identifiers and keywords, the apostrophe of a lifetime, and other punctuation.
-/

namespace Overlay.Lexer

/-- The characters of an identifier, without the mark of a raw one. -/
def identChars : Scanner
  | [] => none
  | c :: cs =>
    if Unicode.isIdentStart c then
      some (c :: cs.takeWhile Unicode.isIdentContinue, cs.dropWhile Unicode.isIdentContinue)
    else none

/-- Names that cannot be made raw. -/
def neverRaw : List String := ["_", "super", "self", "Self", "crate"]

/-- An identifier, raw or not, and what follows. -/
def identifier? : List Char → Option (Ident × List Char)
  | 'r' :: '#' :: cs => do
    let (name, rest) ← identChars cs
    if String.ofList name ∈ neverRaw then none
    else return (⟨String.ofList name, true⟩, rest)
  | cs => do
    let (name, rest) ← identChars cs
    return (⟨String.ofList name, false⟩, rest)

/-- Openings of literals that begin with a letter: no identifier is read there, even where the
literal turns out to be malformed. -/
def literalOpenings : List (List Char) :=
  [['r', '"'], ['r', '#', '"'], ['r', '#', '#'], ['b', '"'], ['b', '\''], ['b', 'r', '"'],
   ['b', 'r', '#'], ['c', '"'], ['c', 'r', '"'], ['c', 'r', '#']]

/-- An identifier where no literal begins. -/
def word? (cs : List Char) : Option (Ident × List Char) :=
  if literalOpenings.any (·.isPrefixOf cs) then none else identifier? cs

/-- The punctuation characters. -/
def punctuation : List Char :=
  ['~', '!', '@', '#', '$', '%', '^', '&', '*', '-', '=', '+', '|', ';', ':', ',', '<', '.', '>',
   '/', '?', '\'']

/-- Whether a punctuation character stands at the front; the slash of a comment is none. -/
def startsPunct : List Char → Bool
  | '/' :: '/' :: _ => false
  | '/' :: '*' :: _ => false
  | c :: _ => punctuation.contains c
  | [] => false

/-- The name of a lifetime follows its apostrophe at once.  Another apostrophe behind the name
would make it a character, and a hash sign a reserved spelling. -/
def startsLifetime (cs : List Char) : Bool :=
  match identifier? cs with
  | none => false
  | some (_, '\'' :: _) => false
  | some (name, '#' :: _) => name.raw
  | some _ => true

/-- A punctuation character with its spacing.  The apostrophe is always joint: it opens a
lifetime. -/
def punct? : List Char → Option (Char × Spacing × List Char)
  | [] => none
  | c :: cs =>
    if startsPunct (c :: cs) then
      if c = '\'' then
        if startsLifetime cs then some (c, .joint, cs) else none
      else some (c, if startsPunct cs then .joint else .alone, cs)
    else none

end Overlay.Lexer
