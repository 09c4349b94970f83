import Overlay.Lexer.Number
import Overlay.Text.Quoted

/-!
Literals: quoted ones of every flavour, characters, bytes and numbers.
-/

namespace Overlay.Lexer

open Text (Flavour Phase)

/-- A literal may be followed at once by an identifier, its suffix. -/
def suffix : Scanner := Scanner.optional identChars

/-- A quoted literal behind its opening quote. -/
def quotedTail (flavour : Flavour) : Scanner := fun cs =>
  (Text.scanQuoted flavour .plain cs).map fun s => (s.written, s.rest)

/-- A raw literal behind its letters: hash signs, quote, text, quote, hash signs. -/
def rawTail (flavour : Flavour) : Scanner := fun cs => do
  let (hashes, body) ← Text.rawOpening? cs
  let scanned ← Text.scanRaw flavour hashes body
  return (List.replicate hashes '#' ++ '"' :: scanned.written, scanned.rest)

/-- A text, byte or terminated string, quoted or raw. -/
def string : Scanner
  | '"' :: cs => Scanner.cons '"' (quotedTail .text cs)
  | 'r' :: cs => Scanner.cons 'r' (rawTail .text cs)
  | 'b' :: '"' :: cs => Scanner.cons 'b' (Scanner.cons '"' (quotedTail .bytes cs))
  | 'b' :: 'r' :: cs => Scanner.cons 'b' (Scanner.cons 'r' (rawTail .bytes cs))
  | 'c' :: '"' :: cs => Scanner.cons 'c' (Scanner.cons '"' (quotedTail .terminated cs))
  | 'c' :: 'r' :: cs => Scanner.cons 'c' (Scanner.cons 'r' (rawTail .terminated cs))
  | _ => none

/-- The rest of one escape, up to the end of the character that it stands for.  A line end is no
escape here. -/
def escapeTail (flavour : Flavour) : Phase → Scanner
  | _, [] => none
  | phase, c :: cs =>
    match phase.step flavour c with
    | some (.plain, _) => some ([c], cs)
    | some (.gap, _) | some (.gapCarriage, _) | none => none
    | some (next, _) => Scanner.cons c (escapeTail flavour next cs)

/-- One character, raw or escaped, and the closing apostrophe. -/
def charTail (flavour : Flavour) : Scanner
  | [] => none
  | '\\' :: cs =>
    Scanner.cons '\\' (Scanner.andThen (escapeTail flavour .escape) (Scanner.exactly ['\'']) cs)
  | c :: '\'' :: cs => if Phase.admits flavour c then some ([c, '\''], cs) else none
  | _ => none

/-- A character or a byte between apostrophes. -/
def character : Scanner
  | '\'' :: cs => Scanner.cons '\'' (charTail .text cs)
  | 'b' :: '\'' :: cs => Scanner.cons 'b' (Scanner.cons '\'' (charTail .bytes cs))
  | _ => none

/-- The marker that stands for a place whose expansion has failed. -/
def errorMarker : List Char := ['(', '/', '*', 'E', 'R', 'R', 'O', 'R', '*', '/', ')']

/-- A literal with its suffix. -/
def literal : Scanner := fun cs =>
  ((Scanner.andThen string suffix cs).orElse fun _ =>
    (Scanner.andThen character suffix cs).orElse fun _ => number cs)

end Overlay.Lexer
