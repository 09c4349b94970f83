import Overlay.Lexer.Piece
import Overlay.Text.Escape
import Overlay.Token.Tree

/-!
From a text to token trees: brackets are matched, and a documentation comment becomes the attribute
that it abbreviates.
-/

namespace Overlay.Lexer

/-- The attribute `#[doc = "…"]` that a documentation comment stands for.  All its tokens stand
where the comment stands. -/
def docTrees (doc : Doc) (span : Span) : List Tree :=
  [.leaf (.punct '#' .alone) span]
    ++ (if doc.inner then [.leaf (.punct '!' .alone) span] else [])
    ++ [.group .bracket
          [.leaf (.ident ⟨"doc", false⟩) span, .leaf (.punct '=' .alone) span,
            .leaf (.literal (Text.quote (String.ofList doc.text))) span]
          span span]

/-- A bracket that is still open: which one, where, and the trees in front of it, last first. -/
structure Pending where
  delimiter : Delimiter
  opening : Span
  before : List Tree

/-- Matches the brackets of a sequence of pieces.  `done` holds the finished trees of the innermost
open bracket, last first. -/
def nest : List Pending → List Tree → List (Piece × Span) → Option (List Tree)
  | [], done, [] => some done.reverse
  | _ :: _, _, [] => none
  | stack, done, (.atom a, span) :: rest => nest stack (.leaf a span :: done) rest
  | stack, done, (.doc d, span) :: rest => nest stack ((docTrees d span).reverse ++ done) rest
  | stack, done, (.open d, span) :: rest => nest (⟨d, span, done⟩ :: stack) [] rest
  | [], _, (.close _, _) :: _ => none
  | pending :: stack, done, (.close d, span) :: rest =>
    if pending.delimiter = d then
      nest stack (.group d done.reverse pending.opening span :: pending.before) rest
    else none

/-- The token trees of a text, or nothing where it has no tokens or unmatched brackets. -/
def forest? (text : String) : Option (List Tree) := do
  nest [] [] (← pieces text.toList)

end Overlay.Lexer
