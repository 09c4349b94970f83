import Overlay.Source.Span
import Overlay.Token.Basic

/-!
Token trees that know where in a source text they stand.  Reading works on these, so that a
complaint can point at a place; forgetting the places gives plain tokens back.
-/

namespace Overlay

/-- A token tree with its places: that of an atom, or those of the two brackets of a group. -/
inductive Tree where
  | leaf (atom : Atom) (span : Span)
  | group (delimiter : Delimiter) (content : List Tree) (opening closing : Span)
deriving Repr, Inhabited

namespace Tree

/-- The whole stretch of a tree. -/
def span : Tree → Span
  | leaf _ s => s
  | group _ _ opening closing => opening.cover closing

/-- The first token of a tree: a complaint about a group points at its opening bracket. -/
def headSpan : Tree → Span
  | leaf _ s => s
  | group _ _ opening _ => opening

mutual

/-- The tree without its places. -/
def token : Tree → Token
  | leaf a _ => .atom a
  | group d content _ _ => .group d (codeOf content)

/-- The trees without their places. -/
def codeOf : List Tree → Code
  | [] => []
  | t :: ts => t.token :: codeOf ts

end

mutual

/-- The number of atoms and groups in a tree. -/
def size : Tree → Nat
  | leaf _ _ => 1
  | group _ content _ _ => 1 + sizeOf content

/-- The number of atoms and groups in a list of trees. -/
def sizeOf : List Tree → Nat
  | [] => 0
  | t :: ts => t.size + sizeOf ts

end

end Tree

end Overlay
