import Overlay.Lexer.Forest

/-!
Substitution of named fragments.  A fragment is a text of its own; each identifier that spells its
name is replaced by its tokens, kept together in an invisible group.  Fragments may mention each
other.
-/

namespace Overlay

/-- Named pieces of text, by the spelling of the identifiers that they replace. -/
abbrev Fragments := List (String × String)

namespace Fragments

mutual

/-- Replaces identifiers in a tree.  `replace` answers with a replacement, with nothing for an
identifier that stays, or not at all for a fragment that is no sequence of tokens. -/
def substituteTree (replace : Ident → Span → Option (Option Tree)) : Tree → Option Tree
  | .leaf (.ident name) span => do
    match ← replace name span with
    | some tree => return tree
    | none => return .leaf (.ident name) span
  | .leaf a span => some (.leaf a span)
  | .group d content opening closing => do
    return .group d (← substituteAll replace content) opening closing

/-- Replaces identifiers in a sequence of trees. -/
def substituteAll (replace : Ident → Span → Option (Option Tree)) :
    List Tree → Option (List Tree)
  | [] => some []
  | t :: ts => do return (← substituteTree replace t) :: (← substituteAll replace ts)

end

/-- What replaces an identifier, with fragments nested up to the given depth. -/
def replacement (fragments : Fragments) : Nat → Ident → Span → Option (Option Tree)
  | depth, name, span =>
    match fragments.lookup name.text with
    | none => some none
    | some text =>
      match depth with
      | 0 => none
      | depth + 1 => do
        let content ← substituteAll (fragments.replacement depth) (← Lexer.forest? text)
        return some (.group .invisible content span span)

/-- Replaces every identifier that names a fragment.  A chain of fragments that mention each other
is at most as long as there are fragments. -/
def substitute (fragments : Fragments) (trees : List Tree) : Option (List Tree) :=
  substituteAll (fragments.replacement fragments.length) trees

end Fragments

end Overlay
