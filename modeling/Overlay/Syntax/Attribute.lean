import Overlay.Syntax.Type
import Overlay.Token.Tree

/-!
Outer attributes.  Their arguments keep their places, because reading them may go wrong.
-/

namespace Overlay

/-- What follows the path of an attribute. -/
inductive AttributeArgs where
  | bare
  /-- Bracketed arguments, unread, with the place of the closing bracket. -/
  | list (delimiter : Delimiter) (content : List Tree) (closing : Span)
  /-- `= value`, with the place of the equals sign. -/
  | value (equals : Span) (code : Code)

/-- An attribute: a path, its place, and the arguments. -/
structure Attribute where
  path : Path
  span : Span
  args : AttributeArgs

namespace Attribute

/-- The code of the arguments. -/
def argsCode : AttributeArgs → Code
  | .bare => []
  | .list delimiter content _ => [.group delimiter (Tree.codeOf content)]
  | .value _ code => .punct '=' :: code

/-- The code of an attribute. -/
def code (a : Attribute) : Code :=
  [.punct '#', .group .bracket (a.path.code ++ argsCode a.args)]

/-- The attribute's path is this one name, without `r#` and without `::` in front. -/
def isNamed (a : Attribute) (name : String) : Bool :=
  match a.path with
  | .mk false [.mk ident .none] => ident = ⟨name, false⟩
  | _ => false

end Attribute

end Overlay
