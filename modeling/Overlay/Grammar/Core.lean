import Overlay.Reader.Basic
import Overlay.Syntax.Declaration
import Overlay.Syntax.Parentheses

/-!
The grammar of Rust types and expressions refers to itself everywhere.  Each of its rules is written
as a plain function of a `Grammar`, a record of readers for the parts that it refers to; the knot is
tied once, by the depth of nesting that the input allows.
-/

namespace Overlay

/-- What about a pattern decides where it may stand. -/
inductive PatternKind where
  /-- Two dots: any number of further items. -/
  | rest
  /-- A range; a complete one has both of its ends. -/
  | range (complete : Bool)
  /-- A constant block; its code without the attributes inside. -/
  | constant (plain : Code)
  /-- A pattern that is kept as it was written. -/
  | verbatim
  | other

/-- A pattern: the code that it prints as, and its kind. -/
structure Pattern where
  code : Code
  kind : PatternKind := .other

/-- Readers for the parts that rules of the grammar refer to. -/
structure Grammar where
  /-- A type; `plus` says whether `A + B` may stand here, `groupArgs` whether arguments may follow
  a type in an invisible group. -/
  ty : (plus groupArgs : Bool) → Reader Ty
  /-- A bound; `capture` and `const` say whether `use<…>` and `const` may stand here. -/
  bound : (capture const : Bool) → Reader Bound
  /-- A binder `for<…>`. -/
  binder : Reader Code
  /-- An expression; `struct` says whether a struct literal may stand here. -/
  expr : (struct : Bool) → Reader Expr
  /-- An expression that no binary operator belongs to. -/
  unary : (struct : Bool) → Reader Expr
  /-- The operators of at least this precedence behind an expression. -/
  climb : Expr → (struct : Bool) → Precedence → Reader Expr
  /-- An expression where a statement or a match arm may end with a closing brace. -/
  early : Reader Expr
  /-- Statements up to the end of their braces. -/
  statements : Reader Code
  /-- A pattern; `alternatives` says whether `A | B` may stand here. -/
  pattern : (alternatives : Bool) → Reader Pattern
  /-- Named fields between braces, and whether a comma follows the last. -/
  fields : Reader (List Field × Bool)
  /-- An item with its attributes. -/
  item : Reader Code
  /-- What is imported; `rooted` says whether a tree in braces may begin with `::`.  No code stands
  for one that does. -/
  useTree : (rooted : Bool) → Reader (Option Code)

end Overlay
