import Overlay.Syntax.Ending
import Overlay.Syntax.Precedence

/-!
Expressions.  What stands in brackets of its own is kept as the code that it prints as; the parts
that are held together by precedence alone are kept apart, since parentheses may have to be written
around them.
-/

namespace Overlay

/-- What about an expression without open parts decides where it may stand. -/
inductive ExprKind where
  /-- A path, perhaps with a self type. -/
  | path (qualifier : Option (Ty × Option Path)) (path : Path)
  /-- A struct literal. -/
  | record
  /-- A block; a plain one has no attributes inside. -/
  | block (plain labelled : Bool)
  /-- A loop. -/
  | loop (labelled : Bool)
  /-- A condition, a match, or a block behind a keyword: its closing brace ends a statement. -/
  | braced
  /-- An asynchronous block, which does not end a statement. -/
  | async
  /-- A closure with a result type; its body is a block. -/
  | closure
  /-- A macro call, with or without braces. -/
  | invocation (braced : Bool)
  /-- An expression that is kept as it was written. -/
  | verbatim
  | other

/-- A jump that may carry a value. -/
inductive Jump where
  /-- `break`, perhaps with the label of a loop. -/
  | exit (label : Option Ident)
  /-- `return`. -/
  | ret
  /-- `yield`. -/
  | yield

namespace Jump

/-- The code of a jump in front of its value. -/
def code : Jump → Code
  | exit label => .word "break" :: (label.map Token.lifetime).getD []
  | ret => [.word "return"]
  | yield => [.word "yield"]

/-- Is it a `break`? -/
def isExit : Jump → Bool
  | exit _ => true
  | _ => false

end Jump

/-- An expression. -/
inductive Expr where
  /-- An expression without open parts. -/
  | leaf (kind : ExprKind) (code : Code)
  /-- An expression in an invisible group. -/
  | group (inner : Expr)
  /-- An expression behind attributes. -/
  | attributed (attrs : Code) (inner : Expr)
  | assign (left right : Expr)
  | binary (left : Expr) (op : Operator) (right : Expr)
  | cast (value : Expr) (ty : Ty)
  /-- A range without ends. -/
  | fullRange (dots : Code)
  | rangeFrom (start : Expr) (dots : Code)
  | rangeTo (dots : Code) (stop : Expr)
  | range (start : Expr) (dots : Code) (stop : Expr)
  /-- A sign or a reference in front of its operand. -/
  | signed (marks : Code) (operand : Expr)
  /-- A call or an index: an expression with brackets behind it. -/
  | applied (base : Expr) (brackets : Token)
  /-- A field, a method call, `.await` or a question mark behind an expression. -/
  | dotted (base : Expr) (tail : Code)
  /-- A closure without a result type. -/
  | closure (head : Code) (body : Expr)
  /-- A condition that binds names. -/
  | binding (head : Code) (value : Expr)
  /-- A jump without value. -/
  | jump (jump : Jump)
  /-- A jump with a value. -/
  | jumpWith (jump : Jump) (value : Expr)

namespace Expr

/-- A literal, or another expression that nothing is asked of. -/
def ofCode (code : Code) : Expr := leaf .other code

/-- An expression behind attributes, if there are any. -/
def withAttributes (attrs : Code) (e : Expr) : Expr :=
  if attrs.isEmpty then e
  else
    match e with
    | attributed more inner => attributed (attrs ++ more) inner
    | e => attributed attrs e

/-! ## Kinds of expressions -/

/-- Is the expression a range? -/
def isRange : Expr → Bool
  | fullRange _ | rangeFrom _ _ | rangeTo _ _ | range _ _ _ => true
  | attributed _ inner => inner.isRange
  | _ => false

/-- Is the expression a comparison? -/
def isComparison : Expr → Bool
  | binary _ op _ => op.precedence = .compare
  | attributed _ inner => inner.isComparison
  | _ => false

/-- Is the expression held together by a binary operator, a cast or a range? -/
def isOperation : Expr → Bool
  | assign _ _ | binary _ _ _ | cast _ _ => true
  | e => e.isRange

/-- The kind of an expression without open parts, attributes apart. -/
def kind? : Expr → Option ExprKind
  | leaf kind _ => some kind
  | attributed _ inner => inner.kind?
  | _ => none

/-- Does the closing brace of the expression end an arm of a match? -/
def endsArm (e : Expr) : Bool :=
  match e.kind? with
  | some (.block _ _) | some (.loop _) | some .braced => true
  | _ => false

/-- Does the closing brace of the expression end a statement? -/
def endsStatement (e : Expr) : Bool :=
  match e.kind? with
  | some (.invocation braced) => braced
  | _ => e.endsArm

/-- Does the closing brace of the expression end an arm of a match, were it not for groups around
it? -/
def isBlockLike : Expr → Bool
  | group inner => inner.isBlockLike
  | attributed _ inner => inner.isBlockLike
  | leaf kind code => (leaf kind code).endsArm
  | _ => false

/-- Is the expression a struct literal? -/
def isRecord (e : Expr) : Bool :=
  match e.kind? with
  | some .record => true
  | _ => false

/-- Is the expression a path? -/
def isPath (e : Expr) : Bool :=
  match e.kind? with
  | some (.path _ _) => true
  | _ => false

/-- Is the expression a block without label and attributes? -/
def isPlainBlock : Expr → Bool
  | leaf (.block plain labelled) _ => plain && !labelled
  | _ => false

/-- Is the expression a condition that binds names? -/
def isBinding : Expr → Bool
  | binding _ _ => true
  | attributed _ inner => inner.isBinding
  | _ => false

/-- The jump that the expression is, if it has no value. -/
def bareJump? : Expr → Option Jump
  | jump j => some j
  | attributed _ inner => inner.bareJump?
  | _ => none

/-- Is the expression a range without an upper end? -/
def isUnended : Expr → Bool
  | fullRange _ | rangeFrom _ _ => true
  | attributed _ inner => inner.isUnended
  | _ => false

/-- Does the expression reach as far to the right as it can? -/
def reachesRight : Expr → Bool
  | jump _ | jumpWith _ _ | closure _ _ | leaf .closure _ | binding _ _ | fullRange _
  | rangeTo _ _ => true
  | attributed _ inner => inner.reachesRight
  | _ => false

/-- Is the expression a cast to a type behind which arguments could follow? -/
def castsToName : Expr → Bool
  | cast _ ty => ty.endsInName
  | attributed _ inner => inner.castsToName
  | _ => false

/-- How tightly the expression holds together. -/
def precedence : Expr → Precedence
  | leaf _ _ | group _ | applied _ _ | dotted _ _ | jump _ => .primary
  | attributed _ inner =>
    match inner with
    | leaf _ _ | group _ | applied _ _ | dotted _ _ => .sign
    | inner => inner.precedence
  | assign _ _ => .assign
  | binary _ op _ => op.precedence
  | cast _ _ => .cast
  | fullRange _ | rangeFrom _ _ | rangeTo _ _ | range _ _ _ => .range
  | signed _ _ => .sign
  | closure _ _ | jumpWith _ _ => .jump
  | binding _ _ => .binding

/-! ## Ends of expressions -/

/-- Does the expression end with a closing brace?  A group hides it. -/
def endsInBrace : Expr → Bool
  | leaf kind code =>
    match kind with
    | .record | .block _ _ | .loop _ | .braced | .async | .closure => true
    | .invocation braced => braced
    | .verbatim => code.endsInBrace
    | .path _ _ | .other => false
  | attributed _ inner => inner.endsInBrace
  | assign _ right | binary _ _ right => right.endsInBrace
  | cast _ ty => ty.endsInBrace
  | rangeTo _ stop | range _ _ stop => stop.endsInBrace
  | signed _ operand => operand.endsInBrace
  | closure _ body => body.endsInBrace
  | binding _ value | jumpWith _ value => value.endsInBrace
  | group _ | fullRange _ | rangeFrom _ _ | applied _ _ | dotted _ _ | jump _ => false

/-- Does the expression begin with the label of a loop or block? -/
def beginsWithLabel : Expr → Bool
  | leaf (.block _ labelled) _ | leaf (.loop labelled) _ => labelled
  | attributed _ inner => inner.beginsWithLabel
  | assign left _ | binary left _ _ | cast left _ => left.beginsWithLabel
  | rangeFrom start _ | range start _ _ => start.beginsWithLabel
  | applied base _ | dotted base _ => base.beginsWithLabel
  | _ => false

/-! ## Attributes of statements -/

/-- Puts the attributes of a statement in front of its first operand.  What is kept as it was
written keeps them as they were written, too. -/
def annotate (attrs written : Code) : Expr → Expr
  | assign left right => assign (left.annotate attrs written) right
  | binary left op right => binary (left.annotate attrs written) op right
  | cast value ty => cast (value.annotate attrs written) ty
  | leaf .verbatim code => leaf .verbatim (written ++ code)
  | e => e.withAttributes attrs

end Expr

end Overlay
