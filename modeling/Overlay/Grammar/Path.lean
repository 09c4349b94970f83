import Overlay.Grammar.Attribute

/-!
Rules for paths and generic arguments.  In an expression, `<` behind a name is a comparison, so that
arguments there need `::` in front.
-/

namespace Overlay.Grammar

open Reader Cursor

variable (g : Grammar)

/-- A keyword that names a module or, in front of a macro, stands as it is: no arguments follow. -/
def isKeywordSegment (trees : List Tree) : Bool :=
  hasWord "super" trees || hasWord "self" trees || hasWord "crate" trees || hasWord "try" trees

/-- A constant argument: a literal, a name or a block. -/
def constArgument : Reader Code := do
  if ← peek hasLiteral then return (← literal).code
  else if ← peek hasName then return [.ident (← name)]
  else if ← peek (hasGroup .brace) then g.bodyBlock
  else if ← isEmpty then refuse "unexpected end of input"
  else refuse "unexpected token"

/-- Bounds behind `Item:` between angle brackets, up to a comma or the closing bracket. -/
def constraintBounds : Reader (List Bound × Bool) :=
  repeatFrom (([] : List Bound), false) fun (done, plus) => do
    if (← peek (hasSign ",")) || (← peek (hasSign ">")) then return .inr (done.reverse, plus)
    let next ← g.bound false true
    if ← optSign "+" then return .inl (next :: done, true)
    return .inr ((next :: done).reverse, false)

/-- A type that reads as a single name, perhaps with arguments: what may stand in front of `=` or
`:` in a generic argument. -/
def bareName? : Ty → Option (Ident × Args)
  | .path (.mk false [.mk name args]) =>
    match args with
    | .called .. => none
    | args => some (name, args)
  | _ => none

/-- One argument between angle brackets. -/
def argument : Reader Arg := do
  if (← peek hasLifetime) && !(← peek (second (hasSign "+"))) then
    return .lifetime (← lifetime)
  if (← peek hasLiteral) || (← peek (hasGroup .brace)) then
    return .const (← g.constArgument)
  let ty ← g.ty true true
  match bareName? ty with
  | none => return .type ty
  | some (name, args) =>
    if ← optSign "=" then
      if (← peek hasLiteral) || (← peek (hasGroup .brace)) then
        return .assocConst name args (← g.constArgument)
      else return .assocType name args (← g.ty true true)
    else if ← optSign ":" then
      let (bounds, trailing) ← g.constraintBounds
      return .constraint name args bounds trailing
    else return .type ty

/-- Items between angle brackets, separated by commas; whether a comma follows the last. -/
def angledItems {α : Type} (item : Reader α) : Reader (List α × Bool) := do
  sign "<"
  let items ← repeatFrom (([] : List α), false) fun (done, comma) => do
    if ← peek (hasSign ">") then return .inr (done.reverse, comma)
    let next ← item
    if ← peek (hasSign ">") then return .inr ((next :: done).reverse, false)
    sign ","
    return .inl (next :: done, true)
  sign ">"
  return items

/-- Arguments between angle brackets, perhaps behind `::`. -/
def angledArgs : Reader Args := do
  let turbofish ← optSign "::"
  let (items, trailing) ← angledItems g.argument
  return .angled turbofish items trailing

/-- One name of a path with its arguments. -/
def segment (inExpr : Bool) : Reader Segment := do
  if ← peek isKeywordSegment then return .plain (← anyIdent)
  let name ← if ← peek (hasWord "Self") then anyIdent else name
  let plainArgs := !inExpr && (← peek (hasSign "<")) && !(← peek (hasSign "<="))
    && !(← peek (hasSign "<<="))
  if plainArgs || ((← peek (hasSign "::")) && (← peek (third (hasSign "<")))) then
    return .mk name (← g.angledArgs)
  else return .plain name

/-- The further segments of a path.  A parenthesis behind `::` is not part of it. -/
def moreSegments (inExpr : Bool) (segments : List Segment) :
    Reader (List Segment) :=
  repeatFrom segments fun segments => do
    if (← peek (hasSign "::")) && !(← peek (third (hasGroup .parenthesis))) then
      sign "::"
      return .inl (segments ++ [← g.segment inExpr])
    else return .inr segments

/-- A path. -/
def path (inExpr : Bool) : Reader Path := do
  let leading ← optSign "::"
  let first ← g.segment inExpr
  return .mk leading (← g.moreSegments inExpr [first])

/-- The part of a qualified path behind its self type: `<S as T>::A::B`. -/
def qualifiedRest (inExpr : Bool) : Reader (List Segment) := do
  repeatFrom ([] : List Segment) fun segments => do
    let next ← g.segment inExpr
    if ← optSign "::" then return .inl (segments ++ [next])
    return .inr (segments ++ [next])

/-- A path, perhaps with a self type in front: the self type, its trait, and the path. -/
def qualifiedPath (inExpr : Bool) :
    Reader (Option (Ty × Option Path) × Path) := do
  if ← peek (hasSign "<") then
    sign "<"
    let self ← g.ty true true
    let trait ← if ← optWord "as" then pure (some (← g.path false)) else pure none
    sign ">"
    sign "::"
    return (some (self, trait), .mk true (← g.qualifiedRest inExpr))
  else return (none, ← g.path inExpr)

end Overlay.Grammar
