import Overlay.Grammar.Core

/-!
Rules for binary operators, assignments, ranges and casts.  Operators are told apart by how tightly
they bind.
-/

namespace Overlay.Grammar

open Reader Cursor

variable (g : Grammar)

/-- The binary operator that stands here, if there is one. -/
def operatorAt (trees : List Tree) : Option Operator :=
  Operator.all.find? fun op => hasSign op.text trees

/-- Does an assignment follow? -/
def startsAssignment : Test := fun trees => hasSign "=" trees && !hasSign "=>" trees

/-- How tightly what follows binds. -/
def precedenceAt (trees : List Tree) : Precedence :=
  match operatorAt trees with
  | some op => op.precedence
  | none =>
    if startsAssignment trees then .assign
    else if hasSign ".." trees then .range
    else if hasWord "as" trees then .cast
    else .jump

/-- The operand behind a binary operator. -/
def operand (struct : Bool) (precedence : Precedence) : Reader Expr := do
  let first ← g.unary struct
  repeatFrom first fun operand => do
    let trees := (← get).trees
    let next := precedenceAt trees
    if precedence < next || (next = precedence && precedence = .assign) then
      let size := Tree.sizeOf trees
      let operand ← g.climb operand struct next
      if Tree.sizeOf (← get).trees = size then return .inr operand
      return .inl operand
    return .inr operand

/-! ## Ranges -/

/-- The dots of a range, and whether its end may be left out. -/
def rangeDots : Reader (Code × Bool) := do
  if ← optSign "..=" then return (Token.sign ['.', '.', '='], false)
  if ← peek (hasSign "...") then missing ["`..=`"]
  sign ".."
  return (Token.sign ['.', '.'], true)

/-- Does an open range end here? -/
def endsRange (struct : Bool) : Test := fun trees =>
  trees.isEmpty || [",", ";", "?", "=>", "=", "+", "/", "%", "^", ">", "<=", "!=", "-=", "*=",
      "&=", "|=", "<<="].any (hasSign · trees)
    || (hasSign "." trees && !hasSign ".." trees) || (!struct && hasGroup .brace trees)
    || hasWord "as" trees

/-- The dots of a range, and its end if it has one. -/
def rangeTail (struct : Bool) : Reader (Code × Option Expr) := do
  let (dots, mayEnd) ← rangeDots
  if mayEnd && (← peek (endsRange struct)) then return (dots, none)
  return (dots, some (← g.operand struct .range))

/-- A range behind its start. -/
def rangeBehind (start : Expr) (struct : Bool) : Reader Expr := do
  match ← g.rangeTail struct with
  | (dots, some stop) => return .range start dots stop
  | (dots, none) => return .rangeFrom start dots

/-- A range without start. -/
def rangeExpr (struct : Bool) : Reader Expr := do
  match ← g.rangeTail struct with
  | (dots, some stop) => return .rangeTo dots stop
  | (dots, none) => return .fullRange dots

/-! ## Casts -/

/-- What a cast cannot be followed by. -/
def castFollower (trees : List Tree) : Option String :=
  if hasSign "." trees && !hasSign ".." trees then
    if second (hasWord "await") trees then some "`.await`"
    else if second hasName trees
        && (third (hasGroup .parenthesis) trees || third (hasSign "::") trees) then
      some "a method call"
    else some "a field access"
  else if hasSign "?" trees then some "`?`"
  else if hasGroup .bracket trees then some "indexing"
  else if hasGroup .parenthesis trees then some "a function call"
  else none

/-- A cast behind its operand. -/
def castExpr (left : Expr) : Reader Expr := do
  word "as"
  let ty ← g.ty false false
  if let some follower := castFollower (← get).trees then
    refuse ("casts cannot be followed by " ++ follower)
  return .cast left ty

/-! ## Climbing -/

/-- The operators of at least this precedence behind an expression. -/
def climbRule (first : Expr) (struct : Bool) (base : Precedence) : Reader Expr :=
  repeatFrom first fun left => do
    let trees := (← get).trees
    if left.isRange then return .inr left
    match operatorAt trees with
    | some op =>
      if op.precedence < base then return .inr left
      if op.precedence = .compare && left.isComparison then
        refuse "comparison operators cannot be chained"
      sign op.text
      return .inl (.binary left op (← g.operand struct op.precedence))
    | none =>
      if base ≤ .assign && startsAssignment trees then
        sign "="
        return .inl (.assign left (← g.operand struct .assign))
      else if base ≤ .range && hasSign ".." trees then
        return .inl (← g.rangeBehind left struct)
      else if base ≤ .cast && hasWord "as" trees then
        return .inl (← g.castExpr left)
      else return .inr left

end Overlay.Grammar
