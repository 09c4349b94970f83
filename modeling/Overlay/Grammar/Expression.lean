import Overlay.Grammar.Control

/-!
Rules for expressions without binary operators: what they begin with, the signs in front of them,
and the calls, fields and indices behind them.
-/

namespace Overlay.Grammar

open Reader Cursor

variable (g : Grammar)

/-! ## Calls, fields, indices -/

/-- Expressions separated by commas, up to the end of the brackets. -/
def exprList : Reader Code := do
  let (items, trailing) ← terminated (g.expr true)
  return Code.separated (.punct ',') trailing (items.map Expr.code)

/-- What follows a dot: a field, a method call, or `await`. -/
def afterDot (base : Expr) : Reader Expr := do
  if ← optWord "await" then return .dotted base [.punct '.', .word "await"]
  let field ← member
  let tail : Code := .punct '.' :: field.code
  if field.isName && (← peek (hasSign "::")) then
    let args ← g.angledArgs
    let inputs ← within .parenthesis g.exprList
    return .dotted base (tail ++ args.code ++ [.group .parenthesis inputs])
  if field.isName && (← peek (hasGroup .parenthesis)) then
    return .dotted base (tail ++ [.group .parenthesis (← within .parenthesis g.exprList)])
  return .dotted base tail

/-- What follows a dot, where a number with a point is several positions in a row. -/
def dotted (base : Expr) : Reader Expr := do
  if ← peek hasFloat then
    let (indices, dangling) ← positions
    let e := indices.foldl (fun base index => .dotted base
      (.punct '.' :: (FieldRef.position index).code)) base
    if dangling then g.afterDot e else return e
  else g.afterDot base

/-- Is there a dot that does not begin a range? -/
def startsDotted : Test := fun trees => hasSign "." trees && !hasSign ".." trees

/-- A call, a field, an index or a question mark behind an expression, if there is one. -/
def trailer (e : Expr) : Reader (Expr ⊕ Expr) := do
  if ← peek (hasGroup .parenthesis) then
    return .inl (.applied e (.group .parenthesis (← within .parenthesis g.exprList)))
  else if !e.isRange && (← peek startsDotted) then
    sign "."
    return .inl (← g.dotted e)
  else if ← peek (hasGroup .bracket) then
    let index ← within .bracket (g.expr true)
    return .inl (.applied e (.group .bracket index.code))
  else if !e.isRange && (← peek (hasSign "?")) then
    sign "?"
    return .inl (.dotted e [.punct '?'])
  else return .inr e

/-- Calls, fields, indices and question marks behind an expression. -/
def trailers (first : Expr) : Reader Expr := repeatFrom first g.trailer

/-! ## Paths, macro calls and struct literals -/

/-- A field of a struct literal. -/
def fieldValue : Reader Code := do
  let attrs ← g.attributesCode
  let field ← member
  if !field.isName || (← peek (hasSign ":")) then
    sign ":"
    return attrs ++ field.code ++ .punct ':' :: (← g.expr true).code
  return attrs ++ field.code

/-- The fields of a struct literal.  Two dots end the list, with or without a base behind them. -/
def fieldValues : Reader Code :=
  repeatFrom ([] : Code) fun code => do
    if ← isEmpty then return .inr code
    if ← optSign ".." then
      let code := code ++ Token.sign ['.', '.']
      if ← isEmpty then return .inr code
      return .inr (code ++ (← g.expr true).code)
    let field ← g.fieldValue
    if ← isEmpty then return .inr (code ++ field)
    sign ","
    return .inl (code ++ field ++ [.punct ','])

/-- What a path in an expression turns out to be. -/
def afterPath (qualifier : Option (Ty × Option Path)) (path : Path) (struct : Bool) :
    Reader Expr := do
  let code := qualifiedCode qualifier path
  if qualifier.isNone && path.isPlain && (← peek startsInvocation) then
    let (args, braced) ← invocationArgs
    return .leaf (.invocation braced) (code ++ args)
  if struct && (← peek (hasGroup .brace)) then
    return .leaf .record (code ++ [.group .brace (← within .brace g.fieldValues)])
  return .leaf (.path qualifier path) code

/-- An expression in an invisible group.  A path in it may go on behind the group. -/
def groupedExpr (struct : Bool) : Reader Expr := do
  let inner ← within .invisible (g.expr true)
  match inner with
  | .leaf (.path qualifier path) _ =>
    let segments ← g.moreSegments true path.segments
    let e ← g.afterPath qualifier (.mk path.leading segments) struct
    if e.isPath && segments.length = path.segments.length then return .group inner
    return e
  | inner => return .group inner

/-! ## Atoms -/

/-- An array, by its items or by one item and a length. -/
def arrayExpr : Reader Expr := do
  let inner ← within .bracket do
    if ← isEmpty then return []
    let first ← g.expr true
    if ← optSign ";" then return first.code ++ .punct ';' :: (← g.expr true).code
    if ← isEmpty then return first.code
    if ← optSign "," then return first.code ++ .punct ',' :: (← g.exprList)
    missing ["`,` or `;`"]
  return .ofCode [.group .bracket inner]

/-- An expression that is kept as it was written. -/
def verbatimExpr (taken : List Tree) : Expr := .leaf .verbatim (Tree.codeOf taken)

/-- A tail call. -/
def becomeExpr : Reader Expr := do
  let (_, taken) ← recorded do
    word "become"
    discard (g.expr true)
  return verbatimExpr taken

/-- An expression that the compiler provides: `builtin # name(…)`. -/
def builtinExpr : Reader Expr := do
  let (_, taken) ← recorded builtinCall
  return verbatimExpr taken

/-- Does a path begin here, or a macro call by the name of `try`? -/
def startsPathExpr : Test := fun trees =>
  startsPath trees
    || (hasWord "try" trees && (second (hasSign "!") trees || second (hasSign "::") trees))

/-- An expression that no operator belongs to. -/
def atomExpr (struct : Bool) : Reader Expr := do
  if ← peek (hasGroup .invisible) then g.groupedExpr struct
  else if ← peek hasLiteral then return .ofCode (← literal).code
  else if ← peek startsAsyncBlock then g.asyncBlock
  else if ← peek fun trees => hasWord "try" trees && second (hasGroup .brace) trees then g.blockLike
  else if ← peek startsClosure then g.closure struct
  else if ← peek startsBuiltin then builtinExpr
  else if ← peek startsPathExpr then
    let (qualifier, path) ← g.qualifiedPath true
    g.afterPath qualifier path struct
  else if ← peek (hasGroup .parenthesis) then
    return .ofCode [.group .parenthesis (← within .parenthesis g.exprList)]
  else if ← peek (hasWord "break") then g.breakExpr struct
  else if ← peek (hasWord "continue") then continueExpr
  else if ← optWord "return" then g.jumpExpr .ret true
  else if ← peek (hasWord "become") then g.becomeExpr
  else if ← peek (hasGroup .bracket) then g.arrayExpr
  else if ← peek (hasWord "let") then g.letExpr struct
  else if ← optWord "yield" then g.jumpExpr .yield true
  else if ← peek (hasSign "..") then g.rangeExpr struct
  else if ← optWord "_" then return .ofCode [.word "_"]
  else if ← peek startsBlockLike then g.blockLike
  else missing ["an expression"]

/-! ## Signs and attributes in front -/

/-- The code of outer attributes in front of an expression. -/
def exprAttributes : Reader Code :=
  repeatFrom ([] : Code) fun code => do
    if ← peek fun trees => !hasGroup .invisible trees && hasSign "#" trees then
      return .inl (code ++ (← g.outerAttribute).code)
    return .inr code

/-- An expression behind attributes, for which what is kept as it was written has no place. -/
def attributed (attrs : Code) (e : Expr) : Expr :=
  match e with
  | .leaf .verbatim code => .leaf .verbatim code
  | e => e.withAttributes attrs

/-- A reference, or a raw pointer taken by `&raw`. -/
def referenceExpr (struct : Bool) : Reader Expr := do
  sign "&"
  let raw ← peek fun trees => hasWord "raw" trees
    && (second (hasWord "mut") trees || second (hasWord "const") trees)
  if raw then word "raw"
  let mutable ← optWord "mut"
  if raw && !mutable then word "const"
  let marks := (if raw then [.word "raw"] else []) ++ (if mutable then [.word "mut"] else [])
    ++ (if raw && !mutable then [.word "const"] else [])
  let target ← g.unary struct
  return .signed (.punct '&' :: marks) target

/-- An expression without binary operators, behind its attributes. -/
def signedExpr (struct : Bool) : Reader Expr := do
  let grouped ← peek (hasGroup .invisible)
  if !grouped && (← peek (hasSign "&")) then g.referenceExpr struct
  else
    let trees := (← get).trees
    match ['*', '!', '-'].find? fun mark => !grouped && hasSign (String.singleton mark) trees with
    | some mark =>
      sign (String.singleton mark)
      return .signed [.punct mark] (← g.unary struct)
    | none => g.trailers (← g.atomExpr struct)

/-- An expression without binary operators: attributes and signs in front, calls and fields behind.
What is kept as it was written keeps its attributes, too. -/
def unaryRule (struct : Bool) : Reader Expr := do
  let ((attrs, e), taken) ← recorded do
    let attrs ← g.exprAttributes
    return (attrs, ← g.signedExpr struct)
  match e with
  | .leaf .verbatim _ => return verbatimExpr taken
  | e =>
    if e.isRange && !attrs.isEmpty then
      refuse "attributes are not allowed on range expressions starting with `..`"
    return e.withAttributes attrs

/-- An expression. -/
def exprRule (struct : Bool) : Reader Expr := do
  let first ← g.unaryRule struct
  g.climbRule first struct .jump

/-! ## Expressions that may end early -/

/-- The front of an expression where a statement or a match arm may end. -/
def earlyFront : Reader Expr := do
  if ← peek (hasGroup .invisible) then
    let e ← g.groupedExpr true
    if e.isBlockLike then return e else g.trailers e
  else if ← peek startsBlockLike then g.blockLike
  else g.unary true

/-- An expression where a statement or a match arm may end: what begins with a block ends with it,
unless a dot or a question mark follows. -/
def earlyRule : Reader Expr := do
  let attrs ← g.exprAttributes
  let e ← g.earlyFront
  if !e.isBlockLike then g.climb (attributed attrs e) true .jump
  else if ← peek fun trees => startsDotted trees || hasSign "?" trees then
    let e ← g.trailers e
    g.climb (attributed attrs e) true .jump
  else return attributed attrs e

end Overlay.Grammar
