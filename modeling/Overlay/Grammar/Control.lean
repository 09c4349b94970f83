import Overlay.Grammar.Generics
import Overlay.Grammar.Operator
import Overlay.Grammar.Pattern

/-!
Rules for expressions that hold blocks, for closures and for jumps.  Inner attributes may stand in
the blocks of loops and in blocks that are expressions themselves, not in those of conditions.
-/

namespace Overlay.Grammar

open Reader Cursor

variable (g : Grammar)

/-! ## Conditions, loops and matches -/

/-- A chain of conditions with their blocks. -/
def ifExpr : Reader Code :=
  repeatFrom ([] : Code) fun code => do
    word "if"
    let condition ← g.expr false
    let body ← g.block
    let code := code ++ .word "if" :: condition.codeIn .ofCondition ++ body
    if ← optWord "else" then
      let code := code ++ [.word "else"]
      if ← peek (hasWord "if") then return .inl code
      if ← peek (hasGroup .brace) then return .inr (code ++ (← g.block))
      missing ["`if`", "curly braces"]
    return .inr code

/-- A loop behind its label. -/
def loopExpr : Reader Code := do
  if ← optWord "while" then
    let condition ← g.expr false
    return .word "while" :: condition.codeIn .ofCondition ++ (← g.bodyBlock)
  if ← optWord "for" then
    let pattern ← g.pattern true
    word "in"
    let items ← g.expr false
    return .word "for" :: pattern.code ++ .word "in" :: items.codeIn .ofCondition
      ++ (← g.bodyBlock)
  word "loop"
  return .word "loop" :: (← g.bodyBlock)

/-- A block behind the code of its label. -/
def blockBehind (label : Code) : Reader Expr := do
  let (attrs, statements) ← g.blockParts
  return .leaf (.block attrs.isEmpty !label.isEmpty)
    (label ++ [.group .brace (attrs ++ statements)])

/-- A labelled loop or block. -/
def labelled : Reader Expr := do
  let label ← lifetime
  sign ":"
  let code := Token.lifetime label ++ [.punct ':']
  if ← peek fun trees => hasWord "while" trees || hasWord "for" trees || hasWord "loop" trees then
    return .leaf (.loop true) (code ++ (← g.loopExpr))
  if ← peek (hasGroup .brace) then g.blockBehind code
  else missing ["loop or block expression"]

/-- One arm of a match. -/
def matchArm : Reader Code := do
  let attrs ← g.attributesCode
  let pattern ← g.pattern true
  let guard ← if ← optWord "if" then pure (.word "if" :: (← g.expr true).code) else pure []
  sign "=>"
  let body ← g.early
  let comma ← if !body.endsArm && !(← isEmpty) then
      sign ","
      pure true
    else optSign ","
  return attrs ++ pattern.code ++ guard ++ Token.sign ['=', '>']
    ++ body.codeIn .ofArm ++ (if comma then [.punct ','] else [])

/-- A match with its arms. -/
def matchExpr : Reader Code := do
  word "match"
  let subject ← g.expr false
  let arms ← within .brace do
    let attrs ← g.innerAttributes
    repeatFrom attrs fun code => do
      if ← isEmpty then return .inr code
      return .inl (code ++ (← g.matchArm))
  return .word "match" :: subject.codeIn .ofCondition ++ [.group .brace arms]

/-- What opens an expression that ends with a block. -/
def startsBlockLike : Test := fun trees =>
  hasWord "if" trees || hasWord "while" trees
    || (hasWord "for" trees && !second startsParams trees)
    || hasWord "loop" trees || hasWord "match" trees
    || (hasWord "try" trees && second (hasGroup .brace) trees) || hasWord "unsafe" trees
    || (hasWord "const" trees && second (hasGroup .brace) trees) || hasGroup .brace trees
    || hasLifetime trees

/-- One of the expressions that end with a block. -/
def blockLike : Reader Expr := do
  if ← peek (hasWord "if") then return .leaf .braced (← g.ifExpr)
  else if ← peek (hasWord "match") then return .leaf .braced (← g.matchExpr)
  else if ← peek fun trees =>
      hasWord "while" trees || hasWord "for" trees || hasWord "loop" trees then
    return .leaf (.loop false) (← g.loopExpr)
  else if ← optWord "try" then return .leaf .braced (.word "try" :: (← g.block))
  else if ← optWord "unsafe" then return .leaf .braced (.word "unsafe" :: (← g.bodyBlock))
  else if ← optWord "const" then return .leaf .braced (.word "const" :: (← g.bodyBlock))
  else if ← peek hasLifetime then g.labelled
  else g.blockBehind []

/-- Does an asynchronous block begin here? -/
def startsAsyncBlock : Test := fun trees =>
  hasWord "async" trees && (second (hasGroup .brace) trees
    || (second (hasWord "move") trees && third (hasGroup .brace) trees))

/-- An asynchronous block. -/
def asyncBlock : Reader Expr := do
  word "async"
  let mark ← if ← optWord "move" then pure [.word "move"] else pure []
  return .leaf .async (.word "async" :: mark ++ (← g.block))

/-- A condition that binds names. -/
def letExpr (struct : Bool) : Reader Expr := do
  word "let"
  let pattern ← g.pattern true
  sign "="
  let first ← g.unary struct
  let value ← g.climb first struct .compare
  return .binding (.word "let" :: pattern.code ++ [.punct '=']) value

/-! ## Closures -/

/-- One parameter of a closure. -/
def closureParam : Reader Code := do
  let attrs ← g.attributesCode
  let pattern ← g.pattern false
  if ← optSign ":" then
    return attrs ++ pattern.code ++ .punct ':' :: (← g.ty true true).code
  return attributedPattern attrs pattern

/-- Does a closure begin here? -/
def startsClosure : Test := fun trees =>
  hasSign "|" trees || hasWord "move" trees || (hasWord "for" trees && second startsParams trees)
    || (hasWord "const" trees && !second (hasGroup .brace) trees) || hasWord "static" trees
    || (hasWord "async" trees && (second (hasSign "|") trees || second (hasWord "move") trees))

/-- The parameters of a closure between their bars. -/
def closureParams : Reader Code := do
  sign "|"
  let params ← repeatFrom ([] : Code) fun code => do
    if ← peek (hasSign "|") then return .inr code
    let code := code ++ (← g.closureParam)
    if ← peek (hasSign "|") then return .inr code
    sign ","
    return .inl (code ++ [.punct ','])
  sign "|"
  return .punct '|' :: params ++ [.punct '|']

/-- A closure. -/
def closure (struct : Bool) : Reader Expr := do
  let binder := (← g.optBinder).getD []
  let marks ← ["const", "static", "async", "move"].foldlM (fun code mark => do
    if ← optWord mark then return code ++ [.word mark] else return code) binder
  let head := marks ++ (← g.closureParams)
  if ← optSign "->" then
    let ty ← g.ty true true
    return .leaf .closure (head ++ Token.sign ['-', '>'] ++ ty.code ++ (← g.block))
  return .closure head (← g.expr struct)

/-! ## Jumps -/

/-- May an expression begin here? -/
def startsExpr : Test := fun trees =>
  (hasAnyIdent trees && !hasWord "as" trees) || hasGroup .parenthesis trees
    || hasGroup .bracket trees || hasGroup .brace trees || hasLiteral trees
    || (hasSign "!" trees && !hasSign "!=" trees)
    || (hasSign "-" trees && !hasSign "-=" trees && !hasSign "->" trees)
    || (hasSign "*" trees && !hasSign "*=" trees) || (hasSign "|" trees && !hasSign "|=" trees)
    || (hasSign "&" trees && !hasSign "&=" trees) || hasSign ".." trees
    || (hasSign "<" trees && !hasSign "<=" trees && !hasSign "<<=" trees) || hasSign "::" trees
    || hasLifetime trees || hasSign "#" trees

/-- A jump behind its keyword and label, with its value if it has one. -/
def jumpExpr (jump : Jump) (struct : Bool) : Reader Expr := do
  if (← peek startsExpr) && (struct || !(← peek (hasGroup .brace))) then
    return .jumpWith jump (← g.expr true)
  return .jump jump

/-- A `break` with its label and value.  A labelled loop as its value needs parentheses. -/
def breakExpr (struct : Bool) : Reader Expr := do
  word "break"
  if ← peek hasLifetime then
    if ← peek (second (hasSign ":")) then
      discard (g.expr true)
      refuse "parentheses required"
    g.jumpExpr (.exit (some (← lifetime))) struct
  else g.jumpExpr (.exit none) struct

/-- A `continue` with its label. -/
def continueExpr : Reader Expr := do
  word "continue"
  let label ← if ← peek hasLifetime then pure (Token.lifetime (← lifetime)) else pure []
  return .ofCode (.word "continue" :: label)

end Overlay.Grammar
