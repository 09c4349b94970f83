import Overlay.Grammar.Expression
import Overlay.Grammar.Item

/-!
Rules for statements.
-/

namespace Overlay.Grammar

open Reader Cursor

variable (g : Grammar)

/-- A `let` statement behind its attributes.  Behind a value that ends with a brace, `else` is not
part of it. -/
def letStatement : Reader Code := do
  word "let"
  let pattern ← g.pattern false
  let annotation ← if ← optSign ":" then pure (.punct ':' :: (← g.ty true true).code) else pure []
  let value ← if ← optSign "=" then
      let value ← g.expr true
      if ← peek fun trees => !value.endsInBrace && hasWord "else" trees then
        word "else"
        pure (.punct '=' :: value.code ++ .word "else" :: (← g.block))
      else pure (.punct '=' :: value.code)
    else pure []
  sign ";"
  return .word "let" :: pattern.code ++ annotation ++ value ++ [.punct ';']

/-- Does an item begin here, rather than an expression? -/
def startsItem : Test := fun trees =>
  hasWord "pub" trees || (hasWord "crate" trees && !second (hasSign "::") trees)
    || hasWord "extern" trees || hasWord "use" trees
    || (hasWord "static" trees && (second (hasWord "mut") trees || second hasName trees))
    || (hasWord "const" trees && !(second (hasGroup .brace) trees
      || second (hasWord "static") trees
      || (second (hasWord "async") trees && !(third (hasWord "unsafe") trees
        || third (hasWord "extern") trees || third (hasWord "fn") trees))
      || second (hasWord "move") trees || second (hasSign "|") trees))
    || (hasWord "unsafe" trees && !second (hasGroup .brace) trees)
    || (hasWord "async" trees && (second (hasWord "unsafe") trees
      || second (hasWord "extern") trees || second (hasWord "fn") trees))
    || hasWord "fn" trees || hasWord "mod" trees || hasWord "type" trees
    || hasWord "struct" trees || hasWord "enum" trees
    || (hasWord "union" trees && second hasName trees)
    || (hasWord "auto" trees && second (hasWord "trait") trees) || hasWord "trait" trees
    || (hasWord "default" trees
      && (second (hasWord "unsafe") trees || second (hasWord "impl") trees))
    || hasWord "impl" trees || hasWord "macro" trees

/-- What follows a path at the front, if a path stands there. -/
def behindPath (test : Test) : Reader Bool := do
  let found ← attempt (ahead do
    discard plainPath
    peek test)
  return found = some true

/-- Does a macro call define something by a name? -/
def startsDefinition : Test := fun trees =>
  hasSign "!" trees && (second hasName trees || second (hasWord "try") trees)

/-- Is a macro call with braces a statement of its own? -/
def startsStatementMacro : Test := fun trees =>
  hasSign "!" trees && second (hasGroup .brace) trees
    && !((third (hasSign ".") trees && !third (hasSign "..") trees) || third (hasSign "?") trees)

/-- A statement behind its attributes. -/
inductive StatementRest where
  /-- A statement that is complete, unless it has to be kept as it was written. -/
  | done (code : Option Code)
  /-- An expression, and whether a semicolon follows it. -/
  | expr (e : Expr) (closed : Bool)

/-- A macro call with braces. -/
def statementMacro : Reader Code := do
  let path ← plainPath
  let (args, _) ← invocationArgs
  let stop ← if ← optSign ";" then pure [.punct ';'] else pure []
  return path.code ++ args ++ stop

/-- A statement behind its attributes. -/
def statementRest : Reader StatementRest := do
  let defines ← behindPath startsDefinition
  let calls ← behindPath startsStatementMacro
  if calls && !defines then return .done (some (← statementMacro))
  else if ← peek fun trees => hasWord "let" trees && !hasGroup .invisible trees then
    return .done (some (← g.letStatement))
  else if defines || (← peek startsItem) then return .done (← g.itemRest)
  else
    let e ← g.early
    return .expr e (← optSign ";")

/-- A statement, and whether another one may follow it. -/
def statement : Reader (Code × Bool) := do
  let (attrs, written) ← recorded g.attributesCode
  let (rest, taken) ← recorded g.statementRest
  match rest with
  | .done (some code) => return (attrs ++ code, true)
  | .done none => return (Tree.codeOf (written ++ taken), true)
  | .expr e closed =>
    let code := (e.annotate attrs (Tree.codeOf written)).codeIn .ofStatement
    return if closed then (code ++ [.punct ';'], true) else (code, e.endsStatement)

/-- Statements up to the end of the braces. -/
def statementsRule : Reader Code :=
  repeatFrom ([] : Code) fun code => do
    if ← optSign ";" then return .inl (code ++ [.punct ';'])
    if ← isEmpty then return .inr code
    let (next, complete) ← g.statement
    if ← isEmpty then return .inr (code ++ next)
    if !complete then refuse "unexpected token, expected `;`"
    return .inl (code ++ next)

end Overlay.Grammar
