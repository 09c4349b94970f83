import Overlay.Grammar.Type
import Overlay.Syntax.Generics

/-!
Rules for generic parameters, binders and `where` clauses.
-/

namespace Overlay.Grammar

open Reader Cursor

variable (g : Grammar)

/-- A lifetime parameter behind its attributes. -/
def lifetimeParam (attrs : List Attribute) : Reader GenericParam := do
  let name ← lifetime
  if ← optSign ":" then
    let stop : Test := fun trees => trees.isEmpty || hasSign "," trees || hasSign ">" trees
    let (bounds, trailing) ← lifetimesUntil stop
    return ⟨attrs, name, .lifetime bounds trailing⟩
  return ⟨attrs, name, .lifetime [] false⟩

/-- A type parameter behind its attributes. -/
def typeParam (attrs : List Attribute) : Reader GenericParam := do
  let name ← name
  let stop : Test := fun trees =>
    trees.isEmpty || hasSign "," trees || hasSign ">" trees || hasSign "=" trees
  let (bounds, trailing) ← if ← optSign ":" then g.boundsUntil stop else pure ([], false)
  let default ← if ← optSign "=" then pure (some (← g.ty true true)) else pure none
  return ⟨attrs, name, .type bounds trailing default⟩

/-- A constant parameter behind its attributes. -/
def constParam (attrs : List Attribute) : Reader GenericParam := do
  word "const"
  let name ← name
  sign ":"
  let ty ← g.ty true true
  let default ← if ← optSign "=" then pure (some (← g.constArgument)) else pure none
  return ⟨attrs, name, .const ty default⟩

/-- A generic parameter. -/
def param : Reader GenericParam := do
  let attrs ← g.outerAttributes
  if ← peek hasName then g.typeParam attrs
  else if ← peek hasLifetime then lifetimeParam attrs
  else if ← peek (hasWord "const") then g.constParam attrs
  else missing ["identifier", "lifetime", "`const`"]

/-- A generic parameter of a declaration, where an underscore may stand for the name. -/
def declaredParam : Reader GenericParam := do
  let attrs ← g.outerAttributes
  if ← peek hasLifetime then lifetimeParam attrs
  else if ← peek hasName then g.typeParam attrs
  else if ← peek (hasWord "const") then g.constParam attrs
  else if ← peek (hasWord "_") then return ⟨attrs, ← anyIdent, .type [] false none⟩
  else missing ["lifetime", "identifier", "`const`"]

/-- A binder `for<…>`. -/
def binderRule : Reader Code := do
  word "for"
  let (params, trailing) ← angledItems g.param
  return [.word "for", .punct '<']
    ++ Code.separated (.punct ',') trailing (params.map GenericParam.code) ++ [.punct '>']

/-- Generic parameters of a declaration, if there are any. -/
def genericParams : Reader Generics := do
  if ← peek (hasSign "<") then
    let (params, trailing) ← angledItems g.declaredParam
    return ⟨params, trailing, none⟩
  return {}

/-- Do parameters in angle brackets begin here, rather than a qualified path? -/
def startsParams : Test := fun trees =>
  hasSign "<" trees &&
    (second (hasSign ">") trees || second (hasSign "#") trees
      || ((second hasLifetime trees || second hasName trees)
        && (third (hasSign ">") trees || third (hasSign ",") trees
          || (third (hasSign ":") trees && !third (hasSign "::") trees)
          || third (hasSign "=") trees))
      || second (hasWord "const") trees)

/-- What ends a list of conditions or of bounds in them. -/
def endsCondition : Test := fun trees =>
  trees.isEmpty || hasGroup .brace trees || hasSign "," trees || hasSign ";" trees
    || (hasSign ":" trees && !hasSign "::" trees) || hasSign "=" trees

/-- One condition. -/
def predicate : Reader Predicate := do
  if ← peek fun trees => hasLifetime trees && second (hasSign ":") trees then
    let name ← lifetime
    sign ":"
    let stop : Test := fun trees => endsCondition trees || hasSign ":" trees
    let (bounds, trailing) ← lifetimesUntil stop
    return .lifetime name bounds trailing
  let binder := (← g.optBinder).getD []
  let ty ← g.ty true true
  sign ":"
  let (bounds, trailing) ← g.boundsUntil endsCondition
  return .type binder ty bounds trailing

/-- A `where` clause. -/
def whereClause : Reader WhereClause := do
  word "where"
  if ← peek startsParams then
    refuse "generic parameters on `where` clauses are reserved for future use"
  let (predicates, trailing) ← repeatFrom (([] : List Predicate), false) fun (done, comma) => do
    if ← peek endsCondition then return .inr (done.reverse, comma)
    let next ← g.predicate
    if ← optSign "," then return .inl (next :: done, true)
    return .inr ((next :: done).reverse, false)
  return ⟨predicates, trailing⟩

/-- A `where` clause, if there is one. -/
def optWhereClause : Reader (Option WhereClause) := do
  if ← peek (hasWord "where") then return some (← g.whereClause) else return none

end Overlay.Grammar
