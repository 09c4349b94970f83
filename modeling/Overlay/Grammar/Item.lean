import Overlay.Grammar.Associated

/-!
Rules for items, as they may stand in a module or among statements.
-/

namespace Overlay.Grammar

open Reader Cursor

variable (g : Grammar)

/-! ## Functions, constants and types -/

/-- A function.  Without a body it has no form of its own. -/
def functionItem : Reader (Option Code) := do
  let visibility ← visibility
  let (signature, _) ← g.signature false
  if ← optSign ";" then return none
  return some (visibility.code ++ signature ++ (← g.bodyBlock))

/-- A static variable.  Without a type or without a value it has no form of its own. -/
def staticItem : Reader (Option Code) := do
  let visibility ← visibility
  word "static"
  let mutable ← mark "mut"
  let name ← name
  if ← optSign "=" then
    discard (g.expr true)
    sign ";"
    return none
  sign ":"
  let ty ← g.ty true true
  if ← optSign ";" then return none
  sign "="
  let value ← g.expr true
  sign ";"
  return some (visibility.code ++ .word "static" :: mutable ++ [.ident name, .punct ':'] ++ ty.code
    ++ .punct '=' :: value.code ++ [.punct ';'])

/-- A constant. -/
def constantItem : Reader (Option Code) := do
  let visibility ← visibility
  word "const"
  let item ← g.constItem
  return if item.plain && item.valued then some (visibility.code ++ item.code) else none

/-- A type by another name. -/
def aliasItem : Reader (Option Code) := do
  let item ← g.typeItem false true false
  return if item.isDefinition then
      some (item.visibility.code ++ item.head ++ item.generics.conditionsCode
        ++ item.definitionCode ++ [.punct ';'])
    else none

/-- A declared type behind its keyword. -/
def declaredItem (keyword : String) (tail : Reader DeclarationTail) : Reader Code := do
  let visibility ← visibility
  word keyword
  let name ← name
  let generics ← g.genericParams
  let tail ← tail
  return visibility.code ++ [.word keyword, .ident name] ++ generics.declared ++ tail.code

/-! ## Imports and modules -/

/-- The new name behind `as`, which may be an underscore. -/
def importAlias : Reader Code := do
  word "as"
  if ← peek fun trees => hasName trees || hasWord "_" trees then
    return [.word "as", .ident (← anyIdent)]
  missing ["identifier or underscore"]

/-- Two pieces of code in a row, if both are there. -/
def joinCode : Option Code → Option Code → Option Code
  | some first, some second => some (first ++ second)
  | _, _ => none

/-- Several trees of imports in braces. -/
def useGroup (rooted : Bool) : Reader (Option Code) := do
  let content ← within .brace <| repeatFrom (some ([] : Code)) fun code => do
    if ← isEmpty then return .inr code
    let root ← if rooted then optSign "::" else pure false
    let tree ← g.useTree (rooted && !root)
    let code := if root then none else joinCode code tree
    if ← isEmpty then return .inr code
    sign ","
    return .inl (code.map (· ++ [.punct ',']))
  return content.map fun code => [.group .brace code]

/-- What is imported. -/
def useTreeRule (rooted : Bool) : Reader (Option Code) := do
  if ← peek fun trees => hasName trees || hasWord "self" trees || hasWord "super" trees
      || hasWord "crate" trees || hasWord "try" trees then
    let name ← anyIdent
    if ← optSign "::" then
      let tree ← g.useTree false
      return tree.map fun code => .ident name :: Token.sign [':', ':'] ++ code
    else if ← peek (hasWord "as") then return some (.ident name :: (← importAlias))
    else return some [.ident name]
  else if ← optSign "*" then return some [.punct '*']
  else if ← peek (hasGroup .brace) then g.useGroup rooted
  else missing ["identifier", "`self`", "`super`", "`crate`", "`try`", "`*`", "curly braces"]

/-- An import. -/
def useItem : Reader (Option Code) := do
  let visibility ← visibility
  word "use"
  let leading ← optSign "::"
  let tree ← g.useTree (!leading)
  sign ";"
  return tree.map fun code => visibility.code ++ .word "use"
    :: (if leading then Token.sign [':', ':'] else []) ++ code ++ [.punct ';']

/-- The name behind `as` in the import of a crate. -/
def crateAlias : Reader Code := do
  if ← optWord "as" then
    let name ← if ← peek (hasWord "_") then anyIdent else name
    return [.word "as", .ident name]
  return []

/-- The import of a crate. -/
def crateItem : Reader Code := do
  let visibility ← visibility
  word "extern"
  word "crate"
  let name ← if ← peek (hasWord "self") then anyIdent else name
  let newName ← crateAlias
  sign ";"
  return visibility.code ++ [.word "extern", .word "crate", .ident name] ++ newName ++ [.punct ';']

/-- A block of foreign items. -/
def foreignModule : Reader Code := do
  let unchecked ← mark "unsafe"
  if !(← peek (hasWord "extern")) then word "extern"
  let convention ← convention
  return unchecked ++ convention ++ (← g.itemBlock g.foreignItem)

/-- An item that begins with `extern` and is no function. -/
def foreignRest : Reader Code := do
  let front ← ahead do
    discard visibility
    word "extern"
    return (← get).trees
  if hasWord "crate" front then crateItem
  else if hasGroup .brace front || (hasText front && second (hasGroup .brace) front) then
    g.foreignModule
  else
    discard visibility
    word "extern"
    if ← peek hasText then
      discard literal
      missing ["curly braces"]
    else missing ["`crate`", "curly braces", "string literal"]

/-- A module, in place or elsewhere. -/
def moduleItem : Reader Code := do
  let visibility ← visibility
  let unchecked ← mark "unsafe"
  word "mod"
  let name ← if ← peek (hasWord "try") then anyIdent else name
  let head := visibility.code ++ unchecked ++ [.word "mod", .ident name]
  if ← optSign ";" then return head ++ [.punct ';']
  else if ← peek (hasGroup .brace) then return head ++ (← g.itemBlock g.item)
  else missing ["`;`", "curly braces"]

/-- The definition of a macro by patterns, kept as it was written. -/
def definitionItem : Reader Unit := do
  discard visibility
  word "macro"
  discard name
  let arguments ← peek (hasGroup .parenthesis)
  if arguments then within .parenthesis (discard remaining)
  if ← peek (hasGroup .brace) then within .brace (discard remaining)
  else missing (if arguments then ["curly braces"] else ["parentheses", "curly braces"])

/-! ## Traits and implementations -/

/-- A trait behind its generic parameters. -/
def traitBody (head : Code) (generics : Generics) : Reader Code := do
  let stop : Test := fun trees => hasWord "where" trees || hasGroup .brace trees
  let (bounds, trailing) ← if ← optSign ":" then g.boundsBefore true stop else pure ([], false)
  let conditions ← g.optWhereClause
  return head ++ generics.declared ++ GenericParam.bounded (bounds.map Bound.code) trailing
    ++ WhereClause.optCode conditions ++ (← g.itemBlock g.traitItem)

/-- A trait with its marks. -/
def traitDefinition : Reader Code := do
  let visibility ← visibility
  let unchecked ← mark "unsafe"
  let auto ← mark "auto"
  word "trait"
  let name ← name
  let generics ← g.genericParams
  g.traitBody (visibility.code ++ unchecked ++ auto ++ [.word "trait", .ident name]) generics

/-- A trait, or bounds under a new name. -/
def traitOrAlias : Reader Code := do
  let visibility ← visibility
  word "trait"
  let name ← name
  let generics ← g.genericParams
  let head := visibility.code ++ [.word "trait", .ident name]
  if ← peek fun trees => hasGroup .brace trees || hasSign ":" trees || hasWord "where" trees then
    g.traitBody head generics
  else if ← optSign "=" then
    let stop : Test := fun trees => hasWord "where" trees || hasSign ";" trees
    let (bounds, trailing) ← g.boundsBefore false stop
    let conditions ← g.optWhereClause
    sign ";"
    return head ++ generics.declared ++ .punct '='
      :: Code.separated (.punct '+') trailing (bounds.map Bound.code)
      ++ WhereClause.optCode conditions ++ [.punct ';']
  else missing ["curly braces", "`:`", "`where`", "`=`"]

/-- A path type, invisible groups around it taken off. -/
def traitPath? : Ty → Option Path
  | .group inner => traitPath? inner
  | .path path => some path
  | _ => none

/-- What an implementation is for: the code of the trait and the type, or nothing where the trait is
no path. -/
def implSubject : Reader (Option Code) := do
  let negative ← peek fun trees => hasSign "!" trees && !second (hasGroup .brace) trees
  if negative then sign "!"
  let first ← g.ty true true
  if ← optWord "for" then
    let self ← g.ty true true
    return (traitPath? first).map fun path =>
      (if negative then [.punct '!'] else []) ++ path.code ++ .word "for" :: self.code
  else
    if negative then refuse "inherent impls cannot be negative"
    return some first.code

/-- An implementation.  With a visibility or with `const` it has no form of its own. -/
def implementationItem : Reader (Option Code) := do
  let visibility ← visibility
  let default ← mark "default"
  let unchecked ← mark "unsafe"
  word "impl"
  let generics ← if ← peek startsParams then g.genericParams else pure {}
  let const ← peek fun trees =>
    hasWord "const" trees || (hasSign "?" trees && second (hasWord "const") trees)
  if const then
    discard (optSign "?")
    word "const"
  let subject ← g.implSubject
  let conditions ← g.optWhereClause
  let body ← g.itemBlock g.implItem
  if const || !isInherited visibility then return none
  return subject.map fun subject => default ++ unchecked ++ .word "impl" :: generics.declared
    ++ subject ++ WhereClause.optCode conditions ++ body

/-! ## Choosing among them -/

/-- Items that begin with `unsafe` and are no functions. -/
def unsafeItem : Reader (Option Code) := do
  let front ← ahead do
    discard visibility
    word "unsafe"
    return (← get).trees
  if hasWord "trait" front || (hasWord "auto" front && second (hasWord "trait") front) then
    return some (← g.traitDefinition)
  else if hasWord "impl" front then g.implementationItem
  else if hasWord "extern" front then return some (← g.foreignModule)
  else if hasWord "mod" front then return some (← g.moduleItem)
  else
    discard visibility
    word "unsafe"
    missingWords ["trait", "auto", "impl", "extern", "mod"] []

/-- The keywords that may open an item, as a message lists them. -/
def itemKeywords : List String :=
  ["fn", "extern", "use", "static", "const", "unsafe", "mod", "type", "struct", "enum", "union",
   "trait", "auto", "impl", "default", "macro"]

/-- An item behind its attributes, unless it has to be kept as it was written. -/
def itemRest : Reader (Option Code) := do
  let (inherited, front) ← ahead do
    let visibility ← visibility
    return (isInherited visibility, (← get).trees)
  if startsSignature false front then g.functionItem
  else if hasWord "extern" front then return some (← g.foreignRest)
  else if hasWord "use" front then g.useItem
  else if hasWord "static" front then g.staticItem
  else if hasWord "const" front then g.constantItem
  else if hasWord "unsafe" front then g.unsafeItem
  else if hasWord "mod" front then return some (← g.moduleItem)
  else if hasWord "type" front then g.aliasItem
  else if hasWord "struct" front then return some (← g.declaredItem "struct" g.structTail)
  else if hasWord "enum" front then return some (← g.declaredItem "enum" g.enumTail)
  else if hasWord "union" front && second hasName front then
    return some (← g.declaredItem "union" g.unionTail)
  else if hasWord "trait" front then return some (← g.traitOrAlias)
  else if hasWord "auto" front && second (hasWord "trait") front then
    return some (← g.traitDefinition)
  else if hasWord "impl" front || (hasWord "default" front && !second (hasSign "!") front) then
    g.implementationItem
  else if hasWord "macro" front then
    definitionItem
    return none
  else if inherited && startsInvocationItem front then return some (← invocationItem true)
  else
    discard visibility
    missingWords itemKeywords (if inherited then invocationOpenings else [])

/-- An item with its attributes. -/
def itemRule : Reader Code := g.itemWith g.itemRest

end Overlay.Grammar
