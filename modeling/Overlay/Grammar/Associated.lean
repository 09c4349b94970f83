import Overlay.Grammar.Signature

/-!
Rules for items inside of traits, implementations and blocks of foreign functions.  What a compiler
would accept only for the sake of a better message is kept as it was written: the reader answers
with no code for it.
-/

namespace Overlay.Grammar

open Reader Cursor

variable (g : Grammar)

/-- Attributes and what they belong to; without code of its own, it is kept as it was written. -/
def itemWith (item : Reader (Option Code)) : Reader Code := do
  let ((attrs, code), taken) ← recorded do
    let attrs ← g.attributesCode
    return (attrs, ← item)
  match code with
  | some code => return attrs ++ code
  | none => return Tree.codeOf taken

/-- Braces with inner attributes and items. -/
def itemBlock (item : Reader Code) : Reader Code := do
  let content ← within .brace do
    let attrs ← g.innerAttributes
    repeatFrom attrs fun code => do
      if ← isEmpty then return .inr code
      return .inl (code ++ (← item))
  return [.group .brace content]

/-- Reports that none of these words stands here, nor any of the further alternatives. -/
def missingWords {α : Type} (words further : List String) : Reader α := do
  let trees := (← get).trees
  missing ((words.filter fun w => !hasWord w trees).map (fun w => "`" ++ w ++ "`") ++ further)

/-! ## Macro calls -/

/-- Does a macro call begin here, as far as one can tell from its first token? -/
def startsInvocationItem : Test := fun trees =>
  hasName trees || hasWord "self" trees || hasWord "super" trees || hasWord "crate" trees
    || hasSign "::" trees

/-- What a macro call may begin with, as a message lists it. -/
def invocationOpenings : List String := ["identifier", "`self`", "`super`", "`crate`", "`::`"]

/-- A macro call as an item.  `named` ones may define something by the name behind the mark.
Without braces, a semicolon follows. -/
def invocationItem (named : Bool) : Reader Code := do
  let path ← plainPath
  sign "!"
  let name ← if ← peek fun trees => named && (hasWord "try" trees || hasName trees) then
      pure [.ident (← anyIdent)]
    else pure []
  let (delimiter, content, _) ← bracketedArgs
  let code := path.code ++ .punct '!' :: name ++ [.group delimiter (Tree.codeOf content)]
  if delimiter = .brace then return code
  sign ";"
  return code ++ [.punct ';']

/-! ## Constants and types -/

/-- A constant. -/
structure ConstItem where
  code : Code
  /-- It has a value. -/
  valued : Bool
  /-- It has neither generic parameters nor conditions. -/
  plain : Bool

/-- A constant behind its keyword. -/
def constItem : Reader ConstItem := do
  if !(← peek fun trees => hasName trees || hasWord "_" trees) then missing ["identifier", "`_`"]
  let name ← anyIdent
  let angled ← peek (hasSign "<")
  discard g.genericParams
  sign ":"
  let ty ← g.ty true true
  let value ← if ← optSign "=" then pure (some (← g.expr true).code) else pure none
  let conditions ← g.optWhereClause
  sign ";"
  let assigned := match value with
    | some code => .punct '=' :: code
    | none => []
  return ⟨[.word "const", .ident name, .punct ':'] ++ ty.code ++ assigned ++ [.punct ';'],
    value.isSome, !angled && conditions.isNone⟩

/-- The parts of a type that is declared by another one, or by bounds. -/
structure TypeItem where
  visibility : Visibility
  lead : Code
  name : Ident
  generics : Generics
  bounds : Option (List Bound × Bool)
  definition : Option Ty

namespace TypeItem

/-- The keyword, the name and the parameters. -/
def head (t : TypeItem) : Code := [.word "type", .ident t.name] ++ t.generics.declared

/-- The bounds behind a colon, which is left out if there are none. -/
def boundsCode (t : TypeItem) : Code :=
  match t.bounds with
  | some (bounds, trailing) => GenericParam.bounded (bounds.map Bound.code) trailing
  | none => []

/-- The definition behind its equals sign. -/
def definitionCode (t : TypeItem) : Code :=
  match t.definition with
  | some ty => .punct '=' :: ty.code
  | none => []

/-- It is defined, and not bounded. -/
def isDefinition (t : TypeItem) : Bool := t.definition.isSome && t.bounds.isNone

end TypeItem

/-- A type item.  `before` and `after` say on which sides of the definition conditions may stand. -/
def typeItem (mayDefault before after : Bool) : Reader TypeItem := do
  let visibility ← visibility
  let lead ← if mayDefault then mark "default" else pure []
  word "type"
  let name ← name
  let generics ← g.genericParams
  let stop : Test := fun trees => hasWord "where" trees || hasSign "=" trees || hasSign ";" trees
  let bounds ← if ← optSign ":" then pure (some (← g.boundsBefore true stop)) else pure none
  let early ← if before then g.optWhereClause else pure none
  let definition ← if ← optSign "=" then pure (some (← g.ty true true)) else pure none
  let late ← if after && early.isNone then g.optWhereClause else pure none
  sign ";"
  return ⟨visibility, lead, name, { generics with conditions := early.or late }, bounds, definition⟩

/-! ## Items of traits -/

/-- A function of a trait, with a body or with a semicolon in its place. -/
def traitFunction : Reader Code := do
  let (signature, _) ← g.signature false
  if ← peek (hasGroup .brace) then return signature ++ (← g.bodyBlock)
  else if ← optSign ";" then return signature ++ [.punct ';']
  else missing ["curly braces", "`;`"]

/-- A constant of a trait, or a function that begins with `const`. -/
def traitConst : Reader (Option Code) := do
  let function ← peek fun trees => second (fun rest =>
    hasWord "async" rest || hasWord "unsafe" rest || hasWord "extern" rest
      || hasWord "fn" rest) trees
  if function then return some (← g.traitFunction)
  word "const"
  if !(← peek fun trees => hasName trees || hasWord "_" trees) then
    missing ["identifier", "`_`", "`async`", "`unsafe`", "`extern`", "`fn`"]
  let item ← g.constItem
  return if item.plain then some item.code else none

/-- A type of a trait. -/
def traitType : Reader (Option Code) := do
  let item ← g.typeItem false false true
  match item.visibility with
  | .inherited =>
    return some (item.head ++ item.boundsCode ++ item.definitionCode
      ++ item.generics.conditionsCode ++ [.punct ';'])
  | _ => return none

/-- Is a visibility left out? -/
def isInherited : Visibility → Bool
  | .inherited => true
  | _ => false

/-- An item of a trait behind its visibility; `bare` says whether nothing stands in front of it. -/
def traitItemCode (bare : Bool) : Reader (Option Code) := do
  if ← peek (startsSignature false) then return some (← g.traitFunction)
  else if ← peek (hasWord "const") then g.traitConst
  else if ← peek (hasWord "type") then g.traitType
  else if ← peek fun trees => bare && startsInvocationItem trees then
    return some (← invocationItem false)
  else missingWords ["fn", "const", "type"] (if bare then invocationOpenings else [])

/-- An item of a trait behind its attributes.  With a visibility or the mark `default` it has no
form of its own. -/
def traitItemRest : Reader (Option Code) := do
  let visibility ← visibility
  let default ← optWord "default"
  let bare := isInherited visibility && !default
  let code ← g.traitItemCode bare
  return if bare then code else none

/-- An item of a trait. -/
def traitItem : Reader Code := g.itemWith g.traitItemRest

/-! ## Items of implementations -/

/-- The visibility and the mark `default` in front of an item. -/
def itemLead : Reader Code := do
  let visibility ← visibility
  return visibility.code ++ (← mark "default")

/-- A function of an implementation.  Without a body it has no form of its own. -/
def implFunction : Reader (Option Code) := do
  let lead ← itemLead
  let (signature, _) ← g.signature false
  if ← optSign ";" then return none
  return some (lead ++ signature ++ (← g.bodyBlock))

/-- A constant of an implementation, which needs a value. -/
def implConst : Reader (Option Code) := do
  let lead ← itemLead
  word "const"
  let item ← g.constItem
  return if item.plain && item.valued then some (lead ++ item.code) else none

/-- A type of an implementation, which needs a definition. -/
def implTypeItem : Reader (Option Code) := do
  let item ← g.typeItem true false true
  return if item.isDefinition then
      some (item.visibility.code ++ item.lead ++ item.head ++ item.definitionCode
        ++ item.generics.conditionsCode ++ [.punct ';'])
    else none

/-- What stands at the front of an item of an implementation: its visibility, the mark `default`,
and the input behind them. -/
def implFront : Reader (Bool × Bool × List Tree) := ahead do
  let visibility ← visibility
  let default ← peek fun trees => hasWord "default" trees && !second (hasSign "!") trees
  if default then word "default"
  return (isInherited visibility, default, (← get).trees)

/-- An item of an implementation behind its attributes. -/
def implItemRest : Reader (Option Code) := do
  let (inherited, default, front) ← implFront
  let bare := inherited && !default
  if startsSignature false front then g.implFunction
  else if hasWord "const" front then g.implConst
  else if hasWord "type" front then g.implTypeItem
  else if bare && startsInvocationItem front then return some (← invocationItem false)
  else
    discard visibility
    if default then word "default"
    missingWords ((if default then [] else ["default"]) ++ ["fn", "const", "type"])
      (if bare then invocationOpenings else [])

/-- An item of an implementation. -/
def implItem : Reader Code := g.itemWith g.implItemRest

/-! ## Foreign items -/

/-- A foreign function.  With a body, or marked as `safe`, it has no form of its own. -/
def foreignFunction : Reader (Option Code) := do
  let visibility ← visibility
  let (signature, safe) ← g.signature true
  if ← peek (hasGroup .brace) then
    discard g.bodyBlock
    return none
  sign ";"
  return if safe then none else some (visibility.code ++ signature ++ [.punct ';'])

/-- A foreign variable.  With a value or a mark it has no form of its own. -/
def foreignStatic : Reader (Option Code) := do
  let visibility ← visibility
  let unchecked ← optWord "unsafe"
  let checked ← if unchecked then pure false else optWord "safe"
  word "static"
  let mutable ← mark "mut"
  let name ← name
  sign ":"
  let ty ← g.ty true true
  let valued ← optSign "="
  if valued then discard (g.expr true)
  sign ";"
  if unchecked || checked || valued then return none
  return some (visibility.code ++ .word "static" :: mutable ++ [.ident name, .punct ':'] ++ ty.code
    ++ [.punct ';'])

/-- A foreign type, of which nothing is known. -/
def foreignType : Reader (Option Code) := do
  let item ← g.typeItem false true true
  if item.bounds.isSome || item.definition.isSome then return none
  return some (item.visibility.code ++ item.head ++ item.generics.conditionsCode ++ [.punct ';'])

/-- A foreign item behind its attributes. -/
def foreignItemRest : Reader (Option Code) := do
  let (inherited, front) ← ahead do
    let visibility ← visibility
    return (isInherited visibility, (← get).trees)
  let marked := (hasWord "unsafe" front || hasWord "safe" front) && second (hasWord "static") front
  if startsSignature true front then g.foreignFunction
  else if hasWord "static" front || marked then g.foreignStatic
  else if hasWord "type" front then g.foreignType
  else if inherited && startsInvocationItem front then return some (← invocationItem false)
  else
    discard visibility
    missingWords ["fn", "static", "type"] (if inherited then invocationOpenings else [])

/-- A foreign item. -/
def foreignItem : Reader Code := g.itemWith g.foreignItemRest

end Overlay.Grammar
