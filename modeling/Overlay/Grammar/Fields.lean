import Overlay.Grammar.Generics

/-!
Rules for the fields and variants of declared types, and for who can see them.
-/

namespace Overlay.Grammar

open Reader Cursor

variable (g : Grammar)

/-! ## Visibility -/

/-- A visibility in parentheses behind `pub`, if there is one.  Other parentheses belong to what
follows. -/
def restriction : Reader (Option Visibility) := do
  let inside ← peek fun trees =>
    match group? .parenthesis trees with
    | some found => hasWord "in" found.value.1
    | none => false
  let short ← peek fun trees =>
    match group? .parenthesis trees with
    | some found =>
      match ident? found.value.1 with
      | some name => name.rest.isEmpty
        && [⟨"crate", false⟩, ⟨"self", false⟩, ⟨"super", false⟩].contains name.value
      | none => false
    | none => false
  if inside then
    within .parenthesis do
      word "in"
      return some (.restricted true (← plainPath))
  else if short then
    within .parenthesis do
      return some (.restricted false (.ofNames false [← anyIdent]))
  else return none

/-- A visibility.  An empty invisible group stands for none. -/
def visibility : Reader Visibility := do
  let absent ← peek fun trees =>
    match group? .invisible trees with
    | some found => found.value.1.isEmpty
    | none => false
  if absent then
    within .invisible (return .inherited)
  else if ← optWord "pub" then return (← restriction).getD .visible
  else return .inherited

/-! ## Fields -/

/-- The trees that a type is written with.  A binder in front of a macro call is not written. -/
def writtenPart (ty : Ty) (taken : List Tree) : List Tree :=
  match ty with
  | .invocation .. => taken.drop (taken.length - ty.code.length)
  | _ => taken

/-- The type of a field behind its name.  Where an underscore stands for the name, the type may be a
struct or union without a name. -/
def fieldTyped (attributes : List Attribute) (visibility : Visibility) (unnamed : Bool)
    (name : Ident) : Reader Field := do
  sign ":"
  let nested ← peek fun trees =>
    hasWord "struct" trees || (hasWord "union" trees && second (hasGroup .brace) trees)
  if unnamed && nested then
    let (_, taken) ← recorded do
      discard anyIdent
      g.fields
    return ⟨attributes, visibility, name, .verbatim (Tree.codeOf taken), coverOf taken⟩
  let (ty, taken) ← recorded (g.ty true true)
  return ⟨attributes, visibility, name, ty, coverOf (writtenPart ty taken)⟩

/-- A named field.  An underscore may stand for its name. -/
def namedField : Reader Field := do
  let attributes ← g.outerAttributes
  let visibility ← visibility
  let unnamed ← peek (hasWord "_")
  let name ← if unnamed then anyIdent else name
  g.fieldTyped attributes visibility unnamed name

/-- Named fields between braces, and whether a comma follows the last. -/
def fieldsRule : Reader (List Field × Bool) := within .brace (terminated g.namedField)

/-- The code of named fields. -/
def fieldsCode (fields : List Field) (trailing : Bool) : Code :=
  [.group .brace (Code.separated (.punct ',') trailing (fields.map Field.code))]

/-- Fields between parentheses, which have no names. -/
def positionalFields : Reader Code := do
  let (fields, trailing) ← within .parenthesis <| terminated do
    let attrs ← g.attributesCode
    let visibility ← visibility
    return attrs ++ visibility.code ++ (← g.ty true true).code
  return [.group .parenthesis (Code.separated (.punct ',') trailing fields)]

/-- The fields of a variant, if it has any. -/
def variantFields : Reader Code := do
  if ← peek (hasGroup .brace) then
    let (fields, trailing) ← g.fields
    return fieldsCode fields trailing
  else if ← peek (hasGroup .parenthesis) then g.positionalFields
  else return []

/-- A variant of an enumeration.  Its visibility is not written. -/
def variant : Reader Code := do
  let attrs ← g.attributesCode
  discard visibility
  let name ← name
  let fields ← g.variantFields
  let value ← if ← optSign "=" then pure (.punct '=' :: (← g.expr true).code) else pure []
  return attrs ++ .ident name :: fields ++ value

/-! ## What follows the generic parameters -/

/-- The part of a declaration behind its generic parameters. -/
structure DeclarationTail where
  conditions : Option WhereClause
  body : Body
  code : Code

/-- The end of a struct whose fields have no names. -/
def tupleTail (fields : Code) : Reader DeclarationTail := do
  let conditions ← g.optWhereClause
  if ← optSign ";" then
    return ⟨conditions, .other .tupleStruct,
      fields ++ WhereClause.optCode conditions ++ [.punct ';']⟩
  else missing (if conditions.isNone then ["`where`", "`;`"] else ["`;`"])

/-- What follows the generic parameters of a struct. -/
def structTail : Reader DeclarationTail := do
  let conditions ← g.optWhereClause
  let lead := WhereClause.optCode conditions
  if conditions.isNone && (← peek (hasGroup .parenthesis)) then
    g.tupleTail (← g.positionalFields)
  else if ← peek (hasGroup .brace) then
    let (fields, trailing) ← g.fields
    return ⟨conditions, .record fields, lead ++ fieldsCode fields trailing⟩
  else if ← optSign ";" then return ⟨conditions, .other .unitStruct, lead ++ [.punct ';']⟩
  else missing (if conditions.isNone then ["`where`", "parentheses", "curly braces", "`;`"]
    else ["curly braces", "`;`"])

/-- What follows the generic parameters of an enumeration. -/
def enumTail : Reader DeclarationTail := do
  let conditions ← g.optWhereClause
  let (variants, trailing) ← within .brace (terminated g.variant)
  return ⟨conditions, .other .enum, WhereClause.optCode conditions
    ++ [.group .brace (Code.separated (.punct ',') trailing variants)]⟩

/-- What follows the generic parameters of a union. -/
def unionTail : Reader DeclarationTail := do
  let conditions ← g.optWhereClause
  let (fields, trailing) ← g.fields
  return ⟨conditions, .other .union,
    WhereClause.optCode conditions ++ fieldsCode fields trailing⟩

end Overlay.Grammar
