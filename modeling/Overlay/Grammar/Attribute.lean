import Overlay.Grammar.Core
import Overlay.Grammar.Literal

/-!
Rules for attributes.  Outer ones stand in front of what they belong to, inner ones at the front of
its braces.
-/

namespace Overlay.Grammar

open Reader Cursor

variable (g : Grammar)

/-- A path of plain names, some of which may be keywords. -/
def plainPath : Reader Path := do
  let leading ← optSign "::"
  let isSegment : Test := fun trees =>
    hasName trees || hasWord "super" trees || hasWord "self" trees || hasWord "Self" trees
      || hasWord "crate" trees
  let (names, trailing) ← repeatFrom (([] : List Ident), false) fun (names, colons) => do
    if !(← peek isSegment) then return .inr (names, colons)
    let next ← anyIdent
    if ← optSign "::" then return .inl (names ++ [next], true)
    return .inr (names ++ [next], false)
  if names.isEmpty then
    discard name
  if trailing then
    fail (.expected ["path segment after `::`"])
  return .ofNames leading names

/-- Arguments in brackets of any kind, unread.  Here an invisible group hides them. -/
def bracketedArgs : Reader (Delimiter × List Tree × Span) :=
  take "delimiter" fun trees =>
    match trees with
    | .group d content opening closing :: rest =>
      if d = .invisible then none
      else some ⟨(d, content, closing), [.group d content opening closing], rest⟩
    | _ => none

/-- Are there brackets of any kind? -/
def hasBrackets : Test := fun trees =>
  hasGroup .parenthesis trees || hasGroup .bracket trees || hasGroup .brace trees

/-- The value of an attribute: a literal that is all of it, or any expression. -/
def attributeValue : Reader Code := do
  let literal? ← attempt do
    let value ← literal
    if ← isEmpty then return value
    missing ["end of attribute"]
  match literal? with
  | some value => return value.code
  | none =>
    if ← peek fun trees => hasSign "#" trees && second (hasGroup .bracket) trees then
      refuse "unexpected attribute inside of attribute"
    return (← g.expr true).code

/-- What follows the path of an attribute. -/
def attributeArgs : Reader AttributeArgs := do
  if ← peek hasBrackets then
    let (delimiter, content, closing) ← bracketedArgs
    return .list delimiter content closing
  else if ← peek fun trees => hasSign "=" trees && !hasSign "==" trees && !hasSign "=>" trees then
    let equals ← place
    sign "="
    return .value equals (← g.attributeValue)
  else return .bare

/-- The path of an attribute: plain names, or the keyword `unsafe`. -/
def attributePath : Reader Path := do
  if ← optWord "unsafe" then return .ofNames false [⟨"unsafe", false⟩] else plainPath

/-- An outer attribute. -/
def outerAttribute : Reader Attribute := do
  sign "#"
  within .bracket do
    let (path, taken) ← recorded attributePath
    return ⟨path, coverOf taken, ← g.attributeArgs⟩

/-- Any number of outer attributes. -/
def outerAttributes : Reader (List Attribute) :=
  repeatFrom ([] : List Attribute) fun done => do
    if ← peek (hasSign "#") then return .inl (done ++ [← g.outerAttribute])
    return .inr done

/-- The code of any number of outer attributes. -/
def attributesCode : Reader Code := do
  return (← g.outerAttributes).flatMap Attribute.code

/-- The code of inner attributes at the front of braces. -/
def innerAttributes : Reader Code :=
  repeatFrom ([] : Code) fun code => do
    if ← peek fun trees => hasSign "#" trees && second (hasSign "!") trees then
      sign "#"
      sign "!"
      let content ← within .bracket do
        let path ← attributePath
        return path.code ++ Attribute.argsCode (← g.attributeArgs)
      return .inl (code ++ [.punct '#', .punct '!', .group .bracket content])
    return .inr code

/-! ## Blocks -/

/-- A block, which has no attributes of its own. -/
def block : Reader Code := do
  return [.group .brace (← within .brace g.statements)]

/-- The attributes at the front of a block, and its statements. -/
def blockParts : Reader (Code × Code) :=
  within .brace do
    let attrs ← g.innerAttributes
    return (attrs, ← g.statements)

/-- A block that may begin with attributes. -/
def bodyBlock : Reader Code := do
  let (attrs, statements) ← g.blockParts
  return [.group .brace (attrs ++ statements)]

end Overlay.Grammar
