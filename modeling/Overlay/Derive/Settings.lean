import Overlay.Grammar.Declaration
import Overlay.Lexer.Forest
import Overlay.Text.Quoted

/-!
Settings of a record, read from the attributes that carry them.

One setting exists: `crate = "path"` names the runtime crate.  Unknown keys are passed over, which
for a key with a value means all that is left of its attribute.  Reading stops at the first mistake;
of several paths the last one counts.
-/

namespace Overlay

/-- What the attributes of a record say. -/
structure Settings where
  /-- The path of the runtime crate, where it is not the usual one. -/
  runtime : Option Path := none

/-- Reads a path from the text of a string literal. -/
def Path.ofText (text : String) : Except Problem Path :=
  match Lexer.forest? text with
  | none => .error .unlexable
  | some trees =>
    match Path.ofTrees trees with
    | .ok path => .ok path
    | .error fault => .error fault.problem

namespace Settings

open Reader Cursor

/-- The name of the attributes that carry settings. -/
def attributeName : String := "spreadable"

/-- A further name of a path behind `::`, if there is one. -/
def moreNames (names : List Ident) : Reader (List Ident ⊕ List Ident) := do
  if ← optSign "::" then return .inl (names ++ [← anyIdent])
  return .inr names

/-- The names of a path: identifiers of any kind, keywords included. -/
def itemNames : Reader (List Ident) := do
  if !(← peek hasAnyIdent) then
    if ← isEmpty then missing ["nested attribute"]
    if ← peek hasLiteral then refuse "unexpected literal in nested attribute, expected ident"
    refuse "unexpected token in nested attribute, expected ident"
  let first ← anyIdent
  repeatFrom [first] moreNames

/-- The path in front of an item: whether `::` leads it, and its names. -/
def itemPath : Reader (Bool × List Ident) := do
  let leading ← optSign "::"
  return (leading, ← itemNames)

/-- The value of `crate`: a string literal that holds a path.  Whatever is wrong with it is reported
at the literal. -/
def runtimePath : Reader Path := do
  sign "="
  let value ← literal
  match Text.stringValue? value.text.toList with
  | none => failAt value.span (.refused "crate must be a string")
  | some text =>
    match Path.ofText (String.ofList text) with
    | .ok path => return path
    | .error problem => failAt value.span problem

/-- What belongs to an unknown key. -/
def passOver : Reader Unit := do
  if ← optSign "=" then discard remaining
  else if ← peek (hasGroup .parenthesis) then within .parenthesis (discard remaining)

/-- One item of an attribute. -/
def item (settings : Settings) : Reader Settings := do
  let path ← itemPath
  if path = (false, [⟨"crate", false⟩]) then
    return { settings with runtime := some (← runtimePath) }
  else
    passOver
    return settings

/-- An item with the comma behind it; without a comma, or without an item, there is no more. -/
def moreItems (settings : Settings) : Reader (Settings ⊕ Settings) := do
  if ← isEmpty then return .inr settings
  let settings ← item settings
  if ← isEmpty then return .inr settings
  sign ","
  return .inl settings

/-- The items of an attribute, separated by commas, of which the last may stand at the end. -/
def items (settings : Settings) : Reader Settings := repeatFrom settings moreItems

/-- What an attribute adds to the settings before it. -/
def readAttribute (settings : Settings) (attr : Attribute) : Except Fault Settings :=
  match attr.args with
  | .bare =>
    .error ⟨
      .refused ("expected attribute arguments in parentheses: #[" ++ attributeName ++ "(...)]"),
      attr.span⟩
  | .value equals _ =>
    .error ⟨.refused ("expected parentheses: #[" ++ attributeName ++ "(...)]"), equals⟩
  | .list _ content closing => Reader.complete (items settings) content closing

/-- The settings that the attributes of a record make.  Other attributes are ignored. -/
def ofAttributes (attributes : List Attribute) : Except Fault Settings :=
  (attributes.filter (·.isNamed attributeName)).foldlM readAttribute {}

/-- The code that names the runtime crate. -/
def runtimeCode (settings : Settings) : Code :=
  match settings.runtime with
  | some path => path.code
  | none => [.word "spreadable"]

end Settings

end Overlay
