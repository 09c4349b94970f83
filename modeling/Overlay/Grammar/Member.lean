import Overlay.Grammar.Literal
import Overlay.Lexer.Forest
import Overlay.Text.Numeral

/-!
Members of structs: names of fields, and positions where fields have no names.  A position is any
integer without suffix that fits into 32 bits, and is written in decimal.
-/

namespace Overlay.Grammar

open Reader Cursor

/-- A field by its name or by its position. -/
inductive FieldRef where
  | name (name : Ident)
  | position (index : Nat)
deriving DecidableEq, Repr

namespace FieldRef

/-- The code of a reference to a field. -/
def code : FieldRef → Code
  | name ident => [.ident ident]
  | position index => [.literal (toString index)]

/-- Is it by name? -/
def isName : FieldRef → Bool
  | name _ => true
  | position _ => false

end FieldRef

/-- The number that a literal spells, without its sign. -/
def unsigned (text : String) : List Char :=
  match text.toList with
  | '-' :: digits => digits
  | digits => digits

/-- Is there an integer, perhaps behind a minus sign? -/
def hasInteger : Test := fun trees =>
  match signedLiteral? trees with
  | some found => (Text.integer? (unsigned found.value)).isSome
  | none => false

/-- Is there a number that is no integer, perhaps behind a minus sign? -/
def hasFloat : Test := fun trees =>
  match signedLiteral? trees with
  | some found => Text.isFloat (unsigned found.value)
  | none => false

/-- The greatest position. -/
def greatestPosition : Nat := 0xffffffff

/-- A position. -/
def position : Reader Nat := do
  if !(← peek hasInteger) then missing ["integer literal"]
  let value ← literal
  match Text.integer? (unsigned value.text) with
  | none => failAt value.span (.expected ["integer literal"])
  | some integer =>
    if !integer.suffix.isEmpty then failAt value.span (.expected ["unsuffixed integer"])
    if value.text.startsWith "-" then failAt value.span (.refused "invalid digit found in string")
    if greatestPosition < integer.value then
      failAt value.span (.refused "number too large to fit in target type")
    return integer.value

/-- A field by its name or by its position. -/
def member : Reader FieldRef := do
  if ← peek hasName then return .name (← name)
  else if ← peek hasInteger then return .position (← position)
  else missing ["identifier or integer"]

/-- The position that a part of a number spells. -/
def positionOf (span : Span) (part : String) : Reader Nat :=
  match Lexer.forest? part with
  | none => failAt span .unlexable
  | some trees =>
    match complete position trees span with
    | .ok index => return index
    | .error fault => failAt span fault.problem

/-- The positions that a number with a point stands for, and whether it ends with the point. -/
def positions : Reader (List Nat × Bool) := do
  let value ← literal
  let parts := value.text.splitOn "."
  let dangling := value.text.endsWith "."
  let parts := if dangling then parts.dropLast else parts
  return (← parts.mapM (positionOf value.span), dangling)

end Overlay.Grammar
