import Overlay.Grammar.Fields
import Overlay.Grammar.Pattern

/-!
Rules for the signatures of functions.
-/

namespace Overlay.Grammar

open Reader Cursor

variable (g : Grammar)

/-- The code of a keyword, if it stands here. -/
def mark (w : String) : Reader Code := do
  if ← optWord w then return [.word w] else return []

/-- The input behind a keyword, if it stands here. -/
def behindWord (w : String) (trees : List Tree) : List Tree :=
  match ident? trees with
  | some found => if found.value = ⟨w, false⟩ then found.rest else trees
  | none => trees

/-- Is there a string literal? -/
def hasText : Test := fun trees =>
  match literal? trees with
  | some found => (Text.stringValue? found.value.toList).isSome
  | none => false

/-- The input behind a calling convention, if one stands here. -/
def behindConvention (trees : List Tree) : List Tree :=
  if hasWord "extern" trees then
    let rest := behindWord "extern" trees
    if hasText rest then (skip rest).getD rest else rest
  else trees

/-- Does a function begin here?  Where functions of another language are declared, `safe` may stand
in place of `unsafe`. -/
def startsSignature (safe : Bool) : Test := fun trees =>
  let trees := behindWord "async" (behindWord "const" trees)
  let trees := if safe && hasWord "safe" trees then behindWord "safe" trees
    else behindWord "unsafe" trees
  hasWord "fn" (behindConvention trees)

/-! ## Parameters -/

/-- A parameter of a function. -/
inductive Parameter where
  /-- The value that a method is called on. -/
  | receiver (code : Code)
  | typed (code : Code)
  /-- Any number of further arguments; the code in front of the dots. -/
  | variadic (code : Code)

/-- The value that a method is called on. -/
def receiver : Reader Code := do
  if ← optSign "&" then
    let lifetime ← if ← peek hasLifetime then pure (Token.lifetime (← lifetime)) else pure []
    let mutable ← mark "mut"
    word "self"
    return .punct '&' :: lifetime ++ mutable ++ [.word "self"]
  else
    let mutable ← mark "mut"
    word "self"
    let code := mutable ++ [.word "self"]
    if ← optSign ":" then return code ++ .punct ':' :: (← g.ty true true).code
    return code

/-- Does the value that a method is called on stand here, rather than a path that begins with
`self`? -/
def startsReceiver : Test := fun trees =>
  let trees := match sign? ['&'] trees with
    | some found =>
      match lifetime? found.rest with
      | some label => label.rest
      | none => found.rest
    | none => trees
  let trees := behindWord "mut" trees
  hasWord "self" trees && !second (hasSign "::") trees

/-- A parameter behind its attributes.  A type with arguments may stand without a pattern. -/
def parameter : Reader Parameter := do
  if ← peek startsReceiver then return .receiver (← g.receiver)
  if ← peek fun trees => hasName trees && second (hasSign "<") trees then
    return .typed ([.word "_", .punct ':'] ++ (← g.ty true true).code)
  let pattern ← g.pattern false
  sign ":"
  let code := pattern.code ++ [.punct ':']
  if ← optSign "..." then return .variadic code
  return .typed (code ++ (← g.ty true true).code)

/-- The end of a list of parameters behind the dots. -/
def afterDots : Reader Code := do
  if ← isEmpty then return Token.sign ['.', '.', '.']
  sign ","
  return Token.sign ['.', '.', '.'] ++ [.punct ',']

/-- The end of a list of parameters, or the comma in front of another one. -/
def parameterEnd (code : Code) (received : Bool) : Reader ((Code × Bool × Bool) ⊕ Code) := do
  if ← isEmpty then return .inr code
  sign ","
  return .inl (code ++ [.punct ','], false, received)

/-- The parameters of a function.  Only the first may be a receiver. -/
def parameters : Reader Code :=
  repeatFrom (([] : Code), true, false) fun (code, first, received) => do
    if ← isEmpty then return .inr code
    let code := code ++ (← g.attributesCode)
    if ← optSign "..." then return .inr (code ++ (← afterDots))
    match ← g.parameter with
    | .variadic lead => return .inr (code ++ lead ++ (← afterDots))
    | .typed next => parameterEnd (code ++ next) received
    | .receiver next =>
      if received then refuse "unexpected second method receiver"
      if !first then refuse "unexpected method receiver"
      parameterEnd (code ++ next) true

/-! ## Signatures -/

/-- A signature, and whether it is marked as `safe`, which has no form of its own. -/
def signature (safe : Bool) : Reader (Code × Bool) := do
  let const ← mark "const"
  let async ← mark "async"
  let unchecked ← mark "unsafe"
  let checked ← if safe && unchecked.isEmpty then optWord "safe" else pure false
  let convention ← convention
  word "fn"
  let name ← name
  let generics ← g.genericParams
  let rest ← withinThen .parenthesis g.parameters fun params => do
    let output ← g.output true
    let conditions ← g.optWhereClause
    return .group .parenthesis params :: outputCode output ++ WhereClause.optCode conditions
  return (const ++ async ++ unchecked ++ convention ++ [.word "fn", .ident name]
    ++ generics.declared ++ rest, checked)

end Overlay.Grammar
