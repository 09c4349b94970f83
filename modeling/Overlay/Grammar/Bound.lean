import Overlay.Grammar.Path

/-!
Rules for bounds.
-/

namespace Overlay.Grammar

open Reader Cursor

variable (g : Grammar)

/-- An arrow and the type behind it, if there is one. -/
def output (plus : Bool) : Reader (Option Ty) := do
  if ← optSign "->" then return some (← g.ty plus true) else return none

/-- Arguments in parentheses and the result behind an arrow. -/
def calledArgs : Reader Args :=
  withinThen .parenthesis (terminated (g.ty true true)) fun (inputs, trailing) => do
    return .called inputs trailing (← g.output false)

/-- What `use<…>` may list: a lifetime, a name, or `Self`. -/
def captured : Reader (Bool × Code) := do
  if ← peek hasLifetime then return (true, Token.lifetime (← lifetime))
  else if (← peek hasName) || (← peek (hasWord "Self")) then return (false, [.ident (← anyIdent)])
  else missing ["lifetime", "identifier", "`>`"]

/-- The list of what a type captures: `use<'a, T>`. -/
def capture : Reader Code := do
  word "use"
  sign "<"
  let (items, trailing) ← repeatFrom (([] : List (Bool × Code)), false) fun (done, comma) => do
    if ← peek (hasSign ">") then return .inr (done.reverse, comma)
    let next ← captured
    if ← peek (hasSign ">") then return .inr ((next :: done).reverse, false)
    if ← optSign "," then return .inl (next :: done, true)
    missing ["`,`", "`>`"]
  sign ">"
  return [.word "use", .punct '<'] ++ Code.lifetimesFirst items trailing ++ [.punct '>']

/-- A binder, if there is one. -/
def optBinder : Reader (Option Code) := do
  if ← peek (hasWord "for") then return some (← g.binder) else return none

/-- A trait as a bound, or nothing where the trait is required to be `const`: such a bound has no
form of its own. -/
def traitBound? (const : Bool) : Reader (Option (Bool × Code × Path)) := do
  let binder ← g.optBinder
  let bracketed ← peek (hasGroup .bracket)
  let bare ← peek (hasWord "const")
  if bracketed then
    within .bracket (word "const")
    if !const then refuse "`[const]` is not allowed here"
  else if bare then
    word "const"
    if !const then refuse "`const` is not allowed here"
  let relaxed ← optSign "?"
  let binder ← if relaxed && binder.isNone then g.optBinder else pure binder
  let path ← g.path false
  let path ← match path.segments.getLast? with
    | some (.mk name .none) | some (.mk name (.angled _ [] _)) =>
      let colons ← peek fun trees => hasSign "::" trees && third (hasGroup .parenthesis) trees
      if colons || (← peek (hasGroup .parenthesis)) then
        discard (optSign "::")
        pure (.mk path.leading (path.segments.dropLast ++ [.mk name (← g.calledArgs)]))
      else pure path
    | _ => pure path
  if relaxed && binder.isSome then
    refuse "`for<...>` binder not allowed with `?` trait polarity modifier"
  if bracketed || bare then return none
  return some (relaxed, binder.getD [], path)

/-- A bound. -/
def boundRule (capture const : Bool) : Reader Bound := do
  if ← peek hasLifetime then return .lifetime (← lifetime)
  if ← peek (hasWord "use") then
    let code ← Grammar.capture
    if !capture then
      refuse "`use<...>` precise capturing syntax is not allowed here"
    return .verbatim code
  let paren ← peek (hasGroup .parenthesis)
  let (bound, taken) ← recorded <|
    if paren then within .parenthesis (g.traitBound? const) else g.traitBound? const
  match bound with
  | some (relaxed, binder, path) => return .trait paren relaxed binder path
  | none => return .verbatim (Tree.codeOf taken)

/-- Does something follow that may be a bound? -/
def startsBound (const : Bool) : Test := fun trees =>
  hasAnyIdent trees || hasSign "::" trees || hasSign "?" trees || hasLifetime trees
    || hasGroup .parenthesis trees || (const && hasGroup .bracket trees)

/-- One or more bounds with `+` between them, if `plus` allows more than one. -/
def bounds (plus capture const : Bool) : Reader (List Bound × Bool) :=
  repeatFrom ([] : List Bound) fun done => do
    let next ← g.bound capture const
    if !(plus && (← peek (hasSign "+"))) then return .inr ((next :: done).reverse, false)
    sign "+"
    if ← peek (startsBound const) then return .inl (next :: done)
    return .inr ((next :: done).reverse, true)

/-- Bounds up to a token that `stop` recognises. -/
def boundsUntil (stop : Test) : Reader (List Bound × Bool) :=
  repeatFrom (([] : List Bound), false) fun (done, plus) => do
    if ← peek stop then return .inr (done.reverse, plus)
    let next ← g.bound false true
    if ← optSign "+" then return .inl (next :: done, true)
    return .inr ((next :: done).reverse, false)

/-- Bounds up to a token that `stop` recognises, which has to be there. -/
def boundsBefore (const : Bool) (stop : Test) : Reader (List Bound × Bool) :=
  repeatFrom (([] : List Bound), false) fun (done, plus) => do
    if ← peek stop then return .inr (done.reverse, plus)
    let next ← g.bound false const
    if ← peek stop then return .inr ((next :: done).reverse, false)
    sign "+"
    return .inl (next :: done, true)

/-- Lifetimes up to a token that `stop` recognises. -/
def lifetimesUntil (stop : Test) : Reader (List Ident × Bool) :=
  repeatFrom (([] : List Ident), false) fun (done, plus) => do
    if ← peek stop then return .inr (done.reverse, plus)
    let next ← lifetime
    if ← optSign "+" then return .inl (next :: done, true)
    return .inr ((next :: done).reverse, false)

/-- Is there a trait among the bounds? -/
def hasTrait (bounds : List Bound) : Bool :=
  bounds.any fun bound => match bound with
    | .trait .. => true
    | _ => false

/-- Is there a bound that is neither a lifetime nor a list of captures? -/
def hasTraitOrConst (bounds : List Bound) : Bool :=
  bounds.any fun bound => match bound with
    | .trait .. => true
    | .verbatim (.atom (.ident ⟨"use", false⟩) :: _) => false
    | .verbatim _ => true
    | .lifetime _ => false

end Overlay.Grammar
